import Formula.Error

/-!
How messages begin, and the messages that a formula without issues never ends with.
-/

namespace Formula

namespace Text

def Begins (words : String) (message : Text) : Prop := (ofString words).points <+: message.points

instance (words : String) (message : Text) : Decidable (Begins words message) :=
  inferInstanceAs (Decidable (_ <+: _))

variable {words other : String} {message : Text}

theorem ofString_append (s t : String) : ofString (s ++ t) = ofString s ++ ofString t := by
  simp only [ofString, ofChars, String.toList_append, List.map_append]
  rfl

theorem ofString_append_inj {s t u : String} : ofString (s ++ t) = ofString (s ++ u) ↔ t = u := by
  constructor
  · intro same
    have shown := congrArg Text.shown same
    rw [shown_ofString, shown_ofString] at shown
    have letters := congrArg String.toList shown
    rw [String.toList_append, String.toList_append] at letters
    exact String.toList_injective (List.append_cancel_left letters)
  · rintro rfl
    rfl

theorem begins_self (words : String) : Begins words (ofString words) := List.prefix_rfl

theorem Begins.append (begins : Begins words message) (rest : Text) :
    Begins words (message ++ rest) := begins.trans (List.prefix_append _ _)

theorem Begins.join {s : String} (begins : Begins words (ofString s)) (t : String) :
    Begins words (ofString (s ++ t)) := by
  rw [ofString_append]
  exact begins.append _

theorem begins_behind (name : String) {text : String} (begins : Begins words (ofString text)) :
    Begins (name ++ words) (ofString (name ++ text)) := by
  rw [Begins, ofString_append, ofString_append, points_append, points_append]
  exact (List.prefix_append_right_inj _).mpr begins

theorem Begins.comparable (begins : Begins words message) (begins' : Begins other message) :
    Begins words (ofString other) ∨ Begins other (ofString words) :=
  List.prefix_or_prefix_of_prefix begins begins'

end Text

open Text

/-- How the messages begin that tell of something no evaluator could deal with. -/
def alarms : List String :=
  ["Unknown function", "Unknown operator", "Unknown unary operator", "Unknown logical operator",
    "Unknown node type", "Evaluation exceeds maximum depth"]

def IsAlarm (message : Text) : Prop := ∃ words ∈ alarms, Begins words message

theorem not_isAlarm {front : String} {message : Text} (begins : Begins front message)
    (apart : ∀ words ∈ alarms, ¬ Begins words (ofString front) ∧ ¬ Begins front (ofString words)) :
    ¬ IsAlarm message := by
  rintro ⟨words, member, alarm⟩
  obtain ⟨first, second⟩ := apart words member
  exact (alarm.comparable begins).elim first second

/-! ### Messages of what is no evaluation -/

theorem not_begins_unknown {front : String} {message : Text} (begins : Begins front message)
    (apart : ¬ Begins "Unknown" (ofString front) ∧ ¬ Begins front (ofString "Unknown")) :
    ¬ Begins "Unknown" message := fun unknown =>
  (unknown.comparable begins).elim apart.1 apart.2

theorem Token.ScanCause.not_unknown (cause : Token.ScanCause) :
    ¬ Begins "Unknown" (ofString cause.message) := by
  have front (words : String) : Begins words words := begins_self words
  cases cause with
  | strictEquality operator =>
      exact not_begins_unknown (((((front _).join _).join _).join _).join _) (by decide)
  | openExponent => exact not_begins_unknown (front _) (by decide)
  | unterminatedString => exact not_begins_unknown (front _) (by decide)
  | unexpectedCharacter c => exact not_begins_unknown (((front _).join _).join _) (by decide)

theorem GrammarCause.not_unknown (cause : GrammarCause) :
    ¬ Begins "Unknown" (ofString cause.message) := by
  have front (words : String) : Begins words words := begins_self words
  cases cause with
  | unexpectedToken value => exact not_begins_unknown (((front _).join _).join _) (by decide)
  | unexpectedOperator value previous =>
      exact not_begins_unknown (((((front _).join _).join _).join _).join _) (by decide)
  | _ => exact not_begins_unknown (front _) (by decide)

theorem LimitCause.not_unknown {cause : LimitCause} (own : ∀ message, cause ≠ .reported message) :
    ¬ Begins "Unknown" (ofString cause.message) := by
  have front (words : String) : Begins words words := begins_self words
  cases cause with
  | length bound => exact not_begins_unknown (((front _).join _).join _) (by decide)
  | nesting bound => exact not_begins_unknown ((front _).join _) (by decide)
  | depth bound => exact not_begins_unknown ((front _).join _) (by decide)
  | nodes bound => exact not_begins_unknown (((front _).join _).join _) (by decide)
  | evaluationDepth bound => exact not_begins_unknown ((front _).join _) (by decide)
  | host => exact not_begins_unknown (front _) (by decide)
  | reported message => exact absurd rfl (own message)

/-- An error that formulas have before they are evaluated. -/
inductive FormulaError.OfSource : FormulaError → Prop where
  | scan (error : Token.ScanError) : OfSource (.scan error)
  | grammar (cause : GrammarCause) (position : Nat) : OfSource (.grammar cause position)
  | limit {cause : LimitCause} (own : ∀ message, cause ≠ .reported message)
      (position : Option Nat) : OfSource (.limit cause position)

/-- Only while a formula is evaluated is something unknown. -/
theorem FormulaError.OfSource.not_unknown {e : FormulaError} (source : e.OfSource) :
    ¬ Begins "Unknown" e.info.message := by
  cases source with
  | scan error => exact error.cause.not_unknown
  | grammar cause position => exact cause.not_unknown
  | limit own position => exact LimitCause.not_unknown own

/-! ### Messages that begin with the name of a function -/

namespace Text

theorem split_at_first {α : Type} {b : α} {u v x y : List α} (noU : b ∉ u) (noX : b ∉ x)
    (front : u ++ b :: v <+: x ++ b :: y) : u = x ∧ v <+: y := by
  induction u generalizing x with
  | nil =>
      cases x with
      | nil => exact ⟨rfl, ((List.cons_prefix_cons).mp front).2⟩
      | cons c x => exact absurd (List.mem_cons.mpr (.inl ((List.cons_prefix_cons).mp front).1)) noX
  | cons a u ih =>
      cases x with
      | nil => exact absurd (List.mem_cons.mpr (.inl ((List.cons_prefix_cons).mp front).1.symm)) noU
      | cons c x =>
          obtain ⟨rfl, rest⟩ := (List.cons_prefix_cons).mp front
          obtain ⟨rfl, later⟩ := ih (fun member => noU (List.mem_cons_of_mem a member))
            (fun member => noX (List.mem_cons_of_mem a member)) rest
          exact ⟨rfl, later⟩

def blank : CodePoint := .char ' '

def colon : CodePoint := .char ':'

def firstWord (words : String) : List CodePoint := (ofString words).points.takeWhile (· ≠ blank)

def laterWords (words : String) : List CodePoint :=
  (ofString words).points.drop ((firstWord words).length + 1)

end Text

theorem alarm_words :
    ∀ words ∈ alarms, (ofString words).points = firstWord words ++ blank :: laterWords words ∧
      blank ∉ firstWord words ∧ colon ∉ firstWord words ∧
      ¬ laterWords words <+: (ofString "expects ").points ∧
      ¬ (ofString "expects ").points <+: laterWords words := by
  decide

theorem blank_notMem_ofString {name : String} (noBlank : ' ' ∉ name.toList) :
    blank ∉ (ofString name).points := by
  intro member
  obtain ⟨c, inside, same⟩ := List.mem_map.mp member
  cases same
  exact noBlank inside

theorem not_isAlarm_of_name {name : String} {message : Text} (noBlank : ' ' ∉ name.toList)
    (begins : Begins (name ++ ": ") message ∨ Begins (name ++ " expects ") message) :
    ¬ IsAlarm message := by
  rintro ⟨words, member, alarm⟩
  obtain ⟨split, noBlank', noColon, apart, apart'⟩ := alarm_words words member
  have noBlank := blank_notMem_ofString noBlank
  rw [Begins, split] at alarm
  -- up to its first blank the message is the name, with a colon or before what it expects
  rcases begins with ⟨rest, whole⟩ | ⟨rest, whole⟩
  · have points : message.points = ((ofString name).points ++ [colon]) ++ blank :: rest := by
      rw [← whole, ofString_append, points_append]
      simp only [List.append_assoc]
      rfl
    have noBlank : blank ∉ (ofString name).points ++ [colon] := by
      intro member
      exact (List.mem_append.mp member).elim noBlank (by decide)
    rw [points] at alarm
    obtain ⟨first, -⟩ := split_at_first noBlank' noBlank alarm
    rw [first] at noColon
    exact noColon (List.mem_append_right _ List.mem_cons_self)
  · have points : message.points =
        (ofString name).points ++ blank :: ((ofString "expects ").points ++ rest) := by
      rw [← whole, ofString_append, points_append]
      simp only [List.append_assoc]
      rfl
    rw [points] at alarm
    obtain ⟨-, later⟩ := split_at_first noBlank' noBlank alarm
    exact (List.prefix_or_prefix_of_prefix later (List.prefix_append _ _)).elim apart apart'

end Formula
