import Formula.Proofs.Function.Builtin
import Formula.Proofs.Text.Upper
import Formula.Proofs.Wording

/-!
What registration leads to: every function is kept under its own name in upper case, so that a name
finds a function with the letters of that name. And which functions report none of the errors that
only an evaluator knows of.
-/

namespace Formula

/-- What a function reports in its own words. -/
def CallFailure.words? : CallFailure → Option Text
  | .cause c => some c.message
  | .limit message _ => some message
  | _ => none

namespace Registry

variable {r r' : Registry} {d : Definition}

/-- Every function is kept under its own name. -/
def Keyed (r : Registry) : Prop := ∀ entry ∈ r.functions, entry.1 = Text.upperName entry.2.name

theorem keyed_empty : empty.Keyed := fun _ none => nomatch none

theorem Keyed.freeze (keyed : r.Keyed) : r.freeze.Keyed := keyed

theorem Keyed.register (keyed : r.Keyed) (registered : r.register d = .ok r') : r'.Keyed := by
  simp only [Registry.register] at registered
  split at registered
  · cases registered
  · split at registered
    · cases registered
    · cases registered
      intro entry member
      rcases Record.mem_of_mem_put member with rfl | old
      · rfl
      · exact keyed entry old

theorem Keyed.registerAll (keyed : r.Keyed) (definitions : List Definition) :
    (definitions.foldl (fun r d => (r.register d).toOption.getD r) r).Keyed := by
  induction definitions generalizing r with
  | nil => exact keyed
  | cons d rest ih =>
      refine ih ?_
      dsimp only
      cases registered : r.register d with
      | ok r' => exact keyed.register registered
      | error e => exact keyed

theorem keyed_ofDefinitions (definitions : List Definition) : (ofDefinitions definitions).Keyed :=
  keyed_empty.registerAll definitions

theorem keyed_builtin : builtin.Keyed := (keyed_ofDefinitions builtinFunctions).freeze

theorem Keyed.upperName_eq (keyed : r.Keyed) {name : String} (found : r.find? name = some d) :
    Text.upperName name = Text.upperName d.name :=
  keyed _ (Record.mem_of_get? found)

/-- Built-in functions have names in upper case. -/
theorem upperName_builtin {d : Definition} (member : d ∈ builtinFunctions) :
    Text.upperName d.name = d.name := by
  have apart : Text.codeSet ((builtinFunctions.flatMap (·.name.toList)).map Char.toNat) &&&
      Text.codeSet Text.upperMapping.sources = 0 := by
    decide +kernel
  exact Text.upperName_of_kept fun c letter =>
    Text.CaseMapping.map_of_notMem (Text.notMem_of_codeSet apart (List.mem_map_of_mem
      (List.mem_flatMap.mpr ⟨d, member, letter⟩)))

theorem find?_builtin_of_mem {d : Definition} (member : d ∈ builtinFunctions) :
    builtin.find? d.name = some d := by
  have distinct : (builtinFunctions.map fun d => Text.upperName d.name).Nodup := by
    rw [List.map_congr_left fun d => upperName_builtin]
    decide +kernel
  rw [builtin, find?_freeze]
  exact find?_ofDefinitions_of_mem distinct member

/-- A name without blanks finds no function with a blank in its name. -/
theorem Keyed.blank_notMem (keyed : r.Keyed) {name : String} (found : r.find? name = some d)
    (noBlank : ' ' ∉ name.toList) : ' ' ∉ d.name.toList := by
  rw [← Text.blank_mem_upperName] at noBlank ⊢
  rwa [← keyed.upperName_eq found]

theorem find?_upperName (r : Registry) (name : String) : r.find? (Text.upperName name) = r.find? name := by
  rw [find?, Text.upperName_upperName]
  rfl

/-- No function reports an error that only an evaluator knows of. -/
def Discreet (r : Registry) : Prop :=
  ∀ name d, r.find? name = some d → ∀ context args failure words,
    d.implementation context args = .error failure → failure.words? = some words → ¬ IsAlarm words

end Registry

theorem not_isAlarm_order (e : Value.OrderError) : ¬ IsAlarm e.message := by
  cases e with
  | incomparable left right =>
      exact not_isAlarm (((Text.begins_self _).join _).join _ |>.join _) (by decide)
  | mixedClocks => exact not_isAlarm (Text.begins_self _) (by decide)

theorem Definition.discreet_builtin {d : Definition} (member : d ∈ builtinFunctions)
    {context : Context} {args : List Value} {failure : CallFailure} {words : Text}
    (failed : d.implementation context args = .error failure)
    (reported : failure.words? = some words) : ¬ IsAlarm words := by
  have plain := plain_builtin d member context args _ failed
  cases failure with
  | cause c =>
      obtain rfl := Option.some.inj reported
      cases c with
      | order e => exact not_isAlarm_order e
      | _ => cases plain
  | limit message position => cases plain
  | _ => cases reported

namespace Registry

theorem discreet_ofDefinitions {definitions : List Definition}
    (among : ∀ d ∈ definitions, d ∈ builtinFunctions) : (ofDefinitions definitions).Discreet :=
  fun _ d found _ _ _ _ failed reported =>
    Definition.discreet_builtin (among d (mem_of_find?_ofDefinitions found)) failed reported

theorem discreet_builtin : builtin.Discreet := fun _ _ found _ _ _ _ failed reported =>
  Definition.discreet_builtin (mem_of_find?_builtin found) failed reported

end Registry

end Formula
