import Formula.Function.Library
import Formula.Proofs.Token.Lexeme
import Formula.Suggestion
import Mathlib.Data.List.DropRight
import Mathlib.Data.Prod.Lex
import Mathlib.Data.String.Basic

/-!
What is suggested at a cursor: all that goes on from the longest name that ends there, and nothing
else, sorted by label and kind. A newline right before the cursor is read over.
-/

namespace Formula.Suggestion

open Text Token

/-! ### The name that ends at a place -/

/-- A name, perhaps with a dollar sign before it. -/
inductive IsPartial : List Char → Prop where
  | name {cs : List Char} (isName : IsName cs) : IsPartial cs
  | dollar {cs : List Char} (isName : IsName cs) : IsPartial ('$' :: cs)

/-- The longest name with or without a dollar sign that a text ends in, or nothing if there is
none. -/
structure EndsIn (text typed : List Char) : Prop where
  named : typed = [] ∨ IsPartial typed
  ends : typed <:+ text
  longest : ∀ other, IsPartial other → other <:+ text → other.length ≤ typed.length

theorem EndsIn.unique {text typed typed' : List Char} (ends : EndsIn text typed)
    (ends' : EndsIn text typed') : typed = typed' := by
  have bounded : ∀ {xs ys : List Char}, EndsIn text xs → EndsIn text ys →
      xs.length ≤ ys.length := by
    intro xs ys first second
    rcases first.named with rfl | named
    · exact Nat.zero_le _
    · exact second.longest xs named first.ends
  exact (List.suffix_of_suffix_length_le ends.ends ends'.ends (bounded ends ends')).eq_of_length_le
    (bounded ends' ends)

/-- The word characters at the end of a text without the digits that they begin with. -/
def lastName (text : List Char) : List Char := (text.rtakeWhile isWord).dropWhile isDigit

/-- The last name makes up the whole word, and a dollar sign stands before it. -/
def AfterDollar (text : List Char) : Prop :=
  lastName text ≠ [] ∧ (lastName text).length = (text.rtakeWhile isWord).length ∧
    (text.rdropWhile isWord).getLast? = some '$'

instance (text : List Char) : Decidable (AfterDollar text) :=
  inferInstanceAs (Decidable (_ ∧ _ ∧ _))

/-- The last name with the dollar sign before it. -/
def lastPartial (text : List Char) : List Char :=
  if AfterDollar text then '$' :: lastName text else lastName text

variable {cs text : List Char} {p : Char → Bool}

theorem rtakeWhile_append_of_pos (front : List Char) (passes : ∀ c ∈ cs, p c = true) :
    (front ++ cs).rtakeWhile p = front.rtakeWhile p ++ cs := by
  rw [List.rtakeWhile, List.reverse_append, List.takeWhile_append_of_pos (by simpa using passes),
    List.reverse_append, List.reverse_reverse, List.rtakeWhile]

theorem rdropWhile_append_of_pos (front : List Char) (passes : ∀ c ∈ cs, p c = true) :
    (front ++ cs).rdropWhile p = front.rdropWhile p := by
  rw [List.rdropWhile, List.reverse_append, List.dropWhile_append_of_pos (by simpa using passes),
    List.rdropWhile]

theorem suffix_dropWhile {word : List Char} (first : ∀ c ∈ cs.head?, p c = false)
    (ends : cs <:+ word) : cs <:+ word.dropWhile p := by
  induction word with
  | nil => exact ends
  | cons c word ih =>
      rw [List.dropWhile_cons]
      split
      · rename_i passes
        rcases List.suffix_cons_iff.mp ends with rfl | behind
        · exact absurd passes (by simp [first c rfl])
        · exact ih behind
      · exact ends

theorem isName_lastName (nonempty : lastName text ≠ []) : IsName (lastName text) := by
  obtain ⟨c, more, split⟩ := List.exists_cons_of_ne_nil nonempty
  have words : ∀ d ∈ c :: more, isWord d = true := fun d member =>
    List.mem_rtakeWhile_imp ((List.dropWhile_suffix isDigit).subset (split ▸ member))
  have notDigit : isDigit c = false := by
    have first := List.head?_dropWhile_not isDigit (text.rtakeWhile isWord)
    rw [show (text.rtakeWhile isWord).dropWhile isDigit = c :: more from split] at first
    simpa using first
  rw [List.forall_mem_cons] at words
  rw [split]
  exact .intro (by rw [isNameStart, words.1, notDigit]; rfl) words.2

/-- Every name that a text ends in is a part of the last one. -/
theorem suffix_lastName (isName : IsName cs) (ends : cs <:+ text) : cs <:+ lastName text := by
  obtain ⟨front, rfl⟩ := ends
  refine suffix_dropWhile isName.not_isDigit ?_
  rw [rtakeWhile_append_of_pos front isName.isWord]
  exact List.suffix_append _ _

theorem lastName_suffix (text : List Char) : lastName text <:+ text :=
  (List.dropWhile_suffix isDigit).trans (List.rtakeWhile_suffix isWord text)

/-- Behind a dollar sign a name is the last one, as no word goes on over the sign. -/
theorem afterDollar_append (front : List Char) (isName : IsName cs) :
    AfterDollar (front ++ '$' :: cs) ∧ lastName (front ++ '$' :: cs) = cs := by
  have words := isName.isWord
  have notWord : ¬ isWord '$' = true := by decide +kernel
  have word : (front ++ '$' :: cs).rtakeWhile isWord = cs := by
    rw [List.append_cons, rtakeWhile_append_of_pos _ words,
      List.rtakeWhile_concat_neg _ _ _ notWord, List.nil_append]
  have name : lastName (front ++ '$' :: cs) = cs := by
    rw [lastName, word]
    exact (List.dropWhile_suffix isDigit).eq_of_length_le
      (suffix_dropWhile isName.not_isDigit (List.suffix_refl cs)).length_le
  refine ⟨⟨?_, ?_, ?_⟩, name⟩
  · rw [name]
    rintro rfl
    cases isName
  · rw [name, word]
  · rw [List.append_cons, rdropWhile_append_of_pos _ words,
      List.rdropWhile_concat_neg _ _ _ notWord, List.getLast?_concat]

theorem endsIn_lastPartial (text : List Char) : EndsIn text (lastPartial text) := by
  rw [lastPartial]
  split
  case isTrue after =>
    obtain ⟨nonempty, whole, sign⟩ := after
    refine ⟨.inr (.dollar (isName_lastName nonempty)), ?_, fun other named ends => ?_⟩
    · obtain ⟨front, before⟩ := List.getLast?_eq_some_iff.mp sign
      have word : lastName text = text.rtakeWhile isWord :=
        (List.dropWhile_suffix isDigit).eq_of_length_le whole.ge
      refine ⟨front, ?_⟩
      rw [word, List.append_cons, ← before, List.rdropWhile_append_rtakeWhile]
    · cases named with
      | name isName => exact (suffix_lastName isName ends).length_le.trans (Nat.le_succ _)
      | dollar isName =>
          exact Nat.succ_le_succ
            (suffix_lastName isName ((List.suffix_cons _ _).trans ends)).length_le
  case isFalse bare =>
    refine ⟨?_, lastName_suffix text, fun other named ends => ?_⟩
    · by_cases empty : lastName text = []
      · exact .inl empty
      · exact .inr (.name (isName_lastName empty))
    · cases named with
      | name isName => exact (suffix_lastName isName ends).length_le
      | dollar isName =>
          obtain ⟨front, rfl⟩ := ends
          exact absurd (afterDollar_append front isName).1 bare

/-! ### The name at the cursor -/

/-- A position as one of the formula: positions outside of it are its nearer end. -/
def cursor (formula : String) (position : Int) : Nat :=
  (max 0 (min position formula.length)).toNat

/-- The text without a newline at its very end. -/
def upToNewline (text : List Char) : List Char :=
  if text.getLast? = some '\n' then text.dropLast else text

theorem dropNewline_reverse (text : List Char) :
    dropNewline text.reverse = (upToNewline text).reverse := by
  induction text using List.reverseRecOn with
  | nil => rfl
  | append_singleton front c _ =>
      rw [List.reverse_concat]
      by_cases newline : c = '\n'
      · rw [newline, dropNewline, upToNewline, if_pos List.getLast?_concat, List.dropLast_concat]
      · have kept : upToNewline (front ++ [c]) = front ++ [c] := by
          rw [upToNewline, if_neg (by simpa using newline)]
        rw [kept, List.reverse_concat, dropNewline]
        rintro rest ⟨⟩
        exact newline rfl

theorem nameAtEnd_reverse (text : List Char) :
    nameAtEnd text.reverse = lastPartial (upToNewline text) := by
  rw [nameAtEnd, dropNewline_reverse, lastPartial]
  refine if_congr ?_ rfl rfl
  rw [AfterDollar, List.rdropWhile, List.getLast?_reverse, ← and_assoc]
  simp only [Bool.and_eq_true, Bool.not_eq_true', List.isEmpty_eq_false_iff, beq_iff_eq]
  rfl

theorem take_cursor (formula : String) (position : Int) :
    formula.toList.take (cursor formula position) = formula.toList.take position.toNat := by
  rw [List.take_eq_take_iff, cursor, String.length_toList]
  omega

theorem partialName_eq (formula : String) (position : Int) :
    partialName formula position = (lowerName (String.ofList
      (lastPartial (upToNewline (formula.toList.take (cursor formula position)))))).toList := by
  rw [partialName, ← take_cursor, nameAtEnd_reverse]

/-! ### What is offered -/

/-- A suggestion with the names under which it is found. -/
structure Offer where
  entry : Suggestion
  names : List String

/-- All there is to suggest: one entry for each function, field and variable and for each name of
the context. -/
def offers (registry : Registry) (fields vars : List String) : List Offer :=
  (registry.functions.map fun entry => ⟨ofFunction entry.2, [entry.2.name]⟩) ++
    (fields.map fun name => ⟨ofField name, [name]⟩) ++
    (vars.map fun name => ⟨ofVariable name, [variableLabel name, name]⟩) ++
    contextSuggestions.map fun s => ⟨s, [s.label]⟩

/-- The entries that go on from what is typed, without regard to case. -/
def answers (typed : List Char) (offers : List Offer) : List Suggestion :=
  (offers.filter fun offer =>
    offer.names.any (completes (lowerName (String.ofList typed)).toList)).map Offer.entry

theorem answers_append (typed : List Char) (first last : List Offer) :
    answers typed (first ++ last) = answers typed first ++ answers typed last := by
  rw [answers, List.filter_append, List.map_append, answers, answers]

theorem answers_map {α : Type} (typed : List Char) (xs : List α) (offer : α → Offer) :
    answers typed (xs.map offer) = (xs.filter fun x =>
      (offer x).names.any (completes (lowerName (String.ofList typed)).toList)).map
        fun x => (offer x).entry := by
  rw [answers, List.filter_map, List.map_map]
  rfl

/-- A name of the context is found by its label alone, as its entry is of no function. -/
theorem mem_answers_context {registry : Registry} {typed : List Char} {s : Suggestion}
    (member : s ∈ contextSuggestions) : s ∈ answers typed (offers registry [] []) ↔
      completes (lowerName (String.ofList typed)).toList s.label = true := by
  have kinds : ∀ s ∈ contextSuggestions, s.kind = .variable := by decide
  have kind := kinds s member
  simp only [offers, answers_append, answers_map, List.mem_append, List.any_cons, List.any_nil,
    Bool.or_false, List.map_id']
  rw [List.mem_filter]
  constructor
  · rintro (((function | field) | var) | ⟨-, found⟩)
    · obtain ⟨entry, -, rfl⟩ := List.mem_map.mp function
      cases kind
    · cases field
    · cases var
    · exact found
  · exact fun found => .inr ⟨member, found⟩

theorem completions_perm (registry : Registry) (fields vars : List String) (typed : List Char) :
    (completions registry fields vars (lowerName (String.ofList typed)).toList).Perm
      (answers typed (offers registry fields vars)) := by
  have listed : registry.list.Perm (registry.functions.map Prod.snd) := List.mergeSort_perm _ _
  simp only [offers, answers_append, answers_map, List.any_cons, List.any_nil, Bool.or_false,
    List.map_id']
  rw [completions]
  refine .append_right _ (.append_right _ (.append_right _ ?_))
  have functions := (listed.filter
    fun d => completes (lowerName (String.ofList typed)).toList d.name).map ofFunction
  simpa only [List.filter_map, List.map_map, Function.comp_def] using functions

/-- By label without regard to case, then by kind. -/
def sortKey (s : Suggestion) : String ×ₗ String := toLex (foldName s.label, s.kind.name)

theorem isAtMost_iff (a b : Suggestion) : isAtMost a b = true ↔ sortKey a ≤ sortKey b := by
  rw [sortKey, sortKey, Prod.Lex.toLex_le_toLex]
  simp only [isAtMost]
  split
  case isTrue same => simp [same]
  case isFalse apart => simp [apart, lt_iff_le_and_ne]

theorem isAtMost_trans (a b c : Suggestion) (first : isAtMost a b = true)
    (second : isAtMost b c = true) : isAtMost a c = true := by
  rw [isAtMost_iff] at *
  exact le_trans first second

theorem isAtMost_total (a b : Suggestion) : (isAtMost a b || isAtMost b a) = true := by
  rw [Bool.or_eq_true, isAtMost_iff, isAtMost_iff]
  exact le_total _ _

theorem sorted_mergeSort (entries : List Suggestion) :
    ((entries.mergeSort isAtMost).map sortKey).Pairwise (· ≤ ·) := by
  have sorted : (entries.mergeSort isAtMost).Pairwise fun a b => isAtMost a b = true :=
    List.pairwise_mergeSort isAtMost_trans isAtMost_total entries
  exact List.pairwise_map.mpr (sorted.imp fun ordered => (isAtMost_iff _ _).mp ordered)

end Suggestion

open Suggestion

theorem Registry.suggest_perm (registry : Registry) (formula : String) (position : Int)
    (fields vars : List String) :
    (registry.suggest formula position fields vars).Perm
      (answers (lastPartial (upToNewline (formula.toList.take (cursor formula position))))
        (offers registry fields vars)) := by
  rw [Registry.suggest, partialName_eq]
  exact (List.mergeSort_perm _ _).trans (completions_perm registry fields vars _)

/-- What is suggested is what goes on from the name that the text before the cursor ends in, read
without a newline at its very end. -/
theorem Registry.suggest_answers (registry : Registry) (formula : String) (position : Int)
    (fields vars : List String) :
    let before := formula.toList.take (cursor formula position)
    let suggested := registry.suggest formula position fields vars
    ∃ typed, EndsIn (upToNewline before) typed ∧
      suggested.Perm (answers typed (offers registry fields vars)) ∧
      (suggested.map sortKey).Pairwise (· ≤ ·) :=
  ⟨_, endsIn_lastPartial _, registry.suggest_perm formula position fields vars, sorted_mergeSort _⟩

/-- No name ends behind a newline, and yet the names of the context are not suggested there. -/
theorem Registry.suggest_behind_newline :
    let before := "SU\n".toList.take (cursor "SU\n" 3)
    ¬ ∃ typed, EndsIn before typed ∧
      (Registry.builtin.suggest "SU\n" 3 [] []).Perm
        (answers typed (offers Registry.builtin [] [])) := by
  rintro before ⟨typed, ends, perm⟩
  have nothing : typed = [] := (ends.unique (endsIn_lastPartial before)).trans (by decide +kernel)
  have readOver : lastPartial (upToNewline before) = "SU".toList := by decide +kernel
  have found : contextSuggestions[0] ∈ answers typed (offers Registry.builtin [] []) :=
    (mem_answers_context (List.getElem_mem _)).mpr (by rw [nothing]; decide +kernel)
  have suggested := (Registry.builtin.suggest_perm "SU\n" 3 [] []).mem_iff.mp
    (perm.mem_iff.mpr found)
  have goesOn := (mem_answers_context (List.getElem_mem _)).mp suggested
  rw [readOver] at goesOn
  exact absurd goesOn (by decide +kernel)

end Formula
