import Formula.Text.Case

/-!
Upper-casing twice is upper-casing once: no character is moved to one that is moved itself. A blank
comes from a blank alone.
-/

namespace Formula.Text

/-! ### Sets of code points -/

/-- A set of code points as the digits of a number. -/
def codeSet : List Nat → Nat
  | [] => 0
  | code :: rest => 1 <<< code ||| codeSet rest

theorem testBit_codeSet {codes : List Nat} {code : Nat} :
    (codeSet codes).testBit code = true ↔ code ∈ codes := by
  induction codes with
  | nil => simp [codeSet]
  | cons first rest ih =>
      rw [codeSet, Nat.testBit_or, Bool.or_eq_true, ih, Nat.one_shiftLeft, Nat.testBit_two_pow,
        decide_eq_true_eq, List.mem_cons, eq_comm]

theorem notMem_of_codeSet {codes others : List Nat} (apart : codeSet codes &&& codeSet others = 0)
    {code : Nat} (member : code ∈ codes) : code ∉ others := by
  intro both
  have digit : (codeSet codes &&& codeSet others).testBit code = true := by
    rw [Nat.testBit_and, Bool.and_eq_true]
    exact ⟨testBit_codeSet.mpr member, testBit_codeSet.mpr both⟩
  rw [apart, Nat.zero_testBit] at digit
  cases digit

/-! ### What a mapping moves -/

def CaseRun.sources (run : CaseRun) : List Nat :=
  (List.range ((run.last - run.first) / run.stride + 1)).map fun step =>
    run.first + step * run.stride

def CaseRun.images (run : CaseRun) : List Nat :=
  run.sources.map fun (code : Nat) => (code + run.offset).toNat

theorem CaseRun.mem_sources {run : CaseRun} {code image : Nat}
    (moved : run.target? code = some image) : code ∈ run.sources ∧ image ∈ run.images := by
  unfold target? at moved
  split at moved
  · rename_i inside
    simp only [Bool.and_eq_true, decide_eq_true_eq, beq_iff_eq] at inside
    obtain ⟨⟨above, below⟩, stride⟩ := inside
    cases moved
    have steps := Nat.div_add_mod (code - run.first) run.stride
    have source : code ∈ run.sources := by
      refine List.mem_map.mpr ⟨(code - run.first) / run.stride, List.mem_range.mpr ?_, ?_⟩
      · exact Nat.lt_succ_of_le (Nat.div_le_div_right (by omega))
      · rw [Nat.mul_comm]
        omega
    exact ⟨source, List.mem_map_of_mem source⟩
  · cases moved

namespace CaseMapping

def sources (m : CaseMapping) : List Nat :=
  m.runs.flatMap CaseRun.sources ++ m.expansions.map Prod.fst

def images (m : CaseMapping) : List Nat :=
  m.runs.flatMap CaseRun.images ++ m.expansions.flatMap Prod.snd

variable {m : CaseMapping} {c d : Char}

theorem map_cases (m : CaseMapping) (c : Char) :
    m.map c = [c] ∨ c.toNat ∈ m.sources ∧ ∀ d ∈ m.map c, ∃ image ∈ m.images, d = Char.ofNat image := by
  unfold map
  cases moved : m.runs.findSome? (CaseRun.target? · c.toNat) with
  | some image =>
      obtain ⟨run, among, target⟩ := List.exists_of_findSome?_eq_some moved
      obtain ⟨source, there⟩ := CaseRun.mem_sources target
      refine .inr ⟨?_, fun d same => ⟨image, ?_, List.mem_singleton.mp same⟩⟩
      · exact List.mem_append_left _ (List.mem_flatMap.mpr ⟨run, among, source⟩)
      · exact List.mem_append_left _ (List.mem_flatMap.mpr ⟨run, among, there⟩)
  | none =>
      cases expanded : m.expansions.lookup c.toNat with
      | some images =>
          obtain ⟨front, back, whole, -⟩ := List.lookup_eq_some_iff.mp expanded
          have among : (c.toNat, images) ∈ m.expansions := by
            rw [whole]
            exact List.mem_append_right front List.mem_cons_self
          refine .inr ⟨List.mem_append_right _ (List.mem_map_of_mem among), fun d inside => ?_⟩
          obtain ⟨image, there, rfl⟩ := List.mem_map.mp inside
          exact ⟨image, List.mem_append_right _ (List.mem_flatMap.mpr ⟨_, among, there⟩), rfl⟩
      | none => exact .inl rfl

theorem map_of_notMem (kept : c.toNat ∉ m.sources) : m.map c = [c] :=
  (m.map_cases c).resolve_right fun moved => kept moved.1

/-- No character is moved to a blank or to one that is moved itself. Characters of no code point
would be moved to that of zero. -/
def IsSettled (m : CaseMapping) : Prop :=
  ∀ image ∈ 0 :: m.images, image ∉ ' '.toNat :: m.sources

theorem toNat_ofNat_mem {codes : List Nat} {code : Nat} (member : code ∈ codes) :
    (Char.ofNat code).toNat ∈ 0 :: codes := by
  by_cases valid : code.isValidChar
  · rw [Char.ofNat, dif_pos valid]
    exact List.mem_cons_of_mem 0 member
  · rw [Char.ofNat, dif_neg valid]
    exact List.mem_cons_self

theorem IsSettled.map (settled : m.IsSettled) (member : d ∈ m.map c) :
    m.map d = [d] ∧ (d = ' ' → c = ' ') := by
  rcases m.map_cases c with same | ⟨-, moved⟩
  · rw [same, List.mem_singleton] at member
    subst member
    exact ⟨same, id⟩
  · obtain ⟨image, there, rfl⟩ := moved d member
    have apart := settled _ (toNat_ofNat_mem there)
    refine ⟨?_, fun blank => absurd (List.mem_cons.mpr (.inl (congrArg Char.toNat blank))) apart⟩
    exact map_of_notMem fun source => apart (List.mem_cons_of_mem _ source)

end CaseMapping

theorem isSettled_upperMapping : upperMapping.IsSettled := by
  have apart : codeSet (0 :: upperMapping.images) &&& codeSet (' '.toNat :: upperMapping.sources) =
      0 := by
    decide +kernel
  exact fun image => notMem_of_codeSet apart

/-! ### Names -/

theorem toList_upperName (name : String) :
    (upperName name).toList = name.toList.flatMap upperMapping.map := by
  unfold upperName upper ofString ofChars shown shownChars
  simp only [String.toList_ofList, List.flatMap_map, List.map_flatMap]
  congr 1
  funext c
  simp [CaseMapping.image, Function.comp_def, CodePoint.shown]

theorem upperName_of_kept {name : String} (kept : ∀ c ∈ name.toList, upperMapping.map c = [c]) :
    upperName name = name := by
  apply String.toList_injective
  rw [toList_upperName]
  generalize name.toList = cs at kept ⊢
  induction cs with
  | nil => rfl
  | cons c cs ih =>
      obtain ⟨first, rest⟩ := List.forall_mem_cons.mp kept
      rw [List.flatMap_cons, first, ih rest]
      rfl

theorem upperName_upperName (name : String) : upperName (upperName name) = upperName name := by
  refine upperName_of_kept fun d member => ?_
  rw [toList_upperName, List.mem_flatMap] at member
  obtain ⟨c, -, moved⟩ := member
  exact (isSettled_upperMapping.map moved).1

theorem blank_mem_upperName {name : String} :
    ' ' ∈ (upperName name).toList ↔ ' ' ∈ name.toList := by
  rw [toList_upperName, List.mem_flatMap]
  constructor
  · rintro ⟨c, member, moved⟩
    rwa [← (isSettled_upperMapping.map moved).2 rfl]
  · intro member
    exact ⟨' ', member, by decide +kernel⟩

end Formula.Text
