import Formula.Proofs.Expr.Places
import Formula.Proofs.Expr.References
import Mathlib.Data.List.Pairwise
import Mathlib.Order.Bounds.Basic

/-!
The references of a tree by their first uses. A walk through a parsed tree comes to its names in their
order in the source, so a name that is noted when the walk first comes to it is noted with the least of
its positions.
-/

namespace Formula

namespace References

/-- The names of some uses, each once, with a position that none of its uses precedes. -/
structure FirstOf (uses names : List (String × Nat)) : Prop where
  kept : names.Sublist uses
  distinct : (names.map Prod.fst).Nodup
  first : ∀ use ∈ uses, ∃ noted ∈ names, noted.1 = use.1 ∧ noted.2 ≤ use.2

theorem firstOf_nil : FirstOf [] [] :=
  ⟨.slnil, List.nodup_nil, fun _ none => nomatch none⟩

/-- A later use is noted only if its name was not used before. -/
theorem FirstOf.note {uses names : List (String × Nat)} (first : FirstOf uses names)
    {use : String × Nat} (later : ∀ before ∈ uses, before.2 < use.2) :
    FirstOf (uses ++ [use]) (note use.1 use.2 names) := by
  have distinct : ((References.note use.1 use.2 names).map Prod.fst).Nodup :=
    nodup_note first.distinct
  unfold References.note at distinct ⊢
  split
  · rename_i known
    refine ⟨first.kept.trans (List.sublist_append_left _ _), first.distinct, fun other member => ?_⟩
    rcases List.mem_append.mp member with before | now
    · exact first.first other before
    · cases List.mem_singleton.mp now
      obtain ⟨noted, among, same⟩ := List.mem_map.mp (Record.contains_iff.mp known)
      exact ⟨noted, among, same, Nat.le_of_lt (later noted (first.kept.subset among))⟩
  · rename_i fresh
    rw [if_neg fresh] at distinct
    refine ⟨first.kept.append (.refl _), distinct, fun other member => ?_⟩
    rcases List.mem_append.mp member with before | now
    · obtain ⟨noted, among, same⟩ := first.first other before
      exact ⟨noted, List.mem_append_left _ among, same⟩
    · exact ⟨other, List.mem_append_right _ now, rfl, Nat.le_refl _⟩

theorem FirstOf.noteAll {uses others names : List (String × Nat)} (first : FirstOf uses names)
    (ordered : (uses ++ others).Pairwise fun a b => a.2 < b.2) :
    FirstOf (uses ++ others) (noteAll others names) := by
  induction others generalizing uses names with
  | nil =>
      rw [List.append_nil]
      exact first
  | cons use others ih =>
      have later : ∀ before ∈ uses, before.2 < use.2 := fun before member =>
        (List.pairwise_append.mp ordered).2.2 before member use List.mem_cons_self
      rw [List.append_cons] at ordered ⊢
      exact ih (first.note later) ordered

theorem FirstOf.mem_iff {uses names : List (String × Nat)} (first : FirstOf uses names)
    {name : String} {position : Nat} :
    (name, position) ∈ names ↔ IsLeast {p | (name, p) ∈ uses} position := by
  constructor
  · intro member
    refine ⟨first.kept.subset member, fun other used => ?_⟩
    obtain ⟨noted, among, same, le⟩ := first.first _ used
    -- a name is noted once, so what was noted for the other use is the same
    have once : noted = (name, position) :=
      List.inj_on_of_nodup_map first.distinct among member same
    rw [once] at le
    exact le
  · rintro ⟨used, least⟩
    obtain ⟨⟨_, noted⟩, among, rfl, le⟩ := first.first _ used
    have same : position = noted := Nat.le_antisymm (least (first.kept.subset among)) le
    rwa [same]

end References

namespace Expr

/-! ### The order of names -/

/-- Of two nodes that are names the first one stands before the second one. -/
def Precedes (a b : Expr) : Prop :=
  ∀ x, a.ownName? = some x → ∀ y, b.ownName? = some y → x.1 < y.1

theorem precedes_nodes {host : Host} {source : String} {maxNesting : Int} {t : Expr}
    (parses : parse host source maxNesting = .ok t) : t.nodes.Pairwise Precedes := by
  obtain ⟨tokens, stop, lexes, parsed⟩ := ofTokens_of_parse parses
  obtain ⟨-, rfl, -⟩ := Token.tokens_eq_ok_iff.mp lexes
  have lies : Lies (Token.scan source).tokens [t] := (derives_of_ofTokens parsed).lies
  have names := lies.ownNames_sublist
  rw [List.flatMap_singleton] at names
  have ordered := (pairwise_names (Token.pairwise_scan source)).sublist names
  exact List.pairwise_filterMap.mp ordered

theorem ownName?_of_fieldUse? {e : Expr} {use : String × Nat} (uses : e.fieldUse? = some use) :
    ∃ name, e.ownName? = some (use.2, name) := by
  obtain rfl := fieldUse?_eq_some.mp uses
  exact ⟨use.1, rfl⟩

theorem ownName?_of_functionUse? {e : Expr} {use : String × Nat}
    (uses : e.functionUse? = some use) : ∃ name, e.ownName? = some (use.2, name) := by
  obtain ⟨callee, arguments, -, rfl⟩ := functionUse?_eq_some.mp uses
  exact ⟨callee, rfl⟩

variable {nodes : List Expr} {use? : Expr → Option (String × Nat)}

theorem pairwise_uses (ordered : nodes.Pairwise Precedes)
    (named : ∀ {e use}, use? e = some use → ∃ name, e.ownName? = some (use.2, name)) :
    (nodes.filterMap use?).Pairwise fun a b => a.2 < b.2 := by
  refine List.pairwise_filterMap.mpr (ordered.imp fun precedes x first y second => ?_)
  obtain ⟨_, first⟩ := named first
  obtain ⟨_, second⟩ := named second
  exact precedes _ first _ second

/-- Two nodes that are names stand at different places. -/
def Apart (a b : Expr) : Prop :=
  ∀ x, a.ownName? = some x → ∀ y, b.ownName? = some y → x.1 ≠ y.1

instance : Std.Symm Apart :=
  ⟨fun _ _ apart x first y second => (apart y second x first).symm⟩

theorem eq_of_ownName? (ordered : nodes.Pairwise Precedes) {a b : Expr} (left : a ∈ nodes)
    (right : b ∈ nodes) {position : Nat} {name name' : String}
    (first : a.ownName? = some (position, name)) (second : b.ownName? = some (position, name')) :
    a = b := by
  by_contra different
  have apart : nodes.Pairwise Apart :=
    ordered.imp fun precedes x first y second => Nat.ne_of_lt (precedes x first y second)
  exact apart.forall left right different _ first _ second rfl

/-! ### First uses -/

/-- Names are listed each once, with the least position of its uses, in the order of these. -/
structure ListsFirst (used : String → Nat → Prop) (names : List (String × Nat)) : Prop where
  complete : ∀ name, name ∈ names.map Prod.fst ↔ ∃ position, used name position
  least : ∀ name position, (name, position) ∈ names ↔ IsLeast {p | used name p} position
  distinct : (names.map Prod.fst).Nodup
  ordered : names.Pairwise fun a b => a.2 < b.2

theorem listsFirst_noteAll {used : String → Nat → Prop} (ordered : nodes.Pairwise Precedes)
    (named : ∀ {e use}, use? e = some use → ∃ name, e.ownName? = some (use.2, name))
    (used_iff : ∀ name position, (name, position) ∈ nodes.filterMap use? ↔ used name position) :
    ListsFirst used (References.noteAll (nodes.filterMap use?) []) := by
  have after := pairwise_uses ordered named
  have first : References.FirstOf (nodes.filterMap use?) _ := References.firstOf_nil.noteAll after
  refine ⟨fun name => ?_, fun name position => ?_, first.distinct, after.sublist first.kept⟩
  · simp only [References.mem_noteAll, used_iff, List.map_nil, List.not_mem_nil, or_false]
  · simp only [first.mem_iff, used_iff]

variable {t : Expr}

theorem listsFirst_fields (ordered : t.nodes.Pairwise Precedes) :
    ListsFirst (fun name position => Within (.identifier name position) t)
      t.references.fields := by
  rw [fields_references]
  exact listsFirst_noteAll ordered ownName?_of_fieldUse? fun _ _ => mem_fieldUses

theorem listsFirst_functions (ordered : t.nodes.Pairwise Precedes) :
    ListsFirst (fun name position => ∃ callee arguments, Text.upperName callee = name ∧
      Within (.call callee arguments position) t) t.references.functions := by
  rw [functions_references]
  exact listsFirst_noteAll ordered ownName?_of_functionUse? fun _ _ => mem_functionUses

/-- No field stands where a function does. -/
theorem field_ne_function (ordered : t.nodes.Pairwise Precedes) {field function : String × Nat}
    (read : field ∈ t.references.fields) (called : function ∈ t.references.functions) :
    field.2 ≠ function.2 := by
  intro same
  obtain ⟨within, -⟩ := ((listsFirst_fields ordered).least field.1 field.2).mp read
  obtain ⟨⟨callee, arguments, -, within'⟩, -⟩ :=
    ((listsFirst_functions ordered).least function.1 function.2).mp called
  have one := eq_of_ownName? ordered (mem_nodes_iff.mpr within) (mem_nodes_iff.mpr within') rfl
    (congrArg (fun position => some (position, callee)) same.symm)
  cases one

end Expr

end Formula
