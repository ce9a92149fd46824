import Formula.Expr.References
import Formula.Proofs.Expr.Walk
import Formula.Proofs.Record

/-!
The references of a tree are the names that it mentions, each once. Collecting them notes, one after the
other, the names of the nodes that a walk through the tree comes to.
-/

namespace Formula

namespace References

theorem map_fst_note (name : String) (position : Nat) (names : List (String × Nat)) :
    (note name position names).map Prod.fst =
      if name ∈ names.map Prod.fst then names.map Prod.fst else names.map Prod.fst ++ [name] := by
  unfold note
  rw [apply_ite (List.map Prod.fst)]
  simp only [Record.contains_iff, Record.keys, List.map_append, List.map_cons, List.map_nil]

theorem mem_note {name other : String} {position : Nat} {names : List (String × Nat)} :
    other ∈ (note name position names).map Prod.fst ↔
      other = name ∨ other ∈ names.map Prod.fst := by
  rw [map_fst_note]
  split
  · rename_i known
    exact ⟨.inr, fun either => either.elim (fun same => same ▸ known) id⟩
  · rw [List.mem_append, List.mem_singleton, or_comm]

theorem nodup_note {name : String} {position : Nat} {names : List (String × Nat)}
    (distinct : (names.map Prod.fst).Nodup) :
    ((note name position names).map Prod.fst).Nodup := by
  rw [map_fst_note]
  split
  · exact distinct
  · rename_i fresh
    exact List.nodup_append.mpr ⟨distinct, List.nodup_singleton name, by
      intro known member other same
      rw [List.mem_singleton.mp same]
      exact fun equal => fresh (equal ▸ member)⟩

/-! ### Names one after the other -/

/-- Notes uses of names one after the other. -/
def noteAll (uses names : List (String × Nat)) : List (String × Nat) :=
  uses.foldl (fun names use => note use.1 use.2 names) names

theorem noteAll_append (uses others names : List (String × Nat)) :
    noteAll (uses ++ others) names = noteAll others (noteAll uses names) :=
  List.foldl_append

theorem mem_noteAll {name : String} (uses names : List (String × Nat)) :
    name ∈ (noteAll uses names).map Prod.fst ↔
      (∃ position, (name, position) ∈ uses) ∨ name ∈ names.map Prod.fst := by
  induction uses generalizing names with
  | nil => simp [noteAll]
  | cons use rest ih =>
      obtain ⟨own, place⟩ := use
      rw [noteAll, List.foldl_cons, ← noteAll, ih, mem_note]
      simp only [List.mem_cons, Prod.mk.injEq, exists_or, exists_and_left, exists_eq, and_true]
      rw [or_assoc, or_left_comm]

theorem nodup_noteAll {uses names : List (String × Nat)} (distinct : (names.map Prod.fst).Nodup) :
    ((noteAll uses names).map Prod.fst).Nodup := by
  induction uses generalizing names with
  | nil => exact distinct
  | cons use rest ih => exact ih (nodup_note distinct)

end References

namespace Expr

/-! ### Uses of names -/

/-- The field that a node is, with its position. -/
def fieldUse? : Expr → Option (String × Nat)
  | .identifier name position => some (name, position)
  | _ => none

/-- The function that a node calls, by its name in upper case, with its position. -/
def functionUse? : Expr → Option (String × Nat)
  | .call callee _ position => some (Text.upperName callee, position)
  | _ => none

theorem fieldUse?_eq_some {e : Expr} {name : String} {position : Nat} :
    e.fieldUse? = some (name, position) ↔ e = .identifier name position := by
  cases e <;> simp [fieldUse?]

theorem functionUse?_eq_some {e : Expr} {name : String} {position : Nat} :
    e.functionUse? = some (name, position) ↔
      ∃ callee arguments, Text.upperName callee = name ∧ e = .call callee arguments position := by
  cases e with
  | call callee arguments own =>
      simp only [functionUse?, Option.some.injEq, Prod.mk.injEq, call.injEq]
      exact ⟨fun ⟨same, there⟩ => ⟨callee, arguments, same, rfl, rfl, there⟩,
        fun ⟨_, _, same, callee, _, there⟩ => ⟨callee ▸ same, there⟩⟩
  | _ => simp [functionUse?]

theorem filterMap_nodes {α : Type} (use? : Expr → Option α) (e : Expr) (rest : List Expr) :
    ((e :: rest).flatMap nodes).filterMap use? =
      (use? e).toList ++ ((e.children ++ rest).flatMap nodes).filterMap use? := by
  rw [List.flatMap_cons, List.filterMap_append, filterMap_nodes_eq, List.append_assoc,
    List.flatMap_append, List.filterMap_append, List.filterMap_flatMap, List.filterMap_flatMap]

end Expr

namespace References

theorem fields_collect (pending : List Expr) (r : References) :
    (collect pending r).fields =
      noteAll ((pending.flatMap Expr.nodes).filterMap Expr.fieldUse?) r.fields := by
  fun_induction collect pending r with
  | case1 r => rfl
  | case2 r e rest ih =>
      have own : (r.noteNode e).fields = noteAll e.fieldUse?.toList r.fields := by cases e <;> rfl
      rw [ih, own, Expr.filterMap_nodes, noteAll_append]

theorem functions_collect (pending : List Expr) (r : References) :
    (collect pending r).functions =
      noteAll ((pending.flatMap Expr.nodes).filterMap Expr.functionUse?) r.functions := by
  fun_induction collect pending r with
  | case1 r => rfl
  | case2 r e rest ih =>
      have own : (r.noteNode e).functions = noteAll e.functionUse?.toList r.functions := by
        cases e <;> rfl
      rw [ih, own, Expr.filterMap_nodes, noteAll_append]

end References

namespace Expr

variable {e : Expr} {name : String} {position : Nat}

theorem fields_references (e : Expr) :
    e.references.fields = References.noteAll (e.nodes.filterMap fieldUse?) [] := by
  rw [references, References.fields_collect, List.flatMap_singleton]

theorem functions_references (e : Expr) :
    e.references.functions = References.noteAll (e.nodes.filterMap functionUse?) [] := by
  rw [references, References.functions_collect, List.flatMap_singleton]

theorem mem_fieldUses :
    (name, position) ∈ e.nodes.filterMap fieldUse? ↔ Within (.identifier name position) e := by
  simp only [List.mem_filterMap, fieldUse?_eq_some, exists_eq_right, mem_nodes_iff]

theorem mem_functionUses :
    (name, position) ∈ e.nodes.filterMap functionUse? ↔
      ∃ callee arguments, Text.upperName callee = name ∧
        Within (.call callee arguments position) e := by
  simp only [List.mem_filterMap, functionUse?_eq_some, ← mem_nodes_iff]
  constructor
  · rintro ⟨_, member, callee, arguments, same, rfl⟩
    exact ⟨callee, arguments, same, member⟩
  · rintro ⟨callee, arguments, same, member⟩
    exact ⟨_, member, callee, arguments, same, rfl⟩

/-- The names of the fields that a tree refers to. -/
def fieldNames (e : Expr) : List String := e.references.fields.map Prod.fst

theorem mem_fieldNames : name ∈ e.fieldNames ↔ e.Mentions name := by
  rw [fieldNames, fields_references, References.mem_noteAll]
  simp only [mem_fieldUses, List.map_nil, List.not_mem_nil, or_false, Mentions]

/-- The functions that are found are those that some node calls. -/
theorem mem_functions_references :
    name ∈ e.references.functions.map Prod.fst ↔ e.Invokes name := by
  rw [functions_references, References.mem_noteAll]
  simp only [mem_functionUses, List.map_nil, List.not_mem_nil, or_false, Invokes]
  constructor
  · rintro ⟨position, callee, arguments, same, within⟩
    exact ⟨callee, arguments, position, within, same.symm⟩
  · rintro ⟨callee, arguments, position, within, same⟩
    exact ⟨position, callee, arguments, same.symm, within⟩

theorem nodup_fieldNames (e : Expr) : e.fieldNames.Nodup := by
  rw [fieldNames, fields_references]
  exact References.nodup_noteAll List.nodup_nil

end Expr

end Formula
