import Formula.Proofs.Expr.Parts

/-!
The nodes of a tree in the order of a walk that comes to each node before its parts.
-/

namespace Formula.Expr

def nodes (e : Expr) : List Expr := e :: e.children.attach.flatMap fun part => nodes part.1
termination_by e.size
decreasing_by exact size_lt_of_mem_children part.2

theorem nodes_eq (e : Expr) : e.nodes = e :: e.children.flatMap nodes := by
  rw [nodes]
  simp only [List.flatMap_def, List.map_attach_eq_pmap, List.pmap_eq_map]

/-- What a walk collects of a tree is what it collects of its root and then of its parts. -/
theorem filterMap_nodes_eq {α : Type} (f : Expr → Option α) (e : Expr) :
    e.nodes.filterMap f =
      (f e).toList ++ e.children.flatMap fun part => part.nodes.filterMap f := by
  rw [nodes_eq, List.filterMap_cons, List.filterMap_flatMap]
  cases f e <;> rfl

theorem mem_nodes_iff {node e : Expr} : node ∈ e.nodes ↔ Within node e := by
  induction e using partsInduction with
  | node e ih =>
      rw [nodes_eq, List.mem_cons, List.mem_flatMap, within_iff]
      exact or_congr_right (exists_congr fun part => and_congr_right (ih part))

end Formula.Expr
