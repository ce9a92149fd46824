import Formula.Expr.Measure
import Formula.Proofs.Expr.Parts

/-!
What a measurement of a tree counts: its size and its depth.
-/

namespace Formula.Expr

theorem depthProperties_eq (properties : List (String × Expr)) :
    depthProperties properties = depthAll (properties.map Prod.snd) := by
  induction properties with
  | nil => rfl
  | cons property rest ih => simp only [depthProperties, depthAll, List.map_cons, ih]

theorem depth_eq (e : Expr) : e.depth = depthAll e.children + 1 := by
  cases e <;> simp [depth, children, depthAll, depthProperties_eq]

theorem depth_le_depthAll {part : Expr} {parts : List Expr} (member : part ∈ parts) :
    part.depth ≤ depthAll parts := by
  induction parts with
  | nil => cases member
  | cons first rest ih =>
      rw [depthAll]
      rcases List.mem_cons.mp member with rfl | later
      · exact Nat.le_max_left _ _
      · exact Nat.le_trans (ih later) (Nat.le_max_right _ _)

theorem depth_lt_of_mem_children {part e : Expr} (member : part ∈ e.children) :
    part.depth < e.depth := by
  rw [depth_eq e]
  exact Nat.lt_succ_of_le (depth_le_depthAll member)

/-! ### Measuring -/

/-- How far down the parts that are still to be visited go, each of which lies at some depth. -/
def furthest : List (Expr × Nat) → Nat
  | [] => 0
  | (e, depth) :: rest => max (depth + depthAll e.children) (furthest rest)

theorem furthest_append (xs ys : List (Expr × Nat)) :
    furthest (xs ++ ys) = max (furthest xs) (furthest ys) := by
  induction xs with
  | nil => simp [furthest]
  | cons pending rest ih =>
      simp only [List.cons_append, furthest, ih]
      exact (Nat.max_assoc _ _ _).symm

theorem max_furthest_deeper (e : Expr) (depth : Nat) :
    max depth (furthest (deeper e depth)) = depth + depthAll e.children := by
  unfold deeper
  induction e.children with
  | nil => simp [furthest, depthAll]
  | cons part rest ih =>
      simp only [List.reverse_cons, List.map_append, furthest_append, List.map_cons, List.map_nil,
        furthest, depthAll, depth_eq part]
      omega

theorem visit_eq (pending : List (Expr × Nat)) (count deepest : Nat) :
    visit pending count deepest =
      (count + sizeAll (pending.map Prod.fst), max deepest (furthest pending)) := by
  fun_induction visit pending count deepest with
  | case1 count deepest => simp [sizeAll, furthest]
  | case2 count deepest e depth rest ih =>
      rw [ih, List.map_append, map_fst_deeper, sizeAll_append, sizeAll_reverse, furthest_append,
        List.map_cons, sizeAll, furthest, size_eq e, ← max_furthest_deeper e depth]
      refine Prod.ext ?_ ?_
      · dsimp only
        omega
      · dsimp only
        omega

/-- A measurement counts the nodes of a tree and those on the longest way down. -/
theorem measure_eq (e : Expr) : e.measure = (e.size, e.depth) := by
  rw [measure, visit_eq, depth_eq]
  simp [sizeAll, furthest, Nat.add_comm]

end Formula.Expr
