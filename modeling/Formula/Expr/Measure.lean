import Formula.Expr.Basic

/-!
The size and the depth of trees. `measure` walks a tree with a stack of the parts that are still to
be visited; `size` and `depth` are the same numbers by recursion on the tree.
-/

namespace Formula.Expr

mutual

def size : Expr → Nat
  | .literal .. | .identifier .. | .unknown => 1
  | .member base _ _ => base.size + 1
  | .index base key _ => base.size + key.size + 1
  | .array elements _ => sizeAll elements + 1
  | .object properties _ => sizeProperties properties + 1
  | .unary _ operand _ => operand.size + 1
  | .binary _ left right _ => left.size + right.size + 1
  | .logical _ left right _ => left.size + right.size + 1
  | .conditional test consequent alternate _ => test.size + consequent.size + alternate.size + 1
  | .call _ arguments _ => sizeAll arguments + 1

def sizeAll : List Expr → Nat
  | [] => 0
  | e :: rest => e.size + sizeAll rest

def sizeProperties : List (String × Expr) → Nat
  | [] => 0
  | (_, e) :: rest => e.size + sizeProperties rest

end

mutual

/-- The number of nodes on the longest way down. -/
def depth : Expr → Nat
  | .literal .. | .identifier .. | .unknown => 1
  | .member base _ _ => base.depth + 1
  | .index base key _ => max base.depth key.depth + 1
  | .array elements _ => depthAll elements + 1
  | .object properties _ => depthProperties properties + 1
  | .unary _ operand _ => operand.depth + 1
  | .binary _ left right _ => max left.depth right.depth + 1
  | .logical _ left right _ => max left.depth right.depth + 1
  | .conditional test consequent alternate _ =>
      max test.depth (max consequent.depth alternate.depth) + 1
  | .call _ arguments _ => depthAll arguments + 1

def depthAll : List Expr → Nat
  | [] => 0
  | e :: rest => max e.depth (depthAll rest)

def depthProperties : List (String × Expr) → Nat
  | [] => 0
  | (_, e) :: rest => max e.depth (depthProperties rest)

end

theorem sizeAll_append (xs ys : List Expr) : sizeAll (xs ++ ys) = sizeAll xs + sizeAll ys := by
  induction xs with
  | nil => simp [sizeAll]
  | cons e rest ih => simp [sizeAll, ih, Nat.add_assoc]

theorem sizeAll_reverse (es : List Expr) : sizeAll es.reverse = sizeAll es := by
  induction es with
  | nil => rfl
  | cons e rest ih => simp [sizeAll_append, sizeAll, ih, Nat.add_comm]

theorem sizeProperties_eq (properties : List (String × Expr)) :
    sizeProperties properties = sizeAll (properties.map Prod.snd) := by
  induction properties with
  | nil => rfl
  | cons property rest ih => simp [sizeProperties, sizeAll, ih]

/-- A node counts one more than its parts. -/
theorem size_eq (e : Expr) : e.size = sizeAll e.children + 1 := by
  cases e <;> simp [size, children, sizeAll, sizeProperties_eq, Nat.add_assoc]

/-- The parts to visit next, the last one first, each with its depth. -/
def deeper (e : Expr) (depth : Nat) : List (Expr × Nat) :=
  e.children.reverse.map (·, depth + 1)

theorem map_fst_deeper (e : Expr) (depth : Nat) :
    (deeper e depth).map Prod.fst = e.children.reverse := by
  simp [deeper, Function.comp_def]

/-- Visits the parts that are still to be visited, with the count and the greatest depth so far. -/
def visit (pending : List (Expr × Nat)) (count deepest : Nat) : Nat × Nat :=
  match pending with
  | [] => (count, deepest)
  | (e, depth) :: rest => visit (deeper e depth ++ rest) (count + 1) (max deepest depth)
termination_by sizeAll (pending.map Prod.fst)
decreasing_by
  rw [List.map_append, map_fst_deeper, sizeAll_append, sizeAll_reverse, List.map_cons, sizeAll,
    size_eq e]
  omega

def measure (e : Expr) : Nat × Nat := visit [(e, 1)] 0 0

end Formula.Expr
