/-!
Ascending runs of a list, with comparisons that may fail. A run that descends is turned round. A run
that is too short takes further elements, each at the place that a binary search finds, behind those
it is not less than.
-/

namespace Formula.Sorting

variable {α ε : Type}

/-! ### Searching -/

/-- The end of a list that a search starts from. A list that is searched from its back is given in
reverse. -/
inductive Side where
  | front
  | back
deriving DecidableEq, Repr

/-- The middle of a span; of two middles the one nearer the back of the list that is searched. -/
def middle (side : Side) (low high : Nat) : Nat :=
  match side with
  | .front => low + (high - low) / 2
  | .back => high - 1 - (high - low) / 2

theorem middle_within (side : Side) {low high : Nat} (h : low < high) :
    low ≤ middle side low high ∧ middle side low high < high := by
  cases side <;> simp only [middle] <;> omega

/-- How many elements pass a test, if those before `low` do and those from `high` on do not. -/
def search (side : Side) (passes : α → Except ε Bool) (xs : List α) (low high : Nat) :
    Except ε Nat :=
  if _h : low < high then
    match xs[middle side low high]? with
    | none => .ok low
    | some x => do
        if ← passes x then search side passes xs (middle side low high + 1) high
        else search side passes xs low (middle side low high)
  else .ok low
termination_by high - low
decreasing_by
  all_goals have := middle_within side ‹low < high›
  all_goals omega

/-! ### Runs -/

def descendingRun (less : α → α → Except ε Bool) (last : α) : List α → Except ε (List α)
  | [] => .ok []
  | x :: rest => do
      if ← less x last then return x :: (← descendingRun less x rest) else return []

def ascendingRun (less : α → α → Except ε Bool) (last : α) : List α → Except ε (List α)
  | [] => .ok []
  | x :: rest => do
      if ← less x last then return [] else return x :: (← ascendingRun less x rest)

/-- The first run of a list, in ascending order. -/
def firstRun (less : α → α → Except ε Bool) : List α → Except ε (List α)
  | [] => .ok []
  | [x] => .ok [x]
  | x :: y :: rest => do
      if ← less y x then return (x :: y :: (← descendingRun less y rest)).reverse
      else return x :: y :: (← ascendingRun less y rest)

/-- Puts an element into a sorted list, behind those that it is not less than. -/
def insert (less : α → α → Except ε Bool) (sorted : List α) (x : α) : Except ε (List α) := do
  let index ← search .front (fun y => (less x y).map (!·)) sorted 0 sorted.length
  return sorted.take index ++ x :: sorted.drop index

/-- Runs of at least `minimum` elements, of which only the last may be shorter. -/
def splitRuns (less : α → α → Except ε Bool) (minimum : Nat) :
    List α → Except ε (List (List α))
  | [] => .ok []
  | x :: rest => do
      let run ← firstRun less (x :: rest)
      let others := ((x :: rest).drop run.length).take (minimum - run.length)
      let filled ← others.foldlM (insert less) run
      return filled :: (← splitRuns less minimum (rest.drop (filled.length - 1)))
termination_by xs => xs.length
decreasing_by
  simp only [List.length_drop, List.length_cons]
  omega

/-- The least length of the runs of a list: a list of fewer than 64 elements is one run, a longer
one has about as many runs as a power of two. -/
def minimumRun (length : Nat) : Nat :=
  let width := Nat.pow 2 (length.log2 - 5)
  (length + width - 1) / width

end Formula.Sorting
