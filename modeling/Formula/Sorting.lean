import Formula.Sorting.Merge

/-!
Sorting by merging runs, with comparisons that may fail. Elements that are level keep their order.
Where comparisons contradict each other the result hangs on which elements are compared, so the
runs, the order in which they are merged and the searches in them are part of what is defined here.
-/

namespace Formula.Sorting

variable {α ε : Type}

/-- A run that waits to be merged. -/
structure Run (α : Type) where
  /-- The number of elements before the run. -/
  start : Nat
  items : List α
  /-- How deep in a balanced tree of merges the run meets the next one. -/
  depth : Nat

/-- The runs that wait, the last one first, and the patience of merges. -/
structure Pending (α : Type) where
  runs : List (Run α)
  patience : Nat

/-- How often a list is halved until the middles of two neighbouring runs lie in different parts. -/
def meetingDepth (total start first second : Nat) : Nat :=
  let left := 2 * start + first
  let right := left + first + second
  let halvings := List.range (total.log2 + 2)
  (halvings.find? fun k => left * Nat.pow 2 k / total != right * Nat.pow 2 k / total).getD 0

def Run.merge (less : α → α → Except ε Bool) (patience : Nat) (earlier later : Run α) :
    Except ε (Run α × Nat) := do
  let (items, patience) ← Sorting.merge less patience earlier.items later.items
  return ({ earlier with items }, patience)

/-- Merges the last two runs as long as the first of them meets its neighbour deeper than at
`depth`. -/
def collapse (less : α → α → Except ε Bool) (depth : Nat) (runs : List (Run α)) (patience : Nat) :
    Except ε (Pending α) :=
  match runs with
  | later :: earlier :: rest =>
      if depth < earlier.depth then do
        let (run, patience) ← earlier.merge less patience later
        collapse less depth (run :: rest) patience
      else .ok ⟨runs, patience⟩
  | runs => .ok ⟨runs, patience⟩
termination_by runs.length

/-- Adds a run behind those that wait, after the merges that are due before it. -/
def push (less : α → α → Except ε Bool) (total : Nat) (p : Pending α) (items : List α) :
    Except ε (Pending α) :=
  match p.runs with
  | [] => .ok { p with runs := [⟨0, items, 0⟩] }
  | last :: _ => do
      let depth := meetingDepth total last.start last.items.length items.length
      let run := ⟨last.start + last.items.length, items, 0⟩
      let collapsed ← collapse less depth p.runs p.patience
      match collapsed.runs with
      | [] => return { collapsed with runs := [run] }
      | top :: rest => return { collapsed with runs := run :: { top with depth } :: rest }

/-- Merges all runs that wait, the last two first, or the two before the last if the third is
shorter than it. -/
def mergeAll (less : α → α → Except ε Bool) (runs : List (Run α)) (patience : Nat) :
    Except ε (List α) :=
  match runs with
  | [] => .ok []
  | [run] => .ok run.items
  | later :: earlier :: third :: rest =>
      if third.items.length < later.items.length then do
        let (run, patience) ← third.merge less patience earlier
        mergeAll less (later :: run :: rest) patience
      else do
        let (run, patience) ← earlier.merge less patience later
        mergeAll less (run :: third :: rest) patience
  | [later, earlier] => do
      let (run, patience) ← earlier.merge less patience later
      mergeAll less [run] patience
termination_by runs.length

def sort (less : α → α → Except ε Bool) (xs : List α) : Except ε (List α) := do
  let runs ← splitRuns less (minimumRun xs.length) xs
  let pending ← runs.foldlM (push less xs.length) ⟨[], longStretch⟩
  mergeAll less pending.runs pending.patience

/-- Sorted from the greatest to the least; level elements keep their order. -/
def sortDescending (less : α → α → Except ε Bool) (xs : List α) : Except ε (List α) :=
  (sort less xs.reverse).map List.reverse

end Formula.Sorting
