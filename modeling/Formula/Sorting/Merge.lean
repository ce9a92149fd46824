import Formula.Sorting.Runs

/-!
Merging two runs. Elements are taken one by one until one of the runs wins often enough in a row;
then whole stretches are taken, whose ends are found by steps of growing width. How often is enough
is the merge's patience, which sinks while stretches are long and passes from merge to merge.
-/

namespace Formula.Sorting

variable {α ε : Type}

/-! ### Stretches -/

/-- Steps of growing width, as far as the elements there pass a test: the last place that passes,
and the first that does not, or the end. -/
def stride (passes : α → Except ε Bool) (xs : List α) (last next : Nat) : Except ε (Nat × Nat) :=
  if h : next < xs.length then do
    if ← passes xs[next] then stride passes xs next (2 * next + 1) else return (last, next)
  else .ok (last, xs.length)
termination_by xs.length - next

/-- How many elements at the start of a list pass a test. -/
def stretch (side : Side) (passes : α → Except ε Bool) (xs : List α) : Except ε Nat :=
  match xs with
  | [] => .ok 0
  | x :: _ => do
      if ← passes x then
        let (last, next) ← stride passes xs 0 1
        search side passes xs (last + 1) next
      else return 0

/-! ### Merging -/

inductive Pace where
  /-- By single elements; each run has won so often in a row. -/
  | single (first second : Nat)
  /-- By stretches, with one of the first run next. -/
  | firstStretch
  /-- By stretches, with one of the second run next, after so many elements of the first. -/
  | secondStretch (first : Nat)
  /-- After a stretch of each run. -/
  | roundOver (first second : Nat)
deriving DecidableEq, Repr

/-- The length from which a stretch is long, and the patience at first. -/
def longStretch : Nat := 7

/-- Single elements are taken until a run has won as often as patience allows. -/
def Pace.ofWins (patience first second : Nat) : Pace :=
  if patience ≤ first || patience ≤ second then .firstStretch else .single first second

/-- After a round with a long stretch comes another one, and patience sinks; else it grows. -/
def Pace.next (patience : Nat) : Pace → Nat × Pace
  | .roundOver first second =>
      if longStretch ≤ first || longStretch ≤ second then (max 1 (patience - 1), .firstStretch)
      else (patience + 1, .single 0 0)
  | pace => (patience, pace)

/-- What remains of two runs, once a merge has nothing more to compare. The last element of the run
that is merged into the other belongs behind everything. -/
def remainder? (side : Side) : List α → List α → Option (List α)
  | [], bs => some bs
  | as, [] => some as
  | a :: as, b :: bs =>
      if side = .front ∧ as.isEmpty then some (b :: bs ++ [a])
      else if side = .back ∧ bs.isEmpty then some (a :: as ++ [b])
      else none

/-- The second run's element goes first: from the front the one that is less, from the back the one
that is not. -/
def takesSecond (side : Side) (less : α → α → Except ε Bool) (a b : α) : Except ε Bool :=
  (less b a).map (· == (side == .front))

def prepend (taken : List α) (merged : List α × Nat) : List α × Nat :=
  (taken ++ merged.1, merged.2)

/-- Merges two runs at some pace, and gives the patience that is left. -/
def mergeAt (side : Side) (less : α → α → Except ε Bool) (patience : Nat) (pace : Pace)
    (as bs : List α) : Except ε (List α × Nat) :=
  match remainder? side as bs, as, bs with
  | none, a :: as, b :: bs =>
      match pace.next patience with
      | (patience, .single first second) => do
          if ← takesSecond side less a b then
            let pace := Pace.ofWins patience 0 (second + 1)
            return prepend [b] (← mergeAt side less patience pace (a :: as) bs)
          else
            let pace := Pace.ofWins patience (first + 1) 0
            return prepend [a] (← mergeAt side less patience pace as (b :: bs))
      | (patience, .secondStretch first) => do
          let count ← stretch side (takesSecond side less a) (b :: bs)
          let taken := (b :: bs).take count ++ [a]
          let pace := .roundOver first count
          return prepend taken (← mergeAt side less patience pace as ((b :: bs).drop count))
      | (patience, _) => do
          let count ← stretch side (fun x => (takesSecond side less x b).map (!·)) (a :: as)
          let taken := (a :: as).take count ++ [b]
          let pace := .secondStretch count
          return prepend taken (← mergeAt side less patience pace ((a :: as).drop count) bs)
  | some rest, _, _ => .ok (rest, patience)
  | none, as, bs => .ok (as ++ bs, patience)
termination_by as.length + bs.length
decreasing_by
  all_goals simp only [List.length_drop, List.length_cons]
  all_goals omega

/-- Merges two runs of which the second starts with the least element and the first ends with the
greatest one. The shorter run is merged into the longer one, from the front if it is the first. -/
def mergeOverlap (less : α → α → Except ε Bool) (patience : Nat) (as bs : List α) :
    Except ε (List α × Nat) :=
  if as.length ≤ bs.length then do
    return prepend (bs.take 1) (← mergeAt .front less patience (.single 0 0) as (bs.drop 1))
  else do
    let (merged, patience) ← mergeAt .back less patience (.single 0 0)
      (as.reverse.drop 1) bs.reverse
    return ((as.reverse.take 1 ++ merged).reverse, patience)

/-- Merges two runs. What the first has before the second's start, and the second behind the first's
end, stays where it is. -/
def merge (less : α → α → Except ε Bool) (patience : Nat) (as bs : List α) :
    Except ε (List α × Nat) :=
  match bs.head?, as.getLast? with
  | some b, some a => do
      let before ← stretch .front (fun x => (less b x).map (!·)) as
      if before = as.length then return (as ++ bs, patience)
      else
        let behind ← stretch .back (fun x => (less x a).map (!·)) bs.reverse
        if behind = bs.length then return (as ++ bs, patience)
        else
          let inner := bs.length - behind
          let (merged, patience) ← mergeOverlap less patience (as.drop before) (bs.take inner)
          return (as.take before ++ merged ++ bs.drop inner, patience)
  | _, _ => .ok (as ++ bs, patience)

end Formula.Sorting
