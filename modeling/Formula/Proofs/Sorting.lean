import Formula.Sorting
import Formula.Proofs.Except

/-!
A sort fails with nothing but what its comparisons fail with.
-/

namespace Formula.Sorting

variable {α ε : Type} {P : ε → Prop} {less : α → α → Except ε Bool} {passes : α → Except ε Bool}

/-! ### Searching and runs -/

theorem search_failsOnly (side : Side) (fails : ∀ x, FailsOnly P (passes x)) (xs : List α)
    (low high : Nat) : FailsOnly P (search side passes xs low high) := by
  fun_induction search side passes xs low high with
  | case1 low high inside none => exact failsOnly_ok low
  | case2 low high inside x found above below =>
      refine (fails x).bind fun passed => ?_
      cases passed with
      | true => exact above
      | false => exact below
  | case3 low high outside => exact failsOnly_ok low

theorem descendingRun_failsOnly (fails : ∀ a b, FailsOnly P (less a b)) (last : α) (xs : List α) :
    FailsOnly P (descendingRun less last xs) := by
  induction xs generalizing last with
  | nil => exact failsOnly_ok []
  | cons x rest ih =>
      refine (fails x last).bind fun descends => ?_
      cases descends with
      | true => exact (ih x).bind fun run => failsOnly_ok (x :: run)
      | false => exact failsOnly_ok []

theorem ascendingRun_failsOnly (fails : ∀ a b, FailsOnly P (less a b)) (last : α) (xs : List α) :
    FailsOnly P (ascendingRun less last xs) := by
  induction xs generalizing last with
  | nil => exact failsOnly_ok []
  | cons x rest ih =>
      refine (fails x last).bind fun descends => ?_
      cases descends with
      | true => exact failsOnly_ok []
      | false => exact (ih x).bind fun run => failsOnly_ok (x :: run)

theorem firstRun_failsOnly (fails : ∀ a b, FailsOnly P (less a b)) (xs : List α) :
    FailsOnly P (firstRun less xs) := by
  unfold firstRun
  split
  · exact failsOnly_ok []
  · exact failsOnly_ok _
  · refine (fails _ _).bind fun descends => ?_
    cases descends with
    | true => exact (descendingRun_failsOnly fails _ _).bind fun run => failsOnly_ok _
    | false => exact (ascendingRun_failsOnly fails _ _).bind fun run => failsOnly_ok _

theorem insert_failsOnly (fails : ∀ a b, FailsOnly P (less a b)) (sorted : List α) (x : α) :
    FailsOnly P (insert less sorted x) :=
  (search_failsOnly .front (fun y => (fails x y).map _) sorted 0 sorted.length).bind
    fun _ => failsOnly_ok _

theorem splitRuns_failsOnly (fails : ∀ a b, FailsOnly P (less a b)) (minimum : Nat) (xs : List α) :
    FailsOnly P (splitRuns less minimum xs) := by
  fun_induction splitRuns less minimum xs with
  | case1 => exact failsOnly_ok []
  | case2 x rest ih =>
      refine (firstRun_failsOnly fails _).bind fun run => ?_
      refine (FailsOnly.foldlM (insert_failsOnly fails) _ run).bind fun filled => ?_
      exact (ih filled).bind fun runs => failsOnly_ok (filled :: runs)

/-! ### Merging -/

theorem stride_failsOnly (fails : ∀ x, FailsOnly P (passes x)) (xs : List α) (last next : Nat) :
    FailsOnly P (stride passes xs last next) := by
  fun_induction stride passes xs last next with
  | case1 last next inside ih =>
      refine (fails _).bind fun passed => ?_
      cases passed with
      | true => exact ih
      | false => exact failsOnly_ok _
  | case2 last next outside => exact failsOnly_ok _

theorem stretch_failsOnly (side : Side) (fails : ∀ x, FailsOnly P (passes x)) (xs : List α) :
    FailsOnly P (stretch side passes xs) := by
  unfold stretch
  split
  · exact failsOnly_ok 0
  · refine (fails _).bind fun passed => ?_
    cases passed with
    | true =>
        exact (stride_failsOnly fails _ 0 1).bind fun span => search_failsOnly side fails _ _ _
    | false => exact failsOnly_ok 0

theorem takesSecond_failsOnly (fails : ∀ a b, FailsOnly P (less a b)) (side : Side) (a b : α) :
    FailsOnly P (takesSecond side less a b) := (fails b a).map _

theorem mergeAt_failsOnly (fails : ∀ a b, FailsOnly P (less a b)) (side : Side) (patience : Nat)
    (pace : Pace) (as bs : List α) : FailsOnly P (mergeAt side less patience pace as bs) := by
  have takes := takesSecond_failsOnly fails side
  fun_induction mergeAt side less patience pace as bs with
  | case1 patience pace a as b bs left first second next apart fromSecond fromFirst =>
      simp only [apart, next]
      refine (takes a b).bind fun taken => ?_
      cases taken with
      | true => exact fromSecond.bind fun merged => failsOnly_ok _
      | false => exact fromFirst.bind fun merged => failsOnly_ok _
  | case2 patience pace a as b bs left first next apart ih =>
      simp only [apart, next]
      refine (stretch_failsOnly side (takes a) _).bind fun count => ?_
      exact (ih count).bind fun merged => failsOnly_ok _
  | case3 patience pace a as b bs left paced notSingle notSecond next apart ih =>
      simp only [apart, next]
      refine (stretch_failsOnly side (fun x => (takes x b).map _) _).bind fun count => ?_
      exact (ih count).bind fun merged => failsOnly_ok _
  | case4 patience pace as bs rest ended =>
      simp only [ended]
      exact failsOnly_ok _
  | case5 patience pace as bs apart ended =>
      simp only [ended]
      exact failsOnly_ok _

theorem mergeOverlap_failsOnly (fails : ∀ a b, FailsOnly P (less a b)) (patience : Nat)
    (as bs : List α) : FailsOnly P (mergeOverlap less patience as bs) := by
  unfold mergeOverlap
  split
  · exact (mergeAt_failsOnly fails _ _ _ _ _).bind fun merged => failsOnly_ok _
  · exact (mergeAt_failsOnly fails _ _ _ _ _).bind fun merged => failsOnly_ok _

theorem merge_failsOnly (fails : ∀ a b, FailsOnly P (less a b)) (patience : Nat) (as bs : List α) :
    FailsOnly P (merge less patience as bs) := by
  unfold merge
  split
  · rename_i b a _ _
    refine (stretch_failsOnly .front (fun x => (fails b x).map _) as).bind fun before => ?_
    split
    · exact failsOnly_ok _
    · refine (stretch_failsOnly .back (fun x => (fails x a).map _) _).bind fun behind => ?_
      split
      · exact failsOnly_ok _
      · exact (mergeOverlap_failsOnly fails _ _ _).bind fun merged => failsOnly_ok _
  · exact failsOnly_ok _

theorem run_merge_failsOnly (fails : ∀ a b, FailsOnly P (less a b)) (patience : Nat)
    (earlier later : Run α) : FailsOnly P (earlier.merge less patience later) :=
  (merge_failsOnly fails patience _ _).bind fun _ => failsOnly_ok _

/-! ### Sorting -/

theorem collapse_failsOnly (fails : ∀ a b, FailsOnly P (less a b)) (depth : Nat)
    (runs : List (Run α)) (patience : Nat) : FailsOnly P (collapse less depth runs patience) := by
  fun_induction collapse less depth runs patience with
  | case1 patience later earlier rest deeper ih =>
      exact (run_merge_failsOnly fails _ _ _).bind fun merged => ih merged.1 merged.2
  | case2 => exact failsOnly_ok _
  | case3 => exact failsOnly_ok _

theorem push_failsOnly (fails : ∀ a b, FailsOnly P (less a b)) (total : Nat) (p : Pending α)
    (items : List α) : FailsOnly P (push less total p items) := by
  unfold push
  split
  · exact failsOnly_ok _
  · refine (collapse_failsOnly fails _ _ _).bind fun collapsed => ?_
    split
    · exact failsOnly_ok _
    · exact failsOnly_ok _

theorem mergeAll_failsOnly (fails : ∀ a b, FailsOnly P (less a b)) (runs : List (Run α))
    (patience : Nat) : FailsOnly P (mergeAll less runs patience) := by
  fun_induction mergeAll less runs patience with
  | case1 => exact failsOnly_ok _
  | case2 => exact failsOnly_ok _
  | case3 patience later earlier third rest shorter ih =>
      exact (run_merge_failsOnly fails _ _ _).bind fun merged => ih merged.1 merged.2
  | case4 patience later earlier third rest longer ih =>
      exact (run_merge_failsOnly fails _ _ _).bind fun merged => ih merged.1 merged.2
  | case5 patience later earlier ih =>
      exact (run_merge_failsOnly fails _ _ _).bind fun merged => ih merged.1 merged.2

theorem sort_failsOnly (fails : ∀ a b, FailsOnly P (less a b)) (xs : List α) :
    FailsOnly P (sort less xs) := by
  refine (splitRuns_failsOnly fails _ xs).bind fun runs => ?_
  refine (FailsOnly.foldlM (push_failsOnly fails xs.length) runs _).bind fun pending => ?_
  exact mergeAll_failsOnly fails _ _

theorem sortDescending_failsOnly (fails : ∀ a b, FailsOnly P (less a b)) (xs : List α) :
    FailsOnly P (sortDescending less xs) := (sort_failsOnly fails xs.reverse).map _

end Formula.Sorting
