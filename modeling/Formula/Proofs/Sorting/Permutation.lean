import Formula.Proofs.Sorting
import Mathlib.Data.List.Count

/-!
A sort returns its elements in another order, whatever its comparisons say.
-/

namespace Formula.Sorting

open scoped List

variable {α ε : Type} {less : α → α → Except ε Bool}

/-! ### Runs -/

theorem descendingRun_start (last : α) (xs : List α) :
    ReturnsOnly (· <+: xs) (descendingRun less last xs) := by
  induction xs generalizing last with
  | nil => exact returnsOnly_ok (List.prefix_refl [])
  | cons x rest ih =>
      refine returnsOnly_bind _ fun descends => ?_
      cases descends with
      | true => exact (ih x).bind fun run start => returnsOnly_ok ((List.prefix_cons_inj x).mpr start)
      | false => exact returnsOnly_ok List.nil_prefix

theorem ascendingRun_start (last : α) (xs : List α) :
    ReturnsOnly (· <+: xs) (ascendingRun less last xs) := by
  induction xs generalizing last with
  | nil => exact returnsOnly_ok (List.prefix_refl [])
  | cons x rest ih =>
      refine returnsOnly_bind _ fun descends => ?_
      cases descends with
      | true => exact returnsOnly_ok List.nil_prefix
      | false => exact (ih x).bind fun run start => returnsOnly_ok ((List.prefix_cons_inj x).mpr start)

/-- A list has been taken from the front of another, in some order. -/
def FrontOf (xs front : List α) : Prop := (front ++ xs.drop front.length).Perm xs

theorem frontOf_of_start {front xs : List α} (start : front <+: xs) : FrontOf xs front := by
  obtain ⟨rest, rfl⟩ := start
  rw [FrontOf, List.drop_left]

theorem FrontOf.reverse {front xs : List α} (taken : FrontOf xs front) :
    FrontOf xs front.reverse := by
  rw [FrontOf, List.length_reverse]
  exact (front.reverse_perm.append_right _).trans taken

theorem firstRun_front (x : α) (rest : List α) :
    ReturnsOnly (fun run => FrontOf (x :: rest) run ∧ run ≠ []) (firstRun less (x :: rest)) := by
  cases rest with
  | nil => exact returnsOnly_ok ⟨frontOf_of_start (List.prefix_refl _), List.cons_ne_nil _ _⟩
  | cons y rest =>
      have started : ∀ run, run <+: rest → x :: y :: run <+: x :: y :: rest := fun run start =>
        (List.prefix_cons_inj x).mpr ((List.prefix_cons_inj y).mpr start)
      refine returnsOnly_bind _ fun descends => ?_
      cases descends with
      | true =>
          refine (descendingRun_start y rest).bind fun run start => returnsOnly_ok ⟨?_, by simp⟩
          exact (frontOf_of_start (started run start)).reverse
      | false =>
          refine (ascendingRun_start y rest).bind fun run start => returnsOnly_ok ⟨?_, by simp⟩
          exact frontOf_of_start (started run start)

theorem insert_perm (sorted : List α) (x : α) :
    ReturnsOnly (·.Perm (x :: sorted)) (insert less sorted x) := by
  refine returnsOnly_bind _ fun index => returnsOnly_ok ?_
  refine List.perm_middle.trans (List.Perm.cons x ?_)
  rw [List.take_append_drop]

theorem foldlM_insert_perm (others run : List α) :
    ReturnsOnly (·.Perm (run ++ others)) (others.foldlM (insert less) run) := by
  induction others generalizing run with
  | nil => exact returnsOnly_ok (by rw [List.append_nil])
  | cons x rest ih =>
      rw [List.foldlM_cons]
      refine (insert_perm run x).bind fun longer inserted => (ih longer).imp fun filled perm => ?_
      exact perm.trans ((inserted.append_right rest).trans List.perm_middle.symm)

theorem take_append_drop_min (xs : List α) (count : Nat) :
    xs.take count ++ xs.drop (min count xs.length) = xs := by
  rw [List.take_eq_take_min, List.take_append_drop]

theorem splitRuns_perm (minimum : Nat) (xs : List α) :
    ReturnsOnly (·.flatten.Perm xs) (splitRuns less minimum xs) := by
  fun_induction splitRuns less minimum xs with
  | case1 => exact returnsOnly_ok (List.Perm.refl _)
  | case2 x rest ih =>
      refine (firstRun_front x rest).bind fun run taken => ?_
      obtain ⟨front, nonempty⟩ := taken
      refine (foldlM_insert_perm _ run).bind fun filled perm => ?_
      refine (ih filled).bind fun runs others => ?_
      apply returnsOnly_ok
      have positive := List.length_pos_iff.mpr nonempty
      have length := perm.length_eq
      rw [List.length_append] at length
      have after : rest.drop (filled.length - 1) = (x :: rest).drop filled.length := by
        rw [show filled.length = filled.length - 1 + 1 by omega, List.drop_succ_cons,
          Nat.add_sub_cancel]
      have split : ((x :: rest).drop run.length).take (minimum - run.length) ++
          (x :: rest).drop filled.length = (x :: rest).drop run.length := by
        rw [length, ← List.drop_drop, List.length_take]
        exact take_append_drop_min _ _
      rw [List.flatten_cons]
      calc filled ++ runs.flatten
        _ ~ filled ++ (x :: rest).drop filled.length := (after ▸ others).append_left filled
        _ ~ run ++ (((x :: rest).drop run.length).take (minimum - run.length) ++
            (x :: rest).drop filled.length) := by
          rw [← List.append_assoc]
          exact perm.append_right _
        _ ~ x :: rest := by
          rw [split]
          exact front

/-! ### Merging -/

theorem remainder?_perm {side : Side} {as bs rest : List α}
    (ended : remainder? side as bs = some rest) : rest.Perm (as ++ bs) := by
  unfold remainder? at ended
  split at ended
  · cases ended
    exact List.Perm.refl _
  · cases ended
    rw [List.append_nil]
  · rename_i a as b bs
    split at ended
    · rename_i last
      cases ended
      rw [List.isEmpty_iff.mp last.2]
      exact List.perm_append_comm
    · split at ended
      · rename_i last
        cases ended
        rw [List.isEmpty_iff.mp last.2]
      · cases ended

theorem mergeAt_perm (side : Side) (patience : Nat) (pace : Pace) (as bs : List α) :
    ReturnsOnly (·.1.Perm (as ++ bs)) (mergeAt side less patience pace as bs) := by
  fun_induction mergeAt side less patience pace as bs with
  | case1 patience pace a as b bs left first second next apart fromSecond fromFirst =>
      simp only [apart, next]
      refine returnsOnly_bind _ fun taken => ?_
      cases taken with
      | true =>
          refine fromSecond.bind fun merged perm => ?_
          exact returnsOnly_ok ((perm.cons b).trans List.perm_middle.symm)
      | false =>
          refine fromFirst.bind fun merged perm => ?_
          exact returnsOnly_ok (perm.cons a)
  | case2 patience pace a as b bs left first next apart ih =>
      simp only [apart, next]
      refine returnsOnly_bind _ fun count => ?_
      refine (ih count).bind fun merged perm => ?_
      apply returnsOnly_ok
      calc (b :: bs).take count ++ [a] ++ merged.1
        _ ~ (b :: bs).take count ++ [a] ++ (as ++ (b :: bs).drop count) := perm.append_left _
        _ ~ a :: as ++ ((b :: bs).take count ++ (b :: bs).drop count) := by
          rw [List.append_assoc, ← List.append_assoc [a], ← List.append_assoc (a :: as)]
          rw [← List.append_assoc]
          exact List.perm_append_comm.append_right _
        _ = a :: as ++ b :: bs := by rw [List.take_append_drop]
  | case3 patience pace a as b bs left paced notSingle notSecond next apart ih =>
      simp only [apart, next]
      refine returnsOnly_bind _ fun count => ?_
      refine (ih count).bind fun merged perm => ?_
      apply returnsOnly_ok
      calc (a :: as).take count ++ [b] ++ merged.1
        _ ~ (a :: as).take count ++ [b] ++ ((a :: as).drop count ++ bs) := perm.append_left _
        _ ~ (a :: as).take count ++ (a :: as).drop count ++ b :: bs := by
          rw [List.append_assoc, List.append_assoc, List.singleton_append]
          exact List.perm_middle.symm.append_left _
        _ = a :: as ++ b :: bs := by rw [List.take_append_drop]
  | case4 patience pace as bs rest ended =>
      simp only [ended]
      exact returnsOnly_ok (remainder?_perm ended)
  | case5 patience pace as bs apart ended =>
      simp only [ended]
      exact returnsOnly_ok (List.Perm.refl _)

theorem mergeOverlap_perm (patience : Nat) (as bs : List α) :
    ReturnsOnly (·.1.Perm (as ++ bs)) (mergeOverlap less patience as bs) := by
  unfold mergeOverlap
  split
  · refine (mergeAt_perm .front patience _ _ _).bind fun merged perm => ?_
    apply returnsOnly_ok
    calc bs.take 1 ++ merged.1
      _ ~ bs.take 1 ++ (as ++ bs.drop 1) := perm.append_left _
      _ ~ as ++ (bs.take 1 ++ bs.drop 1) := by
        rw [← List.append_assoc, ← List.append_assoc]
        exact List.perm_append_comm.append_right _
      _ = as ++ bs := by rw [List.take_append_drop]
  · refine (mergeAt_perm .back patience _ _ _).bind fun merged perm => ?_
    apply returnsOnly_ok
    calc (as.reverse.take 1 ++ merged.1).reverse
      _ ~ as.reverse.take 1 ++ merged.1 := List.reverse_perm _
      _ ~ as.reverse.take 1 ++ (as.reverse.drop 1 ++ bs.reverse) := perm.append_left _
      _ = as.reverse ++ bs.reverse := by rw [← List.append_assoc, List.take_append_drop]
      _ ~ as ++ bs := as.reverse_perm.append bs.reverse_perm

theorem merge_perm (patience : Nat) (as bs : List α) :
    ReturnsOnly (·.1.Perm (as ++ bs)) (merge less patience as bs) := by
  unfold merge
  split
  · refine returnsOnly_bind _ fun before => ?_
    split
    · exact returnsOnly_ok (List.Perm.refl _)
    · refine returnsOnly_bind _ fun behind => ?_
      split
      · exact returnsOnly_ok (List.Perm.refl _)
      · refine (mergeOverlap_perm patience _ _).bind fun merged perm => ?_
        apply returnsOnly_ok
        calc as.take before ++ merged.1 ++ bs.drop (bs.length - behind)
          _ ~ as.take before ++ (as.drop before ++ bs.take (bs.length - behind)) ++
              bs.drop (bs.length - behind) := (perm.append_left _).append_right _
          _ = as ++ bs := by
            rw [← List.append_assoc, List.take_append_drop, List.append_assoc,
              List.take_append_drop]
  · exact returnsOnly_ok (List.Perm.refl _)

/-! ### Sorting -/

/-- The elements of the runs that wait, those of the first run first. -/
def elements (runs : List (Run α)) : List α := (runs.reverse.map Run.items).flatten

theorem elements_cons (run : Run α) (rest : List (Run α)) :
    elements (run :: rest) = elements rest ++ run.items := by
  simp [elements]

theorem run_merge_perm (patience : Nat) (earlier later : Run α) :
    ReturnsOnly (fun merged : Run α × Nat => merged.1.items.Perm (earlier.items ++ later.items))
      (earlier.merge less patience later) :=
  (merge_perm patience _ _).bind fun _ perm => returnsOnly_ok perm

theorem elements_merged {merged earlier later : Run α} (rest : List (Run α))
    (perm : merged.items.Perm (earlier.items ++ later.items)) :
    (elements (merged :: rest)).Perm (elements (later :: earlier :: rest)) := by
  rw [elements_cons, elements_cons, elements_cons, List.append_assoc]
  exact perm.append_left _

theorem collapse_perm (depth : Nat) (runs : List (Run α)) (patience : Nat) :
    ReturnsOnly (fun p : Pending α => (elements p.runs).Perm (elements runs))
      (collapse less depth runs patience) := by
  fun_induction collapse less depth runs patience with
  | case1 patience later earlier rest deeper ih =>
      refine (run_merge_perm patience earlier later).bind fun merged perm => ?_
      exact (ih merged.1 merged.2).imp fun p collapsed =>
        collapsed.trans (elements_merged rest perm)
  | case2 => exact returnsOnly_ok (List.Perm.refl _)
  | case3 => exact returnsOnly_ok (List.Perm.refl _)

theorem push_perm (total : Nat) (p : Pending α) (items : List α) :
    ReturnsOnly (fun p' : Pending α => (elements p'.runs).Perm (elements p.runs ++ items))
      (push less total p items) := by
  unfold push
  split
  · rename_i none
    apply returnsOnly_ok
    rw [none, elements_cons]
  · refine (collapse_perm _ p.runs p.patience).bind fun collapsed perm => ?_
    split
    · rename_i none
      apply returnsOnly_ok
      rw [none] at perm
      rw [elements_cons]
      exact perm.append_right items
    · rename_i top rest some
      apply returnsOnly_ok
      rw [some, elements_cons] at perm
      rw [elements_cons, elements_cons]
      exact perm.append_right items

theorem foldlM_push_perm (total : Nat) (runs : List (List α)) (p : Pending α) :
    ReturnsOnly (fun p' : Pending α => (elements p'.runs).Perm (elements p.runs ++ runs.flatten))
      (runs.foldlM (push less total) p) := by
  induction runs generalizing p with
  | nil => exact returnsOnly_ok (by simp)
  | cons run rest ih =>
      rw [List.foldlM_cons]
      refine (push_perm total p run).bind fun pushed perm => ?_
      refine (ih pushed).imp fun p' later => ?_
      rw [List.flatten_cons, ← List.append_assoc]
      exact later.trans (perm.append_right _)

theorem mergeAll_perm (runs : List (Run α)) (patience : Nat) :
    ReturnsOnly (·.Perm (elements runs)) (mergeAll less runs patience) := by
  fun_induction mergeAll less runs patience with
  | case1 => exact returnsOnly_ok (List.Perm.refl _)
  | case2 patience run => exact returnsOnly_ok (by simp [elements])
  | case3 patience later earlier third rest shorter ih =>
      refine (run_merge_perm patience third earlier).bind fun merged perm => ?_
      refine (ih merged.1 merged.2).imp fun sorted all => ?_
      rw [elements_cons] at all ⊢
      exact all.trans ((elements_merged rest perm).append_right _)
  | case4 patience later earlier third rest longer ih =>
      refine (run_merge_perm patience earlier later).bind fun merged perm => ?_
      exact (ih merged.1 merged.2).imp fun sorted all =>
        all.trans (elements_merged (third :: rest) perm)
  | case5 patience later earlier ih =>
      refine (run_merge_perm patience earlier later).bind fun merged perm => ?_
      exact (ih merged.1 merged.2).imp fun sorted all => all.trans (elements_merged [] perm)

/-- Sorting loses and adds nothing. -/
theorem sort_perm (xs : List α) : ReturnsOnly (·.Perm xs) (sort less xs) := by
  refine (splitRuns_perm _ xs).bind fun runs split => ?_
  refine (foldlM_push_perm xs.length runs _).bind fun pending pushed => ?_
  exact (mergeAll_perm _ _).imp fun sorted merged => merged.trans (pushed.trans split)

theorem sortDescending_perm (xs : List α) : ReturnsOnly (·.Perm xs) (sortDescending less xs) := by
  intro ys returned
  unfold sortDescending at returned
  cases ascending : sort less xs.reverse with
  | error e =>
      rw [ascending] at returned
      cases returned
  | ok zs =>
      rw [ascending] at returned
      cases returned
      exact zs.reverse_perm.trans ((sort_perm _ _ ascending).trans xs.reverse_perm)

end Formula.Sorting
