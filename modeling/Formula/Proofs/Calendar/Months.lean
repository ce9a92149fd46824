import Formula.Proofs.Calendar.Shift
import Mathlib.Order.Bounds.Basic

/-!
Counting months. From one stamp to another that its shifts meet in step, the count is the furthest
shift by months that does not go past the other stamp: the difference of the months on the calendar
is that shift or one month too far, because a shift ends in the month that it is meant for.
-/

namespace Formula

open Calendar

namespace Stamp

variable {s t u a b : Stamp} {n k : Int}

def monthIndex (s : Stamp) : Int := Calendar.monthIndex s.date

theorem reading_lt_of_monthIndex (before : s.monthIndex < t.monthIndex) :
    s.reading < t.reading :=
  reading_lt_of_date (ordinal_lt_of_monthIndex before)

theorem monthIndex_addMonths (shifted : s.addMonths n = .ok t) :
    t.monthIndex = s.monthIndex + n := by
  obtain ⟨d, found, rfl⟩ := addMonths_eq_ok_iff.mp shifted
  rw [monthIndex, date_withDate]
  exact (shiftMonths_eq_ok_iff.mp found).1

theorem clock?_addMonths (shifted : s.addMonths n = .ok t) : t.clock? = s.clock? := by
  obtain ⟨d, found, rfl⟩ := addMonths_eq_ok_iff.mp shifted
  exact clock?_withDate s d

theorem sameKind_addMonths (shifted : s.addMonths n = .ok t) : s.SameKind t :=
  (inStep_of_clock (rfl : t.clock? = t.clock?)).sameKind.of_clock (clock?_addMonths shifted).symm

/-- The months from one stamp to another by their places on the calendar. -/
def monthGap (a b : Stamp) : Int := b.monthIndex - a.monthIndex

theorem reading_lt_of_short (shifted : a.addMonths k = .ok t) (short : k < a.monthGap b) :
    t.reading < b.reading := by
  apply reading_lt_of_monthIndex
  rw [monthIndex_addMonths shifted]
  unfold monthGap at short
  omega

theorem reading_lt_of_far (shifted : a.addMonths k = .ok t) (far : a.monthGap b < k) :
    b.reading < t.reading := by
  apply reading_lt_of_monthIndex
  rw [monthIndex_addMonths shifted]
  unfold monthGap at far
  omega

theorem monthGap_nonneg (le : a.reading ≤ b.reading) : 0 ≤ a.monthGap b := by
  apply Int.not_lt.mp
  intro negative
  exact Nat.not_lt.mpr le (reading_lt_of_far (addMonths_zero a) negative)

theorem monthGap_nonpos (ge : b.reading ≤ a.reading) : a.monthGap b ≤ 0 := by
  apply Int.not_lt.mp
  intro positive
  exact Nat.not_lt.mpr ge (reading_lt_of_short (addMonths_zero a) positive)

/-- Between the months of two stamps a shift stays within the calendar. -/
theorem exists_addMonths (between : 0 ≤ k ∧ k ≤ a.monthGap b ∨ a.monthGap b ≤ k ∧ k ≤ 0) :
    ∃ t, a.addMonths k = .ok t := by
  have first := monthIndex_bounds a.date
  have second := monthIndex_bounds b.date
  unfold monthGap monthIndex at between
  obtain ⟨d, found⟩ : ∃ d, shiftMonths a.date k = .ok d :=
    exists_shiftMonths (by omega) (by omega)
  exact ⟨_, addMonths_eq_ok_iff.mpr ⟨d, found, rfl⟩⟩

/-! ### The count -/

/-- Moved by months into the month of another stamp, or into one next to it, a stamp is in step with
that one. -/
def MeetsInStep (a b : Stamp) : Prop :=
  ∀ k t, a.addMonths k = .ok t → (t.monthIndex - b.monthIndex).natAbs ≤ 1 → t.InStep b

theorem meetsInStep_of_clock (clock : a.clock? = b.clock?) : a.MeetsInStep b :=
  fun _ _ shifted _ => inStep_of_clock ((clock?_addMonths shifted).trans clock)

theorem MeetsInStep.sameKind (steps : a.MeetsInStep b) : a.SameKind b := by
  have between : 0 ≤ a.monthGap b ∧ a.monthGap b ≤ a.monthGap b ∨
      a.monthGap b ≤ a.monthGap b ∧ a.monthGap b ≤ 0 := by omega
  obtain ⟨t, shifted⟩ := exists_addMonths between
  have month := monthIndex_addMonths shifted
  refine (steps _ _ shifted ?_).sameKind.of_clock (clock?_addMonths shifted).symm
  unfold monthGap at month
  omega

/-- Where a stamp meets another one in step, it is wherever it moves ordered by what is read. -/
theorem MeetsInStep.compare? (steps : a.MeetsInStep b) (shifted : a.addMonths k = .ok t) :
    t.compare? b = some (Ord.compare t.reading b.reading) := by
  have kind : t.SameKind b := steps.sameKind.of_clock (clock?_addMonths shifted)
  rcases Nat.lt_or_ge 1 (t.monthIndex - b.monthIndex).natAbs with far | near
  · rcases Int.lt_or_le t.monthIndex b.monthIndex with before | behind
    · rw [Nat.compare_eq_lt.mpr (reading_lt_of_monthIndex before)]
      have after : t.monthIndex + 1 < b.monthIndex := by omega
      exact compare?_of_far kind (ordinal_lt_of_monthBetween after)
    · have after : b.monthIndex + 1 < t.monthIndex := by omega
      rw [Nat.compare_eq_gt.mpr (reading_lt_of_monthIndex (by omega)), compare?_swap,
        compare?_of_far kind.symm (ordinal_lt_of_monthBetween after)]
      rfl
  · exact compare?_of_inStep (steps k t shifted near)

theorem MeetsInStep.atMost_iff (steps : a.MeetsInStep b) (shifted : a.addMonths k = .ok t) :
    t.AtMost b ↔ t.reading ≤ b.reading := by
  rw [AtMost, steps.compare? shifted, ← Nat.isLE_compare]
  simp only [Option.some_inj, exists_eq_left']

theorem MeetsInStep.atMost_iff' (steps : a.MeetsInStep b) (shifted : a.addMonths k = .ok t) :
    b.AtMost t ↔ b.reading ≤ t.reading := by
  rw [AtMost, compare?_swap, steps.compare? shifted, Option.map_some, Nat.compare_swap,
    ← Nat.isLE_compare]
  simp only [Option.some_inj, exists_eq_left']

theorem compareStrictly_of_compare? {order : Ordering} (found : s.compare? t = some order) :
    s.compareStrictly t = .ok order := by
  unfold compareStrictly
  rw [found]

theorem monthsUntil_same (same : a.monthGap b = 0) : a.monthsUntil b = .ok 0 := by
  unfold monthsUntil
  change (if 0 < a.monthGap b then _ else if a.monthGap b < 0 then _ else _) = _
  rw [same]
  rfl

theorem monthsUntil_forward (order : t.compare? b = some (Ord.compare t.reading b.reading))
    (later : 0 < a.monthGap b) (shifted : a.addMonths (a.monthGap b) = .ok t) :
    a.monthsUntil b =
      .ok (if b.reading < t.reading then a.monthGap b - 1 else a.monthGap b) := by
  have order := compareStrictly_of_compare? order
  unfold monthsUntil
  change (if 0 < a.monthGap b then (a.addMonths (a.monthGap b) >>= _) else _) = _
  rw [if_pos later, bind_of_ok shifted, bind_of_ok order]
  exact congrArg Except.ok (if_congr Nat.compare_eq_gt rfl rfl)

theorem monthsUntil_backward (order : t.compare? b = some (Ord.compare t.reading b.reading))
    (earlier : a.monthGap b < 0) (shifted : a.addMonths (a.monthGap b) = .ok t) :
    a.monthsUntil b =
      .ok (if t.reading < b.reading then a.monthGap b + 1 else a.monthGap b) := by
  have order := compareStrictly_of_compare? order
  unfold monthsUntil
  change (if 0 < a.monthGap b then _
    else if a.monthGap b < 0 then (a.addMonths (a.monthGap b) >>= _) else _) = _
  rw [if_neg (by omega), if_pos earlier, bind_of_ok shifted, bind_of_ok order]
  exact congrArg Except.ok (if_congr Nat.compare_eq_lt rfl rfl)

/-- The shifts forward from a stamp that do not go past another one. -/
def Within (a b : Stamp) : Set Int :=
  {k | 0 ≤ k ∧ ∃ t, a.addMonths k = .ok t ∧ t.reading ≤ b.reading}

/-- The shifts back from a stamp that do not go past another one. -/
def WithinBack (a b : Stamp) : Set Int :=
  {k | k ≤ 0 ∧ ∃ t, a.addMonths k = .ok t ∧ b.reading ≤ t.reading}

theorem isGreatest_within (inside : n ∈ Within a b) (near : a.monthGap b ≤ n + 1)
    (next : ∀ t, a.addMonths (n + 1) = .ok t → b.reading < t.reading) :
    IsGreatest (Within a b) n := by
  refine ⟨inside, ?_⟩
  rintro k ⟨-, t, shifted, within⟩
  apply Int.not_lt.mp
  intro further
  rcases Int.lt_or_eq_of_le (show n + 1 ≤ k from further) with far | rfl
  · exact Nat.not_lt.mpr within (reading_lt_of_far shifted (by omega))
  · exact Nat.not_lt.mpr within (next t shifted)

theorem isLeast_withinBack (inside : n ∈ WithinBack a b) (near : n - 1 ≤ a.monthGap b)
    (next : ∀ t, a.addMonths (n - 1) = .ok t → t.reading < b.reading) :
    IsLeast (WithinBack a b) n := by
  refine ⟨inside, ?_⟩
  rintro k ⟨-, t, shifted, within⟩
  apply Int.not_lt.mp
  intro further
  rcases Int.lt_or_eq_of_le (show k ≤ n - 1 by omega) with far | rfl
  · exact Nat.not_lt.mpr within (reading_lt_of_short shifted (by omega))
  · exact Nat.not_lt.mpr within (next t shifted)

theorem monthsUntil_of_le (steps : a.MeetsInStep b) (le : a.reading ≤ b.reading) :
    ∃ n, a.monthsUntil b = .ok n ∧ IsGreatest (Within a b) n := by
  have gap := monthGap_nonneg le
  rcases Int.lt_or_eq_of_le gap with later | same
  · obtain ⟨t, shifted⟩ := exists_addMonths (.inl ⟨gap, Int.le_refl _⟩)
    refine ⟨_, monthsUntil_forward (steps.compare? shifted) later shifted, ?_⟩
    split
    · -- a month less ends in the month before, so it does not go past
      rename_i past
      obtain ⟨u, shorter⟩ : ∃ u, a.addMonths (a.monthGap b - 1) = .ok u :=
        exists_addMonths (b := b) (.inl ⟨by omega, by omega⟩)
      have inside := Nat.le_of_lt (reading_lt_of_short (b := b) shorter (by omega))
      apply isGreatest_within ⟨by omega, u, shorter, inside⟩ (by omega)
      intro v reached
      rw [Int.sub_add_cancel, shifted] at reached
      cases reached
      exact past
    · rename_i within
      apply isGreatest_within ⟨gap, t, shifted, Nat.not_lt.mp within⟩ (by omega)
      intro v reached
      exact reading_lt_of_far reached (by omega)
  · refine ⟨0, monthsUntil_same same.symm, ?_⟩
    apply isGreatest_within ⟨Int.le_refl 0, a, addMonths_zero a, le⟩ (by omega)
    intro v reached
    exact reading_lt_of_far reached (by omega)

theorem monthsUntil_of_ge (steps : a.MeetsInStep b) (ge : b.reading ≤ a.reading) :
    ∃ n, a.monthsUntil b = .ok n ∧ IsLeast (WithinBack a b) n := by
  have gap := monthGap_nonpos ge
  rcases Int.lt_or_eq_of_le gap with earlier | same
  · obtain ⟨t, shifted⟩ := exists_addMonths (.inr ⟨Int.le_refl _, gap⟩)
    refine ⟨_, monthsUntil_backward (steps.compare? shifted) earlier shifted, ?_⟩
    split
    · rename_i past
      obtain ⟨u, shorter⟩ : ∃ u, a.addMonths (a.monthGap b + 1) = .ok u :=
        exists_addMonths (b := b) (.inr ⟨by omega, by omega⟩)
      have inside := Nat.le_of_lt (reading_lt_of_far (b := b) shorter (by omega))
      apply isLeast_withinBack ⟨by omega, u, shorter, inside⟩ (by omega)
      intro v reached
      rw [Int.add_sub_cancel, shifted] at reached
      cases reached
      exact past
    · rename_i within
      apply isLeast_withinBack ⟨gap, t, shifted, Nat.not_lt.mp within⟩ (by omega)
      intro v reached
      exact reading_lt_of_short reached (by omega)
  · refine ⟨0, monthsUntil_same same, ?_⟩
    apply isLeast_withinBack ⟨Int.le_refl 0, a, addMonths_zero a, ge⟩ (by omega)
    intro v reached
    exact reading_lt_of_short reached (by omega)

/-- The months to where a shift leads are those of the shift. -/
theorem monthsUntil_addMonths (shifted : s.addMonths n = .ok t) : s.monthsUntil t = .ok n := by
  have order := compare?_of_inStep (inStep_of_clock (rfl : t.clock? = t.clock?))
  obtain rfl : s.monthGap t = n := by
    rw [monthGap, monthIndex_addMonths shifted]
    omega
  rcases Int.lt_trichotomy (s.monthGap t) 0 with earlier | same | later
  · rw [monthsUntil_backward order earlier shifted, if_neg (Nat.lt_irrefl _)]
  · rw [monthsUntil_same same, same]
  · rw [monthsUntil_forward order later shifted, if_neg (Nat.lt_irrefl _)]

theorem natAbs_le_of_addMonths (shifted : s.addMonths n = .ok t) : n.natAbs ≤ 119987 := by
  have months := monthIndex_addMonths shifted
  have first := monthIndex_bounds s.date
  have second := monthIndex_bounds t.date
  unfold monthIndex at months
  omega

end Stamp

end Formula
