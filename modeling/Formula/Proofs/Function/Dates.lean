import Formula.Function.Library
import Formula.Proofs.Calendar.Counting
import Formula.Proofs.Calendar.Months
import Formula.Proofs.Evaluation.Range

/-!
What the functions of dates return. `DATEDIFF` undoes `DATEADD`: in months and years it counts those
that are complete, and in units of a fixed length it is exact where the span is. Where such a span is
no whole number of units, the count is the next one below, for negative spans too.
-/

namespace Formula.Dates

open Calendar

variable {c : Context} {name : Text} {unit : TimeUnit} {seconds : Nat} {s t : Stamp} {n : Int}

/-- `DATEADD` leads from one date by a number of units to another one. -/
def Adds (c : Context) (unit : Text) (s : Stamp) (n : Int) (t : Stamp) : Prop :=
  dateaddFunction.call c [.date s, .int n, .text unit] = .ok (.date t)

/-- `DATEDIFF` counts so many units from one date to another. -/
def Counts (c : Context) (unit : Text) (s t : Stamp) (n : Int) : Prop :=
  datediffFunction.call c [.date s, .date t, .text unit] = .ok (.int n)

theorem call_date_iff {d : Definition} {args : List Value} {result : Except Fault Stamp}
    (returned : d.implementation c args = (result.map Value.date).mapError .fault) :
    d.call c args = .ok (.date t) ↔ result = .ok t := by
  rw [Definition.call_eq_ok_iff, returned]
  simp only [mapError_eq_ok, map_eq_ok]
  constructor
  · rintro ⟨_, ⟨s, found, rfl⟩, checked⟩
    cases checked
    exact found
  · intro found
    exact ⟨_, ⟨t, found, rfl⟩, rfl⟩

theorem adds_iff_calendar (named : TimeUnit.ofName name = .ok unit)
    (unfixed : unit.seconds? = none) :
    Adds c name s n t ↔ s.addMonths (if unit = .year then n * 12 else n) = .ok t := by
  apply call_date_iff
  refine congrArg (Except.mapError CallFailure.fault) ((bind_of_ok named).trans ?_)
  rw [unfixed]
  exact (map_eq_pure_bind Value.date (s.addMonths _)).symm

theorem adds_iff_units (named : TimeUnit.ofName name = .ok unit)
    (fixed : unit.seconds? = some seconds) :
    Adds c name s n t ↔ s.addUnits (.int n) unit seconds = .ok t := by
  apply call_date_iff
  refine congrArg (Except.mapError CallFailure.fault) ((bind_of_ok named).trans ?_)
  rw [fixed]
  exact (map_eq_pure_bind _ _).symm

theorem check_int_of_small (small : n.natAbs < 2 ^ 64) : (Value.int n).check = .ok (.int n) := by
  have bits : Number.bitLength n ≤ Number.bitLength (n.natAbs : Int) :=
    Number.bitLength_le_of_natAbs_le (Int.natAbs_natCast _).ge
  have inRange : (Number.int n).InRange :=
    Nat.le_trans (Nat.le_trans bits (Number.bitLength_natCast_le small)) (by decide)
  exact Value.check_number_iff.mpr ⟨rfl, inRange⟩

theorem counts_of_small (named : TimeUnit.ofName name = .ok unit)
    (counted : s.unitsUntil t unit = .ok n) (small : n.natAbs < 2 ^ 64) : Counts c name s t n := by
  apply Definition.call_eq_ok_iff.mpr
  refine ⟨.int n, mapError_eq_ok.mpr ?_, check_int_of_small small⟩
  exact (bind_of_ok named).trans (bind_of_ok counted)

/-! ### Months and years -/

section

variable {a b : Stamp} {months years : Text}

/-- Where `DATEADD` leads from one date by months into the month of another one, or into one next to
it, the dates are in step: on clocks of one region or of the same distance from universal time. -/
def MeetsInStep (c : Context) (months : Text) (a b : Stamp) : Prop :=
  ∀ k s, Adds c months a k s → (s.monthIndex - b.monthIndex).natAbs ≤ 1 → s.InStep b

theorem meetsInStep_iff (named : TimeUnit.ofName months = .ok .month) :
    MeetsInStep c months a b ↔ a.MeetsInStep b := by
  simp only [MeetsInStep, adds_iff_calendar named rfl]
  rfl

theorem meetsInStep_of_clock (named : TimeUnit.ofName months = .ok .month)
    (clock : a.clock? = b.clock?) : MeetsInStep c months a b :=
  (meetsInStep_iff named).mpr (Stamp.meetsInStep_of_clock clock)

theorem counts_calendar (named : TimeUnit.ofName name = .ok unit) (unfixed : unit.seconds? = none)
    (kind : s.SameKind t) (counted : s.monthsUntil t = .ok n) (small : n.natAbs ≤ 119987) :
    Counts c name s t (if unit = .year then n.tdiv 12 else n) := by
  apply counts_of_small named
  · unfold Stamp.unitsUntil
    rw [Stamp.align_of_sameKind kind]
    dsimp only
    rw [unfixed]
    exact bind_of_ok counted
  · split
    · rw [Int.natAbs_tdiv]
      exact Nat.lt_of_le_of_lt (Nat.div_le_self _ _) (by omega)
    · omega

theorem within_eq (named : TimeUnit.ofName months = .ok .month) (steps : a.MeetsInStep b) :
    {k | 0 ≤ k ∧ ∃ s, Adds c months a k s ∧ s.AtMost b} = Stamp.Within a b := by
  ext k
  refine and_congr_right fun _ => exists_congr fun s => ?_
  rw [adds_iff_calendar named rfl]
  exact and_congr_right fun shifted => steps.atMost_iff shifted

theorem withinBack_eq (named : TimeUnit.ofName months = .ok .month) (steps : a.MeetsInStep b) :
    {k | k ≤ 0 ∧ ∃ s, Adds c months a k s ∧ b.AtMost s} = Stamp.WithinBack a b := by
  ext k
  refine and_congr_right fun _ => exists_congr fun s => ?_
  rw [adds_iff_calendar named rfl]
  exact and_congr_right fun shifted => steps.atMost_iff' shifted

/-- Between two dates that meet in step `DATEDIFF` counts the complete months: the most months that
can be added to the first date without going past the second one, or, back in time, the fewest.
Years are twelve months each, toward zero. Both counts undo `DATEADD`, of whatever dates. -/
theorem counts_complete_months (c : Context) (month : TimeUnit.ofName months = .ok .month)
    (year : TimeUnit.ofName years = .ok .year) :
    (∀ a b : Stamp, MeetsInStep c months a b →
      ∃ n, Counts c months a b n ∧ Counts c years a b (n.tdiv 12) ∧
        (a.AtMost b → IsGreatest {k | 0 ≤ k ∧ ∃ s, Adds c months a k s ∧ s.AtMost b} n) ∧
        (a.compare? b = some .gt →
          IsLeast {k | k ≤ 0 ∧ ∃ s, Adds c months a k s ∧ b.AtMost s} n)) ∧
    ∀ d e n, (Adds c months d n e → Counts c months d e n) ∧
      (Adds c years d n e → Counts c years d e n) := by
  constructor
  · intro a b meets
    have steps := (meetsInStep_iff month).mp meets
    have kind := steps.sameKind
    have start := Stamp.addMonths_zero a
    rw [within_eq month steps, withinBack_eq month steps, steps.atMost_iff start,
      steps.compare? start, Option.some_inj, Nat.compare_eq_gt]
    rcases Nat.lt_or_ge b.reading a.reading with gt | le
    · obtain ⟨n, counted, least⟩ := Stamp.monthsUntil_of_ge steps (Nat.le_of_lt gt)
      obtain ⟨-, s, shifted, -⟩ := least.1
      have small := Stamp.natAbs_le_of_addMonths shifted
      exact ⟨n, counts_calendar month rfl kind counted small,
        counts_calendar year rfl kind counted small, fun le => absurd gt (Nat.not_lt.mpr le),
        fun _ => least⟩
    · obtain ⟨n, counted, greatest⟩ := Stamp.monthsUntil_of_le steps le
      obtain ⟨-, s, shifted, -⟩ := greatest.1
      have small := Stamp.natAbs_le_of_addMonths shifted
      exact ⟨n, counts_calendar month rfl kind counted small,
        counts_calendar year rfl kind counted small, fun _ => greatest,
        fun gt => absurd le (Nat.not_le.mpr gt)⟩
  · intro d e n
    constructor
    · intro added
      have shifted := (adds_iff_calendar month rfl).mp added
      exact counts_calendar month rfl (Stamp.sameKind_addMonths shifted)
        (Stamp.monthsUntil_addMonths shifted) (Stamp.natAbs_le_of_addMonths shifted)
    · intro added
      have shifted := (adds_iff_calendar year rfl).mp added
      have counted := counts_calendar (c := c) year rfl (Stamp.sameKind_addMonths shifted)
        (Stamp.monthsUntil_addMonths shifted) (Stamp.natAbs_le_of_addMonths shifted)
      rw [if_pos rfl, if_pos rfl, Int.mul_tdiv_cancel _ (by decide)] at counted
      exact counted

/-- A month after the last of January is the last of February, and that month is complete. -/
theorem counts_complete_months_clamped :
    let c : Context := {
      clock := .ofMoment .universal (.atMidnight ⟨2024, 1, 15, by decide⟩ none) }
    let a := Stamp.day ⟨2024, 1, 31, by decide⟩
    let b := Stamp.day ⟨2024, 2, 29, by decide⟩
    TimeUnit.ofName "months" = .ok .month ∧ TimeUnit.ofName "years" = .ok .year ∧
    (MeetsInStep c "months" a b ∧ a.AtMost b ∧
      ∃ n, Counts c "months" a b n ∧
        IsGreatest {k | 0 ≤ k ∧ ∃ s, Adds c "months" a k s ∧ s.AtMost b} n) ∧
    Adds c "months" a 1 b ∧ Counts c "months" a b 1 := by
  intro c a b
  have month : TimeUnit.ofName "months" = .ok .month := rfl
  have year : TimeUnit.ofName "years" = .ok .year := rfl
  have meets : MeetsInStep c "months" a b := meetsInStep_of_clock month rfl
  have before : a.AtMost b := ⟨.lt, rfl, rfl⟩
  have shifted : a.addMonths 1 = .ok b :=
    Stamp.addMonths_eq_ok_iff.mpr ⟨_, shiftMonths_eq_ok_iff.mpr ⟨by decide, by decide⟩, rfl⟩
  have added : Adds c "months" a 1 b := (adds_iff_calendar month rfl).mpr shifted
  obtain ⟨between, undone⟩ := counts_complete_months c month year
  obtain ⟨n, counted, -, greatest, -⟩ := between a b meets
  exact ⟨month, year, ⟨meets, before, n, counted, greatest before⟩, added, (undone a b 1).1 added⟩

/-- From New York in winter to the end of June on a clock that is as far from universal time as New
York was then, five months are counted. The first of July, six months on, is not past that end: New
York has gone on to its summer time. -/
theorem summer_month_not_counted :
    let c : Context := {
      clock := .ofMoment .universal (.atMidnight ⟨2024, 1, 15, by decide⟩ none) }
    let winter : Zone := .fixed ⟨-18000000000, by decide⟩
    let newYork : Zone := .region Region.newYork false
    let start : Moment := .atMidnight ⟨2024, 1, 1, by decide⟩ (some newYork)
    let stop : Moment := ⟨⟨2024, 6, 30, by decide⟩, 84600000000, some winter, by decide⟩
    start.offset = stop.offset ∧ (Stamp.moment start).AtMost (.moment stop) ∧
      Counts c "months" (.moment start) (.moment stop) 5 ∧
      ∃ s, Adds c "months" (.moment start) 6 s ∧ s.AtMost (.moment stop) := by
  intro c winter newYork start stop
  have month : TimeUnit.ofName "months" = .ok .month := rfl
  have before : (Stamp.moment start).AtMost (.moment stop) := ⟨.lt, by decide +kernel, rfl⟩
  have counted : (Stamp.moment start).monthsUntil (.moment stop) = .ok 5 :=
    toOption_eq_some.mp (by decide +kernel)
  have shifted : (Stamp.moment start).addMonths 6 =
      .ok (.moment (start.withDate ⟨2024, 7, 1, by decide⟩)) :=
    Stamp.addMonths_eq_ok_iff.mpr ⟨_, shiftMonths_eq_ok_iff.mpr ⟨by decide, by decide⟩, rfl⟩
  refine ⟨by decide +kernel, before, ?_, _, (adds_iff_calendar month rfl).mpr shifted, ?_⟩
  · exact counts_calendar month rfl rfl counted (by decide)
  · exact ⟨.lt, by decide +kernel, rfl⟩

end

/-! ### Units of a fixed length -/

section

variable {days : Text}

theorem natAbs_le_of_span {k : Int} (fixed : unit.seconds? = some seconds)
    (span : IsSpan (k * unitMicros seconds)) : k.natAbs < 2 ^ 64 := by
  have grows := Nat.le_mul_of_pos_right k.natAbs (unitMicros_pos fixed)
  unfold IsSpan at span
  rw [Int.natAbs_mul, Int.natAbs_natCast] at span
  unfold microsPerDay at span
  omega

theorem counts_of_adds (named : TimeUnit.ofName name = .ok unit)
    (fixed : unit.seconds? = some seconds) (added : Adds c name s n t) : Counts c name s t n := by
  have shifted := (adds_iff_units named fixed).mp added
  have length := ((Stamp.addUnits_eq_ok_iff fixed).mp shifted).2
  have span : IsSpan (n * unitMicros seconds) := by
    have reading := @Stamp.isSpan_of_reading s t
    rwa [length, add_sub_cancel_left] at reading
  refine counts_of_small named ?_ (natAbs_le_of_span fixed span)
  rw [Stamp.unitsUntil_eq fixed, Stamp.span_addUnits fixed shifted]
  exact congrArg Except.ok (Stamp.unitsOf_mul fixed span)

theorem weekday_call (c : Context) (s : Stamp) :
    weekdayFunction.call c [.date s] = .ok (.int s.date.weekday) := by
  apply Definition.call_eq_ok_iff.mpr
  refine ⟨.int s.date.weekday, rfl, check_int_of_small ?_⟩
  have small := Nat.mod_lt s.date.ordinal (show 0 < 7 by decide)
  rw [Int.natAbs_natCast, Date.weekday]
  omega

/-- Days between two days of the calendar are exact in both directions, shifts by units of a fixed
length add up and are counted back, and the day of the week goes round with the days. -/
theorem fixed_units_exact (c : Context) (day : TimeUnit.ofName days = .ok .day) :
    (∀ a b : Date, ∃ n, Counts c days (.day a) (.day b) n ∧ Adds c days (.day a) n (.day b)) ∧
    (∀ name unit, TimeUnit.ofName name = .ok unit → unit.seconds?.isSome = true →
      ∀ d e f m n, Adds c name d m e →
        Counts c name d e m ∧ (Adds c name e n f → Adds c name d (m + n) f)) ∧
    ∀ (d : Date) e n, Adds c days (.day d) n e →
      ∃ w w', weekdayFunction.call c [.date (.day d)] = .ok (.int w) ∧
        weekdayFunction.call c [.date e] = .ok (.int w') ∧ w' = (w - 1 + n) % 7 + 1 := by
  refine ⟨fun a b => ?_, fun name unit named fixed d e f m n first => ?_, fun d e n added => ?_⟩
  · have added : Adds c days (.day a) ((b.ordinal : Int) - a.ordinal) (.day b) := by
      apply (adds_iff_units day rfl).mpr
      apply (Stamp.addUnits_eq_ok_iff rfl).mpr
      exact ⟨rfl, Stamp.reading_day_eq_iff.mpr (by omega)⟩
    exact ⟨_, counts_of_adds day rfl added, added⟩
  · obtain ⟨seconds, length⟩ := Option.isSome_iff_exists.mp fixed
    refine ⟨counts_of_adds named length first, fun second => ?_⟩
    rw [adds_iff_units named length] at first second ⊢
    exact Stamp.addUnits_add length first second
  · obtain ⟨clock, reading⟩ :=
      (Stamp.addUnits_eq_ok_iff rfl).mp ((adds_iff_units day rfl).mp added)
    refine ⟨_, _, weekday_call c _, weekday_call c _, ?_⟩
    cases e with
    | moment m => cases clock
    | day e =>
        have ordinal := Stamp.reading_day_eq_iff.mp reading
        unfold Date.weekday Stamp.date
        dsimp only
        omega

theorem fixed_units_exact_leap_day :
    let c : Context := {
      clock := .ofMoment .universal (.atMidnight ⟨2024, 1, 15, by decide⟩ none) }
    let d : Date := ⟨2024, 2, 28, by decide⟩
    let e : Date := ⟨2024, 3, 1, by decide⟩
    let f : Date := ⟨2024, 2, 29, by decide⟩
    (TimeUnit.ofName "days" = .ok .day ∧ TimeUnit.day.seconds?.isSome = true ∧
      Adds c "days" (.day d) 2 (.day e) ∧ Adds c "days" (.day e) (-1) (.day f)) ∧
    Counts c "days" (.day d) (.day e) 2 ∧ Adds c "days" (.day d) (2 + -1) (.day f) ∧
    (∃ n, Counts c "days" (.day e) (.day d) n ∧ Adds c "days" (.day e) n (.day d)) ∧
    ∃ w w', weekdayFunction.call c [.date (.day d)] = .ok (.int w) ∧
      weekdayFunction.call c [.date (.day e)] = .ok (.int w') ∧ w' = (w - 1 + 2) % 7 + 1 := by
  intro c d e f
  have day : TimeUnit.ofName "days" = .ok .day := rfl
  have first : Adds c "days" (.day d) 2 (.day e) := by
    apply (adds_iff_units day rfl).mpr
    exact (Stamp.addUnits_eq_ok_iff rfl).mpr ⟨rfl, Stamp.reading_day_eq_iff.mpr (by decide)⟩
  have second : Adds c "days" (.day e) (-1) (.day f) := by
    apply (adds_iff_units day rfl).mpr
    exact (Stamp.addUnits_eq_ok_iff rfl).mpr ⟨rfl, Stamp.reading_day_eq_iff.mpr (by decide)⟩
  obtain ⟨between, added, weekdays⟩ := fixed_units_exact c day
  obtain ⟨counted, joined⟩ := added "days" .day day rfl (.day d) (.day e) (.day f) 2 (-1) first
  exact ⟨⟨day, rfl, first, second⟩, counted, joined second, between e d, weekdays d (.day e) 2 first⟩

/-- A count is that of the complete units of a length in a span: so many fit, one more does not, and
it has the sign of the span. -/
def IsComplete (k length span : Int) : Prop :=
  |k| * length ≤ |span| ∧ |span| < (|k| + 1) * length ∧ (k = 0 ∨ k.sign = span.sign)

instance (k length span : Int) : Decidable (IsComplete k length span) := by
  unfold IsComplete
  infer_instance

/-- The quotient rounded down counts the complete units of no span back in time but those in which no
unit is broken. -/
theorem isComplete_ediv_iff {length span : Int} (positive : 0 < length) :
    IsComplete (span / length) length span ↔ 0 ≤ span ∨ length ∣ span := by
  have split := Int.emod_add_mul_ediv span length
  have rest := Int.emod_nonneg span positive.ne'
  have least := Int.emod_lt_of_pos span positive
  rw [Int.dvd_iff_emod_eq_zero]
  unfold IsComplete
  generalize span / length = k at *
  generalize span % length = r at *
  rcases lt_or_ge span 0 with back | forward
  · have negative : k < 0 := by
      by_contra! nonneg
      have := mul_nonneg positive.le nonneg
      omega
    rw [abs_of_neg back, abs_of_neg negative, Int.sign_eq_neg_one_of_neg back,
      Int.sign_eq_neg_one_of_neg negative, add_mul, neg_mul, mul_comm k]
    omega
  · have nonneg : 0 ≤ k := by
      by_contra! negative
      have := mul_le_mul_of_nonneg_left (show k ≤ -1 by omega) positive.le
      omega
    have sign : k = 0 ∨ k.sign = span.sign := by
      refine (lt_or_eq_of_le nonneg).symm.imp Eq.symm fun some => ?_
      have := mul_pos positive some
      rw [Int.sign_eq_one_of_pos some, Int.sign_eq_one_of_pos (by omega)]
    rw [abs_of_nonneg forward, abs_of_nonneg nonneg, add_mul, mul_comm k]
    refine iff_of_true ⟨?_, ?_, sign⟩ (.inl forward) <;> omega

theorem counts_moments {span : Int} (named : TimeUnit.ofName name = .ok unit)
    (fixed : unit.seconds? = some seconds) {m n : Moment} (apart : m.until? n = some span) :
    Counts c name (.moment m) (.moment n) (Stamp.unitsOf span seconds) := by
  apply counts_of_small named _ (Stamp.natAbs_unitsOf_lt fixed (Stamp.isSpan_of_until? apart))
  rw [Stamp.unitsUntil_eq fixed, Stamp.span_moments apart]
  rfl

/-- Between two moments `DATEDIFF` counts the units of the span, rounded down; one more if less than a
tenth of a millisecond is missing. Where no unit is broken the count is exact in both directions. Where
one is, a span back in time counts it too, so the units counted are the complete ones only for other
spans. -/
theorem counts_rounded_down (c : Context) (named : TimeUnit.ofName name = .ok unit)
    (fixed : unit.seconds? = some seconds) {m n : Moment} (kind : m.comparable n = true) :
    let length : Int := unitMicros seconds
    ∃ span, m.until? n = some span ∧ ∃ k, Counts c name (.moment m) (.moment n) k ∧
      (k = span / length ∨ k = span / length + 1 ∧ length < span % length + 100) ∧
      (length ∣ span → k * length = span ∧ Counts c name (.moment n) (.moment m) (-k)) ∧
      (k = span / length → (IsComplete k length span ↔ 0 ≤ span ∨ length ∣ span)) := by
  intro length
  have positive : 0 < length := Int.natCast_pos.mpr (unitMicros_pos fixed)
  obtain ⟨span, apart⟩ := Moment.exists_until? kind
  have within := Stamp.isSpan_of_until? apart
  refine ⟨span, apart, _, counts_moments named fixed apart,
    Stamp.unitsOf_eq_ediv_or fixed within, ?_, ?_⟩
  · rintro ⟨k, whole⟩
    obtain rfl : span = k * length := whole.trans (mul_comm length k)
    have apart' : n.until? m = some (-k * length) := by
      rw [Moment.until?_swap, apart, Option.map_some, neg_mul]
    have opposite := counts_moments (c := c) named fixed apart'
    rw [Stamp.unitsOf_mul fixed (Stamp.isSpan_of_until? apart')] at opposite
    rw [Stamp.unitsOf_mul fixed within]
    exact ⟨rfl, opposite⟩
  · intro down
    rw [down]
    exact isComplete_ediv_iff positive

theorem counts_rounded_down_half_day :
    let c : Context := {
      clock := .ofMoment .universal (.atMidnight ⟨2024, 1, 15, by decide⟩ none) }
    let midnight := Moment.atMidnight ⟨2024, 1, 1, by decide⟩ none
    let noon : Moment := { midnight with clock := 43200000000, withinDay := by decide }
    (TimeUnit.ofName "hours" = .ok .hour ∧ TimeUnit.hour.seconds? = some 3600 ∧
      midnight.comparable noon = true) ∧
    Counts c "hours" (.moment midnight) (.moment noon) 12 ∧
      Counts c "hours" (.moment noon) (.moment midnight) (-12) := by
  intro c midnight noon
  have named : TimeUnit.ofName "hours" = .ok .hour := rfl
  have fixed : TimeUnit.hour.seconds? = some 3600 := rfl
  have kind : midnight.comparable noon = true := rfl
  obtain ⟨span, apart, k, counted, -, whole, -⟩ := counts_rounded_down c named fixed kind
  have half : midnight.until? noon = some (12 * unitMicros 3600) := by decide +kernel
  obtain rfl : 12 * unitMicros 3600 = span := Option.some.inj (half.symm.trans apart)
  obtain ⟨length, back⟩ := whole (by decide)
  obtain rfl : k = 12 := Int.eq_of_mul_eq_mul_right (by decide) length
  exact ⟨⟨named, fixed, kind⟩, counted, back⟩

/-- From noon back to midnight no day is complete, and one is counted. -/
theorem half_day_back_counted :
    let c : Context := {
      clock := .ofMoment .universal (.atMidnight ⟨2024, 1, 15, by decide⟩ none) }
    let midnight := Moment.atMidnight ⟨2024, 1, 1, by decide⟩ none
    let noon : Moment := { midnight with clock := 43200000000, withinDay := by decide }
    Counts c "days" (.moment noon) (.moment midnight) (-1) ∧
      Counts c "days" (.moment midnight) (.moment noon) 0 ∧
      ¬ ∃ k span, Counts c "days" (.moment noon) (.moment midnight) k ∧
        noon.until? midnight = some span ∧ IsComplete k (unitMicros 86400) span := by
  intro c midnight noon
  have halfBack : noon.until? midnight = some (-43200000000) := by decide +kernel
  have half : midnight.until? noon = some 43200000000 := by decide +kernel
  have down : Stamp.unitsOf (-43200000000) 86400 = -1 := by decide +kernel
  have none : Stamp.unitsOf 43200000000 86400 = 0 := by decide +kernel
  have back : Counts c "days" (.moment noon) (.moment midnight) (-1) :=
    down ▸ counts_moments rfl rfl halfBack
  have there : Counts c "days" (.moment midnight) (.moment noon) 0 :=
    none ▸ counts_moments rfl rfl half
  refine ⟨back, there, ?_⟩
  rintro ⟨k, span, counted, apart, complete⟩
  obtain rfl : -1 = k := by
    have same := back.symm.trans counted
    cases same
    rfl
  obtain rfl : -43200000000 = span := Option.some.inj (halfBack.symm.trans apart)
  exact absurd complete (by decide)

end

end Formula.Dates
