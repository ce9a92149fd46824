import Formula.Proofs.Calendar.Ordinal

/-!
Stamps as readings of a clock. A shift by units of a fixed length adds that much to the reading, and
a shift by months adds to the number of the month; both keep the clock, except that a day that moves
by hours, minutes or seconds gets one. Stamps in step are ordered as they are read.
-/

namespace Formula

open Calendar

namespace Date

variable {d e : Date}

theorem ofParts_eq_ok_iff {year month day : Int} :
    ofParts year month day = .ok e ↔ year = e.year ∧ month = e.month ∧ day = e.day := by
  constructor
  · intro found
    unfold ofParts ofParts? at found
    split at found
    · cases found
    · rename_i years
      split at found
      · cases found
      · rename_i months
        split at found
        · rename_i d' real
          split at real
          · rename_i parts
            cases real
            cases found
            have positive := parts.2.2.2.2.1
            unfold minYear at years
            dsimp only
            omega
          · cases real
        · cases found
  · rintro ⟨rfl, rfl, rfl⟩
    have years := e.real.1
    have latest := e.real.2.1
    have first := e.real.2.2.1
    have last := e.real.2.2.2.1
    unfold ofParts ofParts?
    rw [if_neg (by omega), if_neg (by omega)]
    simp only [Int.toNat_natCast]
    rw [dif_pos e.real]

end Date

namespace Calendar

/-! ### Months -/

variable {d e : Date} {months : Int}

theorem monthIndex_bounds (d : Date) : 12 ≤ monthIndex d ∧ monthIndex d ≤ 119999 := by
  have early := d.real.1
  have late := d.real.2.1
  have first := d.real.2.2.1
  have last := d.real.2.2.2.1
  unfold minYear at early
  unfold maxYear at late
  unfold monthIndex
  omega

theorem monthIndex_fdiv (d : Date) : (monthIndex d).fdiv 12 = d.year := by
  have first := d.real.2.2.1
  have last := d.real.2.2.2.1
  unfold monthIndex
  rw [Int.fdiv_eq_ediv_of_nonneg _ (by decide)]
  omega

theorem monthIndex_fmod (d : Date) : (monthIndex d).fmod 12 = d.month - 1 := by
  have first := d.real.2.2.1
  have last := d.real.2.2.2.1
  unfold monthIndex
  rw [Int.fmod_eq_emod_of_nonneg _ (by decide)]
  omega

theorem asPart_eq_ok {n part : Int} (found : asPart n = .ok part) : part = n := by
  unfold asPart at found
  split at found
  · cases found
  · split at found
    · cases found
    · split at found
      · cases found
      · exact (Except.ok.inj found).symm

theorem asPart_of_small {n : Int} (small : n.natAbs ≤ 1000000) : asPart n = .ok n := by
  unfold asPart minLong maxLong maxInt minInt
  rw [if_neg (by omega), if_neg (by omega), if_neg (by omega)]

/-- A shift by months reaches the day of the month that is as many months on, or the last one if
the month is too short. -/
theorem shiftMonths_eq_ok_iff : shiftMonths d months = .ok e ↔
    monthIndex e = monthIndex d + months ∧ e.day = min d.day (daysInMonth e.year e.month) := by
  unfold shiftMonths
  dsimp only
  rw [bind_eq_ok]
  constructor
  · rintro ⟨year, part, found⟩
    obtain rfl := asPart_eq_ok part
    split at found
    · cases found
    · obtain ⟨year, month, day⟩ := Date.ofParts_eq_ok_iff.mp found
      rw [year, Int.toNat_natCast] at day
      rw [Int.fdiv_eq_ediv_of_nonneg _ (by decide)] at year
      rw [Int.fmod_eq_emod_of_nonneg _ (by decide)] at month day
      have same : ((monthIndex d + months) % 12).toNat + 1 = e.month := by omega
      have index : monthIndex e = (e.year : Int) * 12 + e.month - 1 := rfl
      rw [same] at day
      constructor <;> omega
  · rintro ⟨index, day⟩
    rw [← index, monthIndex_fdiv, monthIndex_fmod]
    have early := e.real.1
    have late := e.real.2.1
    have first := e.real.2.2.1
    have month : ((e.month : Int) - 1).toNat + 1 = e.month := by omega
    unfold minYear at early
    unfold maxYear at late
    refine ⟨e.year, asPart_of_small (by omega), ?_⟩
    rw [if_neg (by unfold minYear maxYear; omega), month, Int.toNat_natCast]
    exact Date.ofParts_eq_ok_iff.mpr ⟨rfl, by omega, by omega⟩

theorem two_lt_daysInMonth (year month : Nat) : 2 < daysInMonth year month := by
  unfold daysInMonth
  split
  · split <;> decide
  all_goals decide

theorem exists_shiftMonths (early : 12 ≤ monthIndex d + months)
    (late : monthIndex d + months ≤ 119999) : ∃ e, shiftMonths d months = .ok e := by
  have total := Int.emod_add_mul_ediv (monthIndex d + months) 12
  have rest := Int.emod_nonneg (monthIndex d + months) (show (12 : Int) ≠ 0 by decide)
  have least := Int.emod_lt_of_pos (monthIndex d + months) (show (0 : Int) < 12 by decide)
  generalize (monthIndex d + months) / 12 = year at total
  generalize (monthIndex d + months) % 12 = month at *
  have positive := d.real.2.2.2.2.1
  have days := two_lt_daysInMonth year.toNat (month.toNat + 1)
  have real : Exists year.toNat (month.toNat + 1)
      (min d.day (daysInMonth year.toNat (month.toNat + 1))) := by
    unfold Exists minYear maxYear
    omega
  refine ⟨⟨_, _, _, real⟩, shiftMonths_eq_ok_iff.mpr ⟨?_, rfl⟩⟩
  have index : monthIndex ⟨_, _, _, real⟩ = (year.toNat : Int) * 12 + (month.toNat + 1 : Nat) - 1 :=
    rfl
  rw [index]
  omega

theorem ordinal_lt_of_monthIndex (before : monthIndex d < monthIndex e) :
    d.ordinal < e.ordinal := by
  have first := e.real.2.2.1
  have last := e.real.2.2.2.1
  have first' := d.real.2.2.1
  have last' := d.real.2.2.2.1
  unfold monthIndex at before
  rcases Nat.lt_trichotomy d.year e.year with earlier | year | later
  · exact Date.ordinal_lt_of_year earlier
  · exact Date.ordinal_lt_of_month year (by omega)
  · omega

/-- Between two days with a month between them are all the days of that month. -/
theorem ordinal_lt_of_monthBetween (before : monthIndex d + 1 < monthIndex e) :
    d.ordinal + 3 ≤ e.ordinal := by
  have late := (monthIndex_bounds e).2
  have early := (monthIndex_bounds d).1
  obtain ⟨u, found⟩ : ∃ u, shiftMonths d 1 = .ok u := exists_shiftMonths (by omega) (by omega)
  obtain ⟨between, -⟩ := shiftMonths_eq_ok_iff.mp found
  obtain ⟨year, year', month, month', -, -⟩ := u.real
  have days := two_lt_daysInMonth u.year u.month
  let first : Date := ⟨u.year, u.month, 1, year, year', month, month', by omega, by omega⟩
  let third : Date := ⟨u.year, u.month, 3, year, year', month, month', by omega, by omega⟩
  have behind : d.ordinal < first.ordinal :=
    ordinal_lt_of_monthIndex (show _ < monthIndex u by omega)
  have ahead : third.ordinal < e.ordinal :=
    ordinal_lt_of_monthIndex (show monthIndex u < _ by omega)
  have apart : third.ordinal = first.ordinal + 2 := rfl
  omega

end Calendar

namespace Stamp

variable {s t : Stamp} {d : Date} {m : Moment}

/-- The zone of the clock that a stamp is read on; a day has no clock. -/
def clock? : Stamp → Option (Option Zone)
  | .day _ => none
  | .moment m => some m.zone

/-- What the clock of a stamp reads. A day is read at its midnight. -/
def reading : Stamp → Nat
  | .day d => d.ordinal * microsPerDay
  | .moment m => m.reading

@[simp] theorem clock?_day (d : Date) : (day d).clock? = none := rfl

@[simp] theorem clock?_moment (m : Moment) : (moment m).clock? = some m.zone := rfl

@[simp] theorem reading_day (d : Date) : (day d).reading = d.ordinal * microsPerDay := rfl

@[simp] theorem reading_moment (m : Moment) : (moment m).reading = m.reading := rfl

theorem reading_lt (s : Stamp) : s.reading < 3652060 * microsPerDay := by
  rw [show 3652060 = Date.last.ordinal + 1 by decide]
  cases s with
  | day d =>
      have day := d.ordinal_le
      exact Nat.mul_lt_mul_of_pos_right (Nat.lt_succ_of_le day) (by decide)
  | moment m => exact m.reading_lt

/-! ### Stamps in step -/

/-- Two days, or two moments in step. -/
inductive InStep : Stamp → Stamp → Prop where
  | days (d e : Date) : InStep (.day d) (.day e)
  | moments {m n : Moment} (step : m.InStep n) : InStep (.moment m) (.moment n)

/-- Clocks of one zone are in step, whatever is said of doubtful readings. -/
theorem inStep_of_unsaid
    (same : s.clock?.map (·.map Zone.unsaid) = t.clock?.map (·.map Zone.unsaid)) : s.InStep t := by
  cases s with
  | day d =>
      cases t with
      | day e => exact .days d e
      | moment n => cases same
  | moment m =>
      cases t with
      | day e => cases same
      | moment n => exact .moments (Moment.inStep_of_unsaid (Option.some.inj same))

theorem inStep_of_clock (clock : s.clock? = t.clock?) : s.InStep t :=
  inStep_of_unsaid (by rw [clock])

theorem compare?_of_inStep (step : s.InStep t) :
    s.compare? t = some (Ord.compare s.reading t.reading) := by
  cases step with
  | days d e =>
      have days : (day d).compare? (day e) = some (d.compare e) := rfl
      have order {a b : Nat} : a < b ↔ a * microsPerDay < b * microsPerDay :=
        (Nat.mul_lt_mul_right (by decide)).symm
      rw [days, Date.compare_eq_compare_ordinal, Nat.compare_eq_ite_lt, Nat.compare_eq_ite_lt]
      exact congrArg some (if_congr order rfl (if_congr order rfl rfl))
  | moments step => exact Moment.compare?_of_inStep step

/-! ### Shifts by months -/

def withDate (s : Stamp) (d : Date) : Stamp :=
  match s with
  | .day _ => .day d
  | .moment m => .moment (m.withDate d)

@[simp] theorem date_withDate (s : Stamp) (d : Date) : (s.withDate d).date = d := by
  cases s <;> rfl

@[simp] theorem clock?_withDate (s : Stamp) (d : Date) : (s.withDate d).clock? = s.clock? := by
  cases s <;> rfl

@[simp] theorem withDate_date (s : Stamp) : s.withDate s.date = s := by
  cases s <;> rfl

theorem addMonths_eq (s : Stamp) (months : Int) :
    s.addMonths months = (shiftMonths s.date months).map s.withDate := by
  cases s <;> exact (map_eq_pure_bind _ _).symm

theorem addMonths_eq_ok_iff {months : Int} : s.addMonths months = .ok t ↔
    ∃ d, shiftMonths s.date months = .ok d ∧ s.withDate d = t := by
  rw [addMonths_eq]
  exact map_eq_ok

theorem addMonths_zero (s : Stamp) : s.addMonths 0 = .ok s := by
  refine addMonths_eq_ok_iff.mpr ⟨s.date, shiftMonths_eq_ok_iff.mpr ⟨?_, ?_⟩, s.withDate_date⟩
  · exact (Int.add_zero _).symm
  · exact (Nat.min_eq_left s.date.real.2.2.2.2.2).symm

theorem reading_bounds (s : Stamp) : s.date.ordinal * microsPerDay ≤ s.reading ∧
    s.reading < (s.date.ordinal + 1) * microsPerDay := by
  rw [Nat.succ_mul]
  cases s with
  | day d => exact ⟨Nat.le_refl _, Nat.lt_add_of_pos_right (by decide)⟩
  | moment m => exact ⟨Nat.le_add_right _ _, Nat.add_lt_add_left m.withinDay _⟩

theorem reading_lt_of_date (before : s.date.ordinal < t.date.ordinal) : s.reading < t.reading := by
  calc s.reading
    _ < (s.date.ordinal + 1) * microsPerDay := s.reading_bounds.2
    _ ≤ t.date.ordinal * microsPerDay := Nat.mul_le_mul_right _ before
    _ ≤ t.reading := t.reading_bounds.1

/-! ### Stamps of one kind -/

/-- Two days, or two moments of which both have a zone, or neither. -/
def SameKind : Stamp → Stamp → Prop
  | .day _, .day _ => True
  | .moment m, .moment n => m.comparable n = true
  | _, _ => False

theorem InStep.sameKind (step : s.InStep t) : s.SameKind t := by
  cases step with
  | days d e => trivial
  | moments step => exact Moment.comparable_of_until? (Moment.until?_of_inStep step)

theorem SameKind.symm (kind : s.SameKind t) : t.SameKind s := by
  cases s with
  | day d =>
      cases t with
      | day e => trivial
      | moment n => exact kind
  | moment m =>
      cases t with
      | day e => exact kind
      | moment n => exact beq_iff_eq.mpr (beq_iff_eq.mp kind).symm

theorem SameKind.of_clock {u : Stamp} (kind : s.SameKind t) (clock : u.clock? = s.clock?) :
    u.SameKind t := by
  cases u with
  | day e =>
      cases s with
      | day d => cases t <;> exact kind
      | moment m => cases clock
  | moment n =>
      cases s with
      | day d => cases clock
      | moment m =>
          have zone : n.zone = m.zone := Option.some.inj clock
          cases t with
          | day e => exact kind
          | moment k =>
              change (n.zone.isSome == _) = true
              rw [zone]
              exact kind

theorem align_of_sameKind (kind : s.SameKind t) : s.align t = (s, t) := by
  cases s <;> cases t <;> first | rfl | exact kind.elim

/-- Some days apart, stamps of one kind are in the order of their days, whatever their zones. -/
theorem compare?_of_far (kind : s.SameKind t) (far : s.date.ordinal + 3 ≤ t.date.ordinal) :
    s.compare? t = some .lt := by
  cases s with
  | day d =>
      cases t with
      | moment n => exact kind.elim
      | day e =>
          have days : (day d).compare? (day e) = some (d.compare e) := rfl
          rw [days, Date.compare_eq_compare_ordinal, Nat.compare_eq_lt.mpr]
          exact Nat.lt_of_lt_of_le (Nat.lt_add_of_pos_right (by decide)) far
  | moment m =>
      cases t with
      | day e => exact kind.elim
      | moment n =>
          have first := (moment m).reading_bounds.2
          have second := (moment n).reading_bounds.1
          have first' := m.instant_bounds.2
          have second' := n.instant_bounds.1
          rw [reading_moment] at first second
          unfold microsPerDay at *
          refine Moment.compare?_eq_some_iff.mpr ?_
          cases shares : m.sharesRegion n with
          | true =>
              exact ⟨_, Moment.until?_of_sharesRegion shares, Int.compare_eq_lt.mpr (by omega)⟩
          | false =>
              exact ⟨_, Moment.until?_of_not_sharesRegion shares kind,
                Int.compare_eq_lt.mpr (by omega)⟩

end Stamp

end Formula
