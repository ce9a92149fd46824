import Formula.Calendar.Shift
import Formula.Proofs.Calendar.Order
import Formula.Proofs.Except

/-!
Days by their ordinals, and moments by what their clocks read. The day of an ordinal is found by
taking years, then months, off it; so adding days adds to the ordinal, and adding microseconds adds
to the reading.
-/

namespace Formula

open Calendar

namespace Date

/-! ### The year of a day -/

section

variable {eras centuries quads years year before : Nat}

theorem daysBeforeYear_parts (century : centuries ≤ 3) (quad : quads ≤ 24) (single : years ≤ 3) :
    daysBeforeYear (eras * 400 + centuries * 100 + quads * 4 + years + 1) =
      eras * 146097 + centuries * 36524 + quads * 1461 + years * 365 := by
  have byFour : (eras * 400 + centuries * 100 + quads * 4 + years) / 4 =
      eras * 100 + centuries * 25 + quads := by omega
  have byCentury : (eras * 400 + centuries * 100 + quads * 4 + years) / 100 =
      eras * 4 + centuries := by omega
  have byEra : (eras * 400 + centuries * 100 + quads * 4 + years) / 400 = eras := by omega
  unfold daysBeforeYear
  simp only [Nat.add_sub_cancel]
  rw [byFour, byCentury, byEra]
  omega

/-- A year starts so many days after the first, and its days are counted from there. -/
theorem daysBeforeYear_splitYear (index : Nat) :
    daysBeforeYear (splitYear index).1 + (splitYear index).2 = index := by
  unfold splitYear
  dsimp only
  rw [daysBeforeYear_parts (Nat.min_le_right _ _) (by omega) (Nat.min_le_right _ _)]
  omega

theorem splitYear_parts {inQuad inCentury inEra : Nat} (century : centuries ≤ 3)
    (quad : quads ≤ 24) (single : years ≤ 3) (within : before < 366)
    (common : before < 365 ∨ (years = 3 ∧ (quads = 24 → centuries = 3)))
    (quadDay : inQuad = years * 365 + before) (centuryDay : inCentury = quads * 1461 + inQuad)
    (eraDay : inEra = centuries * 36524 + inCentury) :
    splitYear (eras * 146097 + inEra) =
      (eras * 400 + centuries * 100 + quads * 4 + years + 1, before) := by
  have centuryFits : inCentury ≤ 36524 ∧ (centuries ≤ 2 → inCentury ≤ 36523) := by omega
  have byEra : (eras * 146097 + inEra) / 146097 = eras := by omega
  have eraRest : (eras * 146097 + inEra) % 146097 = inEra := by omega
  have byCentury : min (inEra / 36524) 3 = centuries := by omega
  have centuryRest : inEra - centuries * 36524 = inCentury := by omega
  have byQuad : inCentury / 1461 = quads := by omega
  have quadRest : inCentury % 1461 = inQuad := by omega
  have byYear : min (inQuad / 365) 3 = years := by omega
  have yearRest : inQuad - years * 365 = before := by omega
  unfold splitYear
  dsimp only
  rw [byEra, eraRest, byCentury, centuryRest, byQuad, quadRest, byYear, yearRest]

theorem splitYear_daysBeforeYear (real : minYear ≤ year) (within : before < daysInYear year) :
    splitYear (daysBeforeYear year + before) = (year, before) := by
  obtain ⟨past, rfl⟩ := Nat.exists_eq_add_of_le' real
  have parts : past =
      past / 400 * 400 + past % 400 / 100 * 100 + past % 100 / 4 * 4 + past % 4 := by omega
  have century : past % 400 / 100 ≤ 3 := by omega
  have quad : past % 100 / 4 ≤ 24 := by omega
  have single : past % 4 ≤ 3 := by omega
  have leap : isLeap (past + 1) = true →
      past % 4 = 3 ∧ (past % 100 / 4 = 24 → past % 400 / 100 = 3) := by
    intro leap
    obtain ⟨four, era⟩ := isLeap_iff.mp leap
    omega
  have fits : before < 366 ∧ (before < 365 ∨
      (past % 4 = 3 ∧ (past % 100 / 4 = 24 → past % 400 / 100 = 3))) := by
    unfold daysInYear minYear at within
    split at within
    · rename_i long
      exact ⟨within, .inr (leap long)⟩
    · exact ⟨by omega, .inl within⟩
  have start := @daysBeforeYear_parts (past / 400) _ _ _ century quad single
  have found := @splitYear_parts (past / 400) _ _ _ _ _ _ _ century quad single fits.1 fits.2
    rfl rfl rfl
  rw [← Nat.add_assoc, ← Nat.add_assoc, ← Nat.add_assoc, ← start, ← parts] at found
  exact found

end

/-! ### The month of a day -/

section

variable {year month remaining first before day : Nat}

theorem daysBeforeMonth_splitMonth (real : 1 ≤ first) :
    daysBeforeMonth year (splitMonth year remaining first before).1 +
        (splitMonth year remaining first before).2 = daysBeforeMonth year first + before + 1 := by
  induction remaining generalizing first before with
  | zero => rfl
  | succ remaining ih =>
      unfold splitMonth
      split
      · rfl
      · rename_i later
        rw [ih (by omega), daysBeforeMonth_succ year real]
        omega

theorem splitMonth_daysBeforeMonth (real : 1 ≤ first) (reached : first ≤ month)
    (within : month ≤ first + remaining) (positive : 1 ≤ day) (inMonth : day ≤ daysInMonth year month)
    (days : daysBeforeMonth year first + before + 1 = daysBeforeMonth year month + day) :
    splitMonth year remaining first before = (month, day) := by
  induction remaining generalizing first before with
  | zero =>
      obtain rfl : first = month := by omega
      exact Prod.ext rfl (by simp only [splitMonth]; omega)
  | succ remaining ih =>
      unfold splitMonth
      split
      · rename_i inFirst
        rcases Nat.eq_or_lt_of_le reached with rfl | later
        · exact Prod.ext rfl (by dsimp only; omega)
        · have := daysBeforeMonth_of_lt year real later
          omega
      · rename_i behind
        rcases Nat.eq_or_lt_of_le reached with rfl | later
        · omega
        · have next := daysBeforeMonth_succ year real
          exact ih (by omega) later (by omega) (by omega)

end

/-! ### Days -/

variable {d e : Date} {n : Nat}

theorem ordinal_pos (d : Date) : 0 < d.ordinal := by
  have day : 1 ≤ d.day := d.real.2.2.2.2.1
  unfold ordinal
  omega

theorem ofOrdinal?_ordinal (d : Date) : ofOrdinal? d.ordinal = some d := by
  obtain ⟨early, late, first, last, positive, inMonth⟩ := d.real
  have inYear := d.dayOfYear_le
  have index : d.ordinal - 1 =
      daysBeforeYear d.year + (daysBeforeMonth d.year d.month + d.day - 1) := by
    unfold ordinal
    omega
  have start : daysBeforeMonth d.year 1 = 0 := rfl
  have month : splitMonth d.year 11 1 (daysBeforeMonth d.year d.month + d.day - 1) =
      (d.month, d.day) :=
    splitMonth_daysBeforeMonth (Nat.le_refl 1) first last positive inMonth (by omega)
  unfold ofOrdinal?
  rw [if_neg (Nat.ne_of_gt d.ordinal_pos), index, splitYear_daysBeforeYear early (by omega)]
  dsimp only
  rw [month]
  exact dif_pos d.real

/-- The day of an ordinal is the one that has it. -/
theorem ofOrdinal?_eq_some_iff : ofOrdinal? n = some d ↔ d.ordinal = n := by
  constructor
  · intro found
    unfold ofOrdinal? at found
    split at found
    · cases found
    · rename_i positive
      have years := daysBeforeYear_splitYear (n - 1)
      have months := @daysBeforeMonth_splitMonth (splitYear (n - 1)).1 11 1 (splitYear (n - 1)).2
        (Nat.le_refl 1)
      have start : daysBeforeMonth (splitYear (n - 1)).1 1 = 0 := rfl
      dsimp only [ofParts?] at found
      split at found
      · cases found
        unfold ordinal
        dsimp only
        omega
      · cases found
  · rintro rfl
    exact d.ofOrdinal?_ordinal

theorem addDays?_eq_some_iff {days : Int} :
    d.addDays? days = some e ↔ (e.ordinal : Int) = d.ordinal + days := by
  unfold addDays?
  split
  · rename_i n sum
    rw [ofOrdinal?_eq_some_iff, sum]
    exact Int.ofNat_inj.symm
  · rename_i n sum
    rw [sum]
    exact iff_of_false nofun nofun

theorem ordinal_le (d : Date) : d.ordinal ≤ last.ordinal := by
  rcases Nat.lt_or_eq_of_le d.real.2.1 with earlier | year
  · exact Nat.le_of_lt (ordinal_lt_of_year earlier)
  · have inYear := d.dayOfYear_le
    have latest : last.ordinal = daysBeforeYear maxYear + daysInYear maxYear := by decide
    rw [latest, ordinal, ← year]
    omega

theorem ordinal_last : last.ordinal = 3652059 := by decide

end Date

/-! ### Moments -/

namespace Moment

variable {m n : Moment}

theorem eq_of_reading (zone : m.zone = n.zone) (same : m.reading = n.reading) : m = n := by
  have date : m.date = n.date := date_eq_of_reading_eq same
  have clock : m.clock = n.clock := by
    unfold reading at same
    rw [date] at same
    exact Nat.add_left_cancel same
  cases m
  cases n
  simp only at date clock zone
  subst date clock zone
  rfl

theorem date_of_reading (m : Moment) : Date.ofOrdinal? (m.reading / microsPerDay) = some m.date := by
  have clock := m.withinDay
  rw [Date.ofOrdinal?_eq_some_iff]
  unfold reading
  unfold microsPerDay at clock ⊢
  omega

theorem reading_of_day {d : Date} {reading : Nat} (zone : Option Zone)
    (day : d.ordinal = reading / microsPerDay) :
    Moment.reading ⟨d, reading % microsPerDay, zone, Nat.mod_lt reading (by decide)⟩ =
      reading := by
  unfold Moment.reading
  rw [day]
  exact Nat.div_add_mod' reading microsPerDay

theorem ofReading?_eq_some_iff {reading : Int} {zone : Option Zone} :
    ofReading? reading zone = some m ↔ (m.reading : Int) = reading ∧ m.zone = zone := by
  unfold ofReading?
  split
  · rename_i n
    constructor
    · intro found
      obtain ⟨d, day, rfl⟩ := Option.map_eq_some_iff.mp found
      have ordinal := Date.ofOrdinal?_eq_some_iff.mp day
      exact ⟨Int.ofNat_inj.mpr (reading_of_day zone ordinal), rfl⟩
    · rintro ⟨same, rfl⟩
      have same : m.reading = n := Int.ofNat_inj.mp same
      subst same
      refine Option.map_eq_some_iff.mpr ⟨m.date, m.date_of_reading, ?_⟩
      have ordinal := Date.ofOrdinal?_eq_some_iff.mp m.date_of_reading
      exact eq_of_reading rfl (reading_of_day m.zone ordinal)
  · exact iff_of_false nofun fun ⟨same, _⟩ => nomatch same

theorem addMicros?_eq_some_iff {micros : Int} :
    m.addMicros? micros = some n ↔
      (n.reading : Int) = m.reading + micros ∧ n.zone = m.zone.map Zone.unsaid :=
  ofReading?_eq_some_iff

theorem reading_lt (m : Moment) : m.reading < (Date.last.ordinal + 1) * microsPerDay := by
  have day := Nat.mul_le_mul_right microsPerDay m.date.ordinal_le
  have clock := m.withinDay
  unfold reading
  rw [Nat.succ_mul]
  omega

end Moment

end Formula
