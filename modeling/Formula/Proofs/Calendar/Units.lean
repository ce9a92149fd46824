import Formula.Proofs.Calendar.Shift

/-!
Shifts by units of a fixed length, and the span of time between two stamps. A shift adds to what the
clock reads, so shifts add up, and the span to where a shift leads is the length of the shift.
-/

namespace Formula

open Calendar

namespace Calendar

/-- A day that moves by hours, minutes or seconds gets a clock without a zone. Of the reading that a
clock moves to nothing is said. -/
def TimeUnit.clockAfter (unit : TimeUnit) (clock : Option (Option Zone)) : Option (Option Zone) :=
  match unit with
  | .hour | .minute | .second => some ((clock.getD none).map Zone.unsaid)
  | _ => clock.map (·.map Zone.unsaid)

/-- The second of two shifts finds a clock of which nothing is said. -/
theorem TimeUnit.clockAfter_clockAfter (unit : TimeUnit) (clock : Option (Option Zone)) :
    unit.clockAfter (unit.clockAfter clock) = unit.clockAfter clock := by
  have once : (clock.map (·.map Zone.unsaid)).map (·.map Zone.unsaid) =
      clock.map (·.map Zone.unsaid) := by
    cases clock with
    | none => rfl
    | some zone => exact congrArg some (Zone.map_unsaid_unsaid zone)
  cases unit
  case hour | minute | second => exact congrArg some (Zone.map_unsaid_unsaid _)
  all_goals exact once

def unitMicros (seconds : Nat) : Nat := seconds * microsPerSecond

theorem unitMicros_pos {unit : TimeUnit} {seconds : Nat} (fixed : unit.seconds? = some seconds) :
    0 < unitMicros seconds := by
  cases unit <;> cases fixed <;> decide

end Calendar

namespace Stamp

variable {s t u : Stamp} {d e : Date} {m m' : Moment} {n : Int}

theorem checkSpanDays_of_small {days : Int} (small : days.natAbs ≤ 4000000) :
    checkSpanDays days = .ok () := by
  unfold checkSpanDays minInt maxInt maxSpanDays
  rw [if_neg (by omega), if_neg (by omega)]

theorem addDays_eq_ok_iff : addDays d n = .ok e ↔ (e.ordinal : Int) = d.ordinal + n := by
  rw [← Date.addDays?_eq_some_iff]
  unfold addDays
  rw [bind_eq_ok]
  constructor
  · rintro ⟨_, -, found⟩
    split at found
    · rename_i later reached
      cases found
      exact reached
    · cases found
  · intro reached
    have sum := Date.addDays?_eq_some_iff.mp reached
    have first := d.ordinal_le
    have second := e.ordinal_le
    rw [Date.ordinal_last] at first second
    exact ⟨(), checkSpanDays_of_small (by omega), by rw [reached]⟩

theorem addMicros_eq_ok_iff : addMicros m n = .ok m' ↔
    (m'.reading : Int) = m.reading + n ∧ m'.zone = m.zone.map Zone.unsaid := by
  rw [← Moment.addMicros?_eq_some_iff]
  unfold addMicros
  rw [bind_eq_ok]
  constructor
  · rintro ⟨_, -, found⟩
    split at found
    · rename_i later reached
      cases found
      exact reached
    · cases found
  · intro reached
    have sum := (Moment.addMicros?_eq_some_iff.mp reached).1
    have first := m.reading_lt
    have second := m'.reading_lt
    rw [Date.ordinal_last] at first second
    refine ⟨(), checkSpanDays_of_small ?_, by rw [reached]⟩
    rw [Int.fdiv_eq_ediv_of_nonneg _ (by decide)]
    unfold microsPerDay at *
    omega

theorem reading_toMoment (s : Stamp) (zone : Option Zone) :
    (s.toMoment zone).reading = s.reading := by
  cases s with
  | day d => exact Nat.add_zero _
  | moment m => rfl

theorem addUnits_eq_addMicros {unit : TimeUnit} (seconds : Nat) (n : Int)
    (timed : s.isMoment = true ∨ unit.clockAfter none ≠ none) :
    s.addUnits (.int n) unit seconds =
      (addMicros (s.toMoment none) (n * seconds * microsPerSecond)).map .moment := by
  cases s with
  | moment m => cases unit <;> rfl
  | day d =>
      cases unit
      case hour | minute | second => rfl
      all_goals exact absurd rfl (timed.resolve_left Bool.false_ne_true)

theorem addUnits_timed {unit : TimeUnit} (seconds : Nat)
    (timed : s.isMoment = true ∨ unit.clockAfter none ≠ none) :
    s.addUnits (.int n) unit seconds = .ok t ↔
      t.clock? = some ((s.toMoment none).zone.map Zone.unsaid) ∧
        (t.reading : Int) = s.reading + n * unitMicros seconds := by
  have length : n * seconds * microsPerSecond = n * unitMicros seconds := by
    rw [unitMicros, Int.natCast_mul, Int.mul_assoc]
  rw [addUnits_eq_addMicros seconds n timed, map_eq_ok, length, ← reading_toMoment s none]
  constructor
  · rintro ⟨m, moved, rfl⟩
    obtain ⟨reading, zone⟩ := addMicros_eq_ok_iff.mp moved
    exact ⟨congrArg some zone, reading⟩
  · rintro ⟨clock, reading⟩
    cases t with
    | day e => cases clock
    | moment m => exact ⟨m, addMicros_eq_ok_iff.mpr ⟨reading, Option.some.inj clock⟩, rfl⟩

theorem reading_day_eq_iff : ((day e).reading : Int) = (day d).reading + n * microsPerDay ↔
    (e.ordinal : Int) = d.ordinal + n := by
  rw [reading_day, reading_day, Int.natCast_mul, Int.natCast_mul, ← Int.add_mul]
  exact Int.mul_eq_mul_right_iff (by decide)

theorem addDays_map_eq_ok_iff : (addDays d n).map day = .ok t ↔
    t.clock? = none ∧ (t.reading : Int) = (day d).reading + n * microsPerDay := by
  rw [map_eq_ok]
  constructor
  · rintro ⟨e, moved, rfl⟩
    exact ⟨rfl, reading_day_eq_iff.mpr (addDays_eq_ok_iff.mp moved)⟩
  · rintro ⟨clock, reading⟩
    cases t with
    | moment m => cases clock
    | day e => exact ⟨e, addDays_eq_ok_iff.mpr (reading_day_eq_iff.mp reading), rfl⟩

/-- A shift by units of a fixed length adds so many of them to what the clock reads. -/
theorem addUnits_eq_ok_iff {unit : TimeUnit} {seconds : Nat} (fixed : unit.seconds? = some seconds) :
    s.addUnits (.int n) unit seconds = .ok t ↔ t.clock? = unit.clockAfter s.clock? ∧
      (t.reading : Int) = s.reading + n * unitMicros seconds := by
  cases s with
  | moment m =>
      have clock : unit.clockAfter (some m.zone) = some (m.zone.map Zone.unsaid) := by
        cases unit <;> rfl
      rw [addUnits_timed seconds (.inl rfl), clock?_moment, clock]
      exact Iff.rfl
  | day d =>
      cases unit with
      | year => cases fixed
      | month => cases fixed
      | week =>
          cases fixed
          have weeks : n * unitMicros 604800 = n * 7 * microsPerDay := by
            rw [Int.mul_assoc]
            rfl
          rw [weeks]
          exact addDays_map_eq_ok_iff
      | day =>
          cases fixed
          exact addDays_map_eq_ok_iff
      | hour => exact addUnits_timed seconds (.inr nofun)
      | minute => exact addUnits_timed seconds (.inr nofun)
      | second => exact addUnits_timed seconds (.inr nofun)

/-! ### Spans -/

/-- The microseconds from one stamp to another, brought to one clock first. -/
def span (s t : Stamp) : Except Fault Int := (s.align t).1.microsUntil (s.align t).2

theorem unitsUntil_eq {unit : TimeUnit} {seconds : Nat} (fixed : unit.seconds? = some seconds) :
    s.unitsUntil t unit = (s.span t).map (unitsOf · seconds) := by
  unfold unitsUntil span
  dsimp only
  rw [fixed]
  exact (map_eq_pure_bind _ _).symm

theorem span_moments (apart : m.until? m' = some n) : (moment m).span (.moment m') = .ok n := by
  change (moment m).microsUntil (.moment m') = .ok n
  rw [microsUntil, apart]

theorem span_of_inStep (step : s.InStep t) : s.span t = .ok (t.reading - s.reading) := by
  cases step with
  | days d e =>
      refine congrArg Except.ok ?_
      rw [reading_day, reading_day, Int.natCast_mul, Int.natCast_mul, ← Int.sub_mul]
      rfl
  | moments step => exact span_moments (Moment.until?_of_inStep step)

/-- A day is on the clock of a moment that it is brought together with. -/
theorem span_day_moment : (day d).span (.moment m) = .ok (m.reading - (day d).reading) := by
  have midnight := span_of_inStep (s := .moment (Moment.atMidnight d (m.zone.map Zone.unsaid)))
    (t := .moment m) (inStep_of_unsaid (congrArg some (Zone.map_unsaid_unsaid m.zone)))
  rw [← reading_toMoment (day d) (m.zone.map Zone.unsaid)]
  exact midnight

theorem span_addUnits {unit : TimeUnit} {seconds : Nat} (fixed : unit.seconds? = some seconds)
    (shifted : s.addUnits (.int n) unit seconds = .ok t) :
    s.span t = .ok (n * unitMicros seconds) := by
  obtain ⟨clock, reading⟩ := (addUnits_eq_ok_iff fixed).mp shifted
  have length : (t.reading : Int) - s.reading = n * unitMicros seconds := by omega
  rw [← length]
  cases t with
  | moment m =>
      cases s with
      | moment m' =>
          refine span_of_inStep (inStep_of_unsaid ?_)
          have kept : some (m'.zone.map Zone.unsaid) = some m.zone := by
            rw [← clock?_moment m, clock]
            cases unit <;> rfl
          rw [clock?_moment, clock?_moment, ← kept, Option.map_some, Option.map_some,
            Zone.map_unsaid_unsaid]
      | day d => exact span_day_moment
  | day e =>
      cases s with
      | moment m' => cases unit <;> cases clock
      | day d => exact span_of_inStep (.days d e)

theorem addUnits_add {unit : TimeUnit} {seconds : Nat} {k : Int}
    (fixed : unit.seconds? = some seconds) (first : s.addUnits (.int n) unit seconds = .ok t)
    (second : t.addUnits (.int k) unit seconds = .ok u) :
    s.addUnits (.int (n + k)) unit seconds = .ok u := by
  obtain ⟨clock, reading⟩ := (addUnits_eq_ok_iff fixed).mp first
  obtain ⟨clock', reading'⟩ := (addUnits_eq_ok_iff fixed).mp second
  refine (addUnits_eq_ok_iff fixed).mpr ⟨?_, ?_⟩
  · rw [clock', clock, TimeUnit.clockAfter_clockAfter]
  · rw [reading', reading, Int.add_mul, Int.add_assoc]

end Stamp

end Formula
