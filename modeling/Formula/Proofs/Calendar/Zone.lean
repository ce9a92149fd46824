import Formula.Calendar.Moment

/-!
What the clocks of a region show. Where a reading is not doubtful it means one instant, and no other
reading that is not doubtful means it too: before a change the clocks mean earlier instants, past it
none of them.
-/

namespace Formula

namespace Calendar

variable {old : Standard} {c d : Change} {rest changes : List Change} {a b reading : Int}

/-! ### Bounds of changes -/

theorem Change.bound_true_le (c : Change) (old : Standard) (later : Bool) :
    c.bound old true ≤ c.bound old later := by
  cases later <;> simp only [bound, if_true, Bool.false_eq_true, if_false] <;> omega

theorem Change.bound_true_le_since_add (c : Change) (old : Standard) :
    c.bound old true ≤ c.since + old.offset.micros := by
  simp only [bound, if_true]
  omega

theorem Change.since_add_le_bound_false (c : Change) (old : Standard) :
    c.since + old.offset.micros ≤ c.bound old false ∧
      c.since + c.standard.offset.micros ≤ c.bound old false := by
  simp only [bound, Bool.false_eq_true, if_false]
  omega

theorem Apart.tail (apart : Apart old (c :: rest)) : Apart c.standard rest := by
  cases rest with
  | nil => trivial
  | cons d rest => exact apart.2

theorem Apart.since_le (apart : Apart old (c :: d :: rest)) : c.since ≤ d.since := by
  have before := (c.since_add_le_bound_false old).2
  have after := d.bound_true_le_since_add c.standard
  have next := apart.1
  omega

/-! ### Standards of readings -/

theorem standardOf_of_lt {later : Bool} (before : reading < c.bound old later) :
    standardOf old (c :: rest) reading later = old := if_pos before

theorem standardOf_of_le {later : Bool} (past : c.bound old later ≤ reading) :
    standardOf old (c :: rest) reading later = standardOf c.standard rest reading later :=
  if_neg (Int.not_lt.mpr past)

/-- A reading that is doubtful for a change goes by the standard before it or by the one after. -/
theorem standardOf_rest (apart : Apart old (c :: rest)) (doubtful : reading < c.bound old false)
    (later : Bool) : standardOf c.standard rest reading later = c.standard := by
  cases rest with
  | nil => rfl
  | cons d rest =>
      exact standardOf_of_lt (Int.lt_of_lt_of_le doubtful
        (Int.le_trans apart.1 (d.bound_true_le c.standard later)))

/-- The distance from universal time is the same, whichever standard the reading goes by. -/
def Settled (old : Standard) (changes : List Change) (reading : Int) : Prop :=
  (standardOf old changes reading false).offset = (standardOf old changes reading true).offset

/-- A settled reading is before the first change, or past it and settled for those that follow. -/
theorem Settled.before_or_past (apart : Apart old (c :: rest))
    (settled : Settled old (c :: rest) reading) :
    reading < c.bound old true ∨ c.bound old false ≤ reading ∧ Settled c.standard rest reading := by
  rcases Int.lt_or_le reading (c.bound old true) with before | past
  · exact .inl before
  rcases Int.lt_or_le reading (c.bound old false) with doubtful | past'
  · -- the distances on both sides are the same, so that the bounds are
    rw [Settled, standardOf_of_lt doubtful, standardOf_of_le past,
      standardOf_rest apart doubtful true] at settled
    simp only [Change.bound, settled, if_true, Bool.false_eq_true, if_false] at past doubtful
    omega
  · rw [Settled, standardOf_of_le past', standardOf_of_le past] at settled
    exact .inr ⟨past', settled⟩

/-- What a reading means by the earlier standard, if it may go by two. -/
def instantOf (old : Standard) (changes : List Change) (reading : Int) : Int :=
  reading - (standardOf old changes reading false).offset.micros

theorem instantOf_lt (before : reading < c.bound old true) :
    instantOf old (c :: rest) reading < c.since := by
  have bound := c.bound_true_le_since_add old
  rw [instantOf, standardOf_of_lt (Int.lt_of_lt_of_le before (c.bound_true_le old false))]
  omega

theorem instantOf_of_past (past : c.bound old false ≤ reading) :
    instantOf old (c :: rest) reading = instantOf c.standard rest reading := by
  rw [instantOf, standardOf_of_le past, instantOf]

theorem le_instantOf (apart : Apart old (c :: rest)) (past : c.bound old false ≤ reading) :
    c.since ≤ instantOf c.standard rest reading := by
  induction rest generalizing old c with
  | nil =>
      have bound := (c.since_add_le_bound_false old).2
      rw [instantOf, standardOf]
      omega
  | cons d rest ih =>
      rcases Int.lt_or_le reading (d.bound c.standard false) with before | past'
      · have bound := (c.since_add_le_bound_false old).2
        rw [instantOf, standardOf_of_lt before]
        omega
      · rw [instantOf_of_past past']
        exact Int.le_trans apart.since_le (ih apart.tail past')

/-- No instant is shown by two settled readings. -/
theorem reading_eq_of_instantOf_eq (apart : Apart old changes) (first : Settled old changes a)
    (second : Settled old changes b) (same : instantOf old changes a = instantOf old changes b) :
    a = b := by
  induction changes generalizing old with
  | nil =>
      unfold instantOf standardOf at same
      omega
  | cons c rest ih =>
      rcases first.before_or_past apart with before | ⟨past, first⟩
      · rcases second.before_or_past apart with before' | ⟨past', -⟩
        · rw [instantOf, instantOf,
            standardOf_of_lt (Int.lt_of_lt_of_le before (c.bound_true_le old false)),
            standardOf_of_lt (Int.lt_of_lt_of_le before' (c.bound_true_le old false))] at same
          omega
        · have early : instantOf old (c :: rest) a < c.since := instantOf_lt before
          have late := le_instantOf apart past'
          rw [instantOf_of_past past'] at same
          omega
      · rcases second.before_or_past apart with before' | ⟨past', second⟩
        · have early : instantOf old (c :: rest) b < c.since := instantOf_lt before'
          have late := le_instantOf apart past
          rw [instantOf_of_past past] at same
          omega
        · rw [instantOf_of_past past, instantOf_of_past past'] at same
          exact ih apart.tail first second same

/-- The clocks of New York in 2024: an hour ahead of their standard time from the tenth of March to
the third of November. -/
def Region.newYork : Region where
  name := "America/New_York"
  first := ⟨⟨-18000000000, by decide⟩, "EST"⟩
  changes := [
    ⟨63845737200000000, ⟨-14400000000, by decide⟩, "EDT"⟩,
    ⟨63866296800000000, ⟨-18000000000, by decide⟩, "EST"⟩]

/-! ### Zones -/

namespace Zone

variable {z w : Zone} {n k : Nat}

theorem sameRegion_iff : z.sameRegion w = true ↔ ∃ r first second,
    z = .region r first ∧ w = .region r second := by
  constructor
  · intro same
    cases z with
    | fixed o => cases same
    | region r first =>
        cases w with
        | fixed o => cases same
        | region s second => exact ⟨r, first, second, rfl, by rw [beq_iff_eq.mp same]⟩
  · rintro ⟨r, first, second, rfl, rfl⟩
    exact beq_iff_eq.mpr rfl

@[simp] theorem unsaid_unsaid (z : Zone) : z.unsaid.unsaid = z.unsaid := by
  cases z <;> rfl

theorem map_unsaid_unsaid (zone : Option Zone) :
    (zone.map unsaid).map unsaid = zone.map unsaid := by
  cases zone with
  | none => rfl
  | some z => exact congrArg some z.unsaid_unsaid

/-- Zones that are one, whatever is said of doubtful readings, are one region or one distance. -/
theorem same_of_unsaid (same : z.unsaid = w.unsaid) :
    z.sameRegion w = true ∨ ∃ o, z = .fixed o ∧ w = .fixed o := by
  cases z with
  | fixed o =>
      cases w with
      | fixed o' => exact .inr ⟨o, rfl, congrArg fixed (fixed.inj same).symm⟩
      | region => cases same
  | region r first =>
      cases w with
      | fixed => cases same
      | region s second =>
          exact .inl (sameRegion_iff.mpr ⟨r, first, second, rfl, by rw [(region.inj same).1]⟩)

theorem offset_of_not_isDoubtful {r : Region} {later : Bool}
    (settled : (region r later).isDoubtful n = false) :
    ((region r later).offset n).micros = (r.standard n false).offset.micros := by
  rw [isDoubtful, bne_eq_false_iff_eq] at settled
  cases later with
  | false => rfl
  | true => exact congrArg Offset.micros settled.symm

theorem reading_eq_of_sameRegion (same : z.sameRegion w = true) (first : z.isDoubtful n = false)
    (second : w.isDoubtful k = false)
    (instant : (n : Int) - (z.offset n).micros = k - (w.offset k).micros) : n = k := by
  obtain ⟨r, earlier, later, rfl, rfl⟩ := sameRegion_iff.mp same
  rw [offset_of_not_isDoubtful first, offset_of_not_isDoubtful second] at instant
  rw [isDoubtful, bne_eq_false_iff_eq] at first second
  exact Int.ofNat_inj.mp (reading_eq_of_instantOf_eq r.apart first second instant)

end Zone

end Calendar

end Formula
