import Formula.Proofs.Calendar.Zone
import Mathlib.Order.Compare
import Mathlib.Order.Monotone.Basic

/-!
The order of days and moments. Days follow each other as their ordinals do, and moments without a
zone as their readings do; a day and a moment are compared as days. That is why two moments of a day
are level with the day and not with each other. Level moments are equal unless one of them is of a
doubtful reading of its region and the other of another zone.
-/

namespace Formula

namespace Calendar

theorem isLeap_iff {year : Nat} : isLeap year = true ↔ 4 ∣ year ∧ (100 ∣ year → 400 ∣ year) := by
  simp only [isLeap, Bool.and_eq_true, beq_iff_eq, Bool.or_eq_true, bne_iff_ne, ne_eq,
    Nat.dvd_iff_mod_eq_zero, Decidable.imp_iff_not_or]

theorem daysBeforeYear_succ {year : Nat} (real : minYear ≤ year) :
    daysBeforeYear (year + 1) = daysBeforeYear year + daysInYear year := by
  obtain ⟨past, rfl⟩ := Nat.exists_eq_add_of_le' real
  have fewer : past / 100 ≤ past / 4 := Nat.div_le_div_left (by decide) (by decide)
  have quadOfCentury : 100 ∣ past + 1 → 4 ∣ past + 1 := Nat.dvd_trans (by decide)
  have centuryOfEra : 400 ∣ past + 1 → 100 ∣ past + 1 := Nat.dvd_trans (by decide)
  have leap := @isLeap_iff (past + 1)
  unfold daysBeforeYear daysInYear minYear
  simp only [Nat.add_sub_cancel, leap, Nat.succ_div]
  generalize past / 4 = quads, past / 100 = centuries, past / 400 = eras at fewer ⊢
  by_cases quad : 4 ∣ past + 1
  · by_cases century : 100 ∣ past + 1
    · by_cases era : 400 ∣ past + 1
      · simp only [quad, century, era, implies_true, and_self, if_true]
        omega
      · simp only [quad, century, era, if_true, if_false, imp_false, not_true, and_false]
        omega
    · have era : ¬ 400 ∣ past + 1 := fun era => century (centuryOfEra era)
      simp only [quad, century, era, if_true, if_false, false_implies, and_self]
      omega
  · have century : ¬ 100 ∣ past + 1 := fun century => quad (quadOfCentury century)
    have era : ¬ 400 ∣ past + 1 := fun era => century (centuryOfEra era)
    simp only [quad, century, era, if_false, false_and]
    omega

theorem daysBeforeYear_of_lt {year later : Nat} (real : minYear ≤ year) (before : year < later) :
    daysBeforeYear year + daysInYear year ≤ daysBeforeYear later := by
  induction later, before using Nat.le_induction with
  | base => rw [daysBeforeYear_succ real]
  | succ later before ih =>
      rw [daysBeforeYear_succ (Nat.le_trans real (Nat.le_of_lt before))]
      exact Nat.le_trans ih (Nat.le_add_right _ _)

theorem daysBeforeMonth_succ (year : Nat) {month : Nat} (real : 1 ≤ month) :
    daysBeforeMonth year (month + 1) = daysBeforeMonth year month + daysInMonth year month := by
  obtain ⟨past, rfl⟩ := Nat.exists_eq_add_of_le' real
  simp only [daysBeforeMonth, Nat.add_sub_cancel, List.range_succ, List.foldl_append,
    List.foldl_cons, List.foldl_nil]

theorem daysBeforeMonth_of_lt (year : Nat) {month later : Nat} (real : 1 ≤ month)
    (before : month < later) :
    daysBeforeMonth year month + daysInMonth year month ≤ daysBeforeMonth year later := by
  induction later, before using Nat.le_induction with
  | base => rw [daysBeforeMonth_succ year real]
  | succ later before ih =>
      rw [daysBeforeMonth_succ year (Nat.le_trans real (Nat.le_of_lt before))]
      exact Nat.le_trans ih (Nat.le_add_right _ _)

theorem daysBeforeMonth_end (year : Nat) : daysBeforeMonth year 13 = daysInYear year := by
  unfold daysInYear
  rw [daysBeforeMonth, show List.range (13 - 1) = [0, 1, 2, 3, 4, 5, 6, 7, 8, 9, 10, 11] from rfl]
  simp only [List.foldl_cons, List.foldl_nil, daysInMonth]
  split <;> rfl

end Calendar

open Calendar

namespace Date

variable {a b : Date}

theorem dayOfYear_le (d : Date) : daysBeforeMonth d.year d.month + d.day ≤ daysInYear d.year := by
  obtain ⟨-, -, first, last, -, within⟩ := d.real
  calc daysBeforeMonth d.year d.month + d.day
    _ ≤ daysBeforeMonth d.year d.month + daysInMonth d.year d.month :=
        Nat.add_le_add_left within _
    _ ≤ daysBeforeMonth d.year 13 := daysBeforeMonth_of_lt d.year first (by omega)
    _ = daysInYear d.year := daysBeforeMonth_end d.year

theorem ordinal_lt_of_year (before : a.year < b.year) : a.ordinal < b.ordinal := by
  have years := daysBeforeYear_of_lt a.real.1 before
  have inYear := a.dayOfYear_le
  have day : 1 ≤ b.day := b.real.2.2.2.2.1
  unfold ordinal
  omega

theorem ordinal_lt_of_month (year : a.year = b.year) (before : a.month < b.month) :
    a.ordinal < b.ordinal := by
  have months := daysBeforeMonth_of_lt a.year a.real.2.2.1 before
  have inMonth : a.day ≤ daysInMonth a.year a.month := a.real.2.2.2.2.2
  have day : 1 ≤ b.day := b.real.2.2.2.2.1
  unfold ordinal
  rw [← year]
  omega

theorem ordinal_lt_of_day (year : a.year = b.year) (month : a.month = b.month)
    (before : a.day < b.day) : a.ordinal < b.ordinal := by
  unfold ordinal
  rw [← year, ← month]
  omega

/-- Days are ordered as their ordinals are. -/
theorem compare_eq_compare_ordinal (a b : Date) :
    a.compare b = Ord.compare a.ordinal b.ordinal := by
  unfold compare
  rcases Nat.lt_trichotomy a.year b.year with earlier | year | later
  · rw [Nat.compare_eq_lt.mpr earlier, Nat.compare_eq_lt.mpr (ordinal_lt_of_year earlier)]
    rfl
  · rw [Nat.compare_eq_eq.mpr year]
    rcases Nat.lt_trichotomy a.month b.month with earlier | month | later
    · rw [Nat.compare_eq_lt.mpr earlier, Nat.compare_eq_lt.mpr (ordinal_lt_of_month year earlier)]
      rfl
    · rw [Nat.compare_eq_eq.mpr month]
      rcases Nat.lt_trichotomy a.day b.day with earlier | day | later
      · rw [Nat.compare_eq_lt.mpr earlier,
          Nat.compare_eq_lt.mpr (ordinal_lt_of_day year month earlier)]
        rfl
      · have same : a.ordinal = b.ordinal := by rw [ordinal, ordinal, year, month, day]
        rw [Nat.compare_eq_eq.mpr day, Nat.compare_eq_eq.mpr same]
        rfl
      · rw [Nat.compare_eq_gt.mpr later,
          Nat.compare_eq_gt.mpr (ordinal_lt_of_day year.symm month.symm later)]
        rfl
    · rw [Nat.compare_eq_gt.mpr later,
        Nat.compare_eq_gt.mpr (ordinal_lt_of_month year.symm later)]
      rfl
  · rw [Nat.compare_eq_gt.mpr later, Nat.compare_eq_gt.mpr (ordinal_lt_of_year later)]
    rfl

theorem compare_swap (a b : Date) : b.compare a = (a.compare b).swap := by
  rw [compare_eq_compare_ordinal, compare_eq_compare_ordinal, Nat.compare_swap]

theorem compare_eq_iff_eq : a.compare b = .eq ↔ a = b := by
  simp only [compare, Ordering.then_eq_eq, Nat.compare_eq_eq]
  constructor
  · rintro ⟨year, month, day⟩
    cases a
    cases b
    simp only at year month day
    subst year month day
    rfl
  · rintro rfl
    exact ⟨rfl, rfl, rfl⟩

theorem ordinal_injective : Function.Injective ordinal := by
  intro a b same
  rw [← compare_eq_iff_eq, compare_eq_compare_ordinal, Nat.compare_eq_eq]
  exact same

end Date

namespace Moment

variable {m n : Moment}

/-! ### From one moment to another -/

theorem sharesRegion_iff : m.sharesRegion n = true ↔
    ∃ z w, m.zone = some z ∧ n.zone = some w ∧ z.sameRegion w = true := by
  unfold sharesRegion
  cases m.zone <;> cases n.zone <;> simp

theorem sharesRegion_comm (m n : Moment) : m.sharesRegion n = n.sharesRegion m := by
  have turn {m n : Moment} (shares : m.sharesRegion n = true) : n.sharesRegion m = true := by
    obtain ⟨z, w, left, right, same⟩ := sharesRegion_iff.mp shares
    obtain ⟨r, first, second, rfl, rfl⟩ := Zone.sameRegion_iff.mp same
    exact sharesRegion_iff.mpr ⟨_, _, right, left, Zone.sameRegion_iff.mpr ⟨r, _, _, rfl, rfl⟩⟩
  exact Bool.eq_iff_iff.mpr ⟨turn, turn⟩

theorem sharesRegion_trans {k : Moment} (left : m.sharesRegion n = true)
    (right : n.sharesRegion k = true) : m.sharesRegion k = true := by
  obtain ⟨z, w, first, second, same⟩ := sharesRegion_iff.mp left
  obtain ⟨w', u, second', third, same'⟩ := sharesRegion_iff.mp right
  obtain ⟨r, a, b, rfl, rfl⟩ := Zone.sameRegion_iff.mp same
  obtain ⟨r', b', c, rfl, rfl⟩ := Zone.sameRegion_iff.mp same'
  cases second.symm.trans second'
  exact sharesRegion_iff.mpr ⟨_, _, first, third, Zone.sameRegion_iff.mpr ⟨r, a, c, rfl, rfl⟩⟩

theorem comparable_of_sharesRegion (shares : m.sharesRegion n = true) :
    m.comparable n = true := by
  obtain ⟨z, w, first, second, -⟩ := sharesRegion_iff.mp shares
  rw [comparable, first, second]
  rfl

theorem until?_of_sharesRegion (shares : m.sharesRegion n = true) :
    m.until? n = some ((n.reading : Int) - m.reading) := if_pos shares

theorem until?_of_not_sharesRegion (apart : m.sharesRegion n = false)
    (alike : m.comparable n = true) : m.until? n = some (n.instant - m.instant) := by
  rw [until?, apart, alike]
  rfl

theorem comparable_of_until? {micros : Int} (found : m.until? n = some micros) :
    m.comparable n = true := by
  cases shares : m.sharesRegion n with
  | true => exact comparable_of_sharesRegion shares
  | false =>
      rw [until?, shares, if_neg Bool.false_ne_true, Option.ite_none_right_eq_some] at found
      exact found.1

theorem exists_until? (alike : m.comparable n = true) : ∃ micros, m.until? n = some micros := by
  cases shares : m.sharesRegion n with
  | true => exact ⟨_, until?_of_sharesRegion shares⟩
  | false => exact ⟨_, until?_of_not_sharesRegion shares alike⟩

theorem until?_swap (m n : Moment) : n.until? m = (m.until? n).map (-·) := by
  unfold until? comparable
  rw [sharesRegion_comm n m, BEq.comm (a := n.zone.isSome)]
  split
  · rw [Option.map_some, Int.neg_sub]
  · split
    · rw [Option.map_some, Int.neg_sub]
    · rfl

theorem until?_self (m : Moment) : m.until? m = some 0 := by
  unfold until? comparable
  split
  · rw [Int.sub_self]
  · rw [if_pos (beq_self_eq_true _), Int.sub_self]

theorem compare?_eq_some_iff {order : Ordering} : m.compare? n = some order ↔
    ∃ micros, m.until? n = some micros ∧ Ord.compare 0 micros = order := Option.map_eq_some_iff

theorem compare?_swap (m n : Moment) : n.compare? m = (m.compare? n).map Ordering.swap := by
  have swapped (micros : Int) : Ord.compare 0 (-micros) = (Ord.compare 0 micros).swap := by
    rw [Int.compare_swap, Int.compare_eq_ite_lt, Int.compare_eq_ite_lt]
    exact if_congr (by omega) rfl (if_congr (by omega) rfl rfl)
  unfold compare?
  rw [until?_swap, Option.map_map, Option.map_map]
  exact congrArg (Option.map · (m.until? n)) (funext swapped)

theorem compare?_eq_level_iff : m.compare? n = some .eq ↔ m.until? n = some 0 := by
  rw [compare?_eq_some_iff]
  constructor
  · rintro ⟨micros, found, level⟩
    rw [found, ← Int.compare_eq_eq.mp level]
  · exact fun found => ⟨0, found, rfl⟩

/-! ### Moments in step -/

/-- The clocks of two moments can be compared by what they read: both show the time of one region,
or they are at the same distance from universal time. -/
def InStep (m n : Moment) : Prop := m.sharesRegion n = true ∨ m.offset = n.offset

theorem inStep_of_unsaid (same : m.zone.map Zone.unsaid = n.zone.map Zone.unsaid) :
    m.InStep n := by
  cases first : m.zone with
  | none =>
      rw [first, Option.map_none, eq_comm, Option.map_eq_none_iff] at same
      exact .inr (by simp only [offset, first, same, Option.map_none])
  | some z =>
      rw [first, Option.map_some, eq_comm, Option.map_eq_some_iff] at same
      obtain ⟨w, second, same⟩ := same
      obtain shares | ⟨o, rfl, rfl⟩ := Zone.same_of_unsaid same.symm
      · exact .inl (sharesRegion_iff.mpr ⟨z, w, first, second, shares⟩)
      · exact .inr (by simp only [offset, first, second, Option.map_some, Zone.offset])

theorem isSome_offset (m : Moment) : m.offset.isSome = m.zone.isSome := Option.isSome_map

theorem until?_of_inStep (step : m.InStep n) :
    m.until? n = some ((n.reading : Int) - m.reading) := by
  cases shares : m.sharesRegion n with
  | true => exact until?_of_sharesRegion shares
  | false =>
      have same : m.offset = n.offset := step.resolve_left (shares ▸ Bool.false_ne_true)
      have alike : m.comparable n = true := by
        rw [comparable, ← isSome_offset, ← isSome_offset, same]
        exact beq_self_eq_true _
      rw [until?_of_not_sharesRegion shares alike, instant, instant, same]
      exact congrArg some (by omega)

theorem compare?_of_inStep (step : m.InStep n) :
    m.compare? n = some (Ord.compare m.reading n.reading) := by
  refine compare?_eq_some_iff.mpr ⟨_, until?_of_inStep step, ?_⟩
  rw [Int.compare_eq_ite_lt, Nat.compare_eq_ite_lt]
  exact if_congr (by omega) rfl (if_congr (by omega) rfl rfl)

/-- No clock is a day ahead of universal time, or a day behind it. -/
theorem instant_bounds (m : Moment) :
    (m.reading : Int) < m.instant + microsPerDay ∧ m.instant < m.reading + microsPerDay := by
  unfold instant
  cases m.offset with
  | none =>
      simp only [Option.map_none, Option.getD_none]
      unfold microsPerDay
      omega
  | some o =>
      have range := o.inRange
      simp only [Option.map_some, Option.getD_some]
      omega

/-- Of clocks without a zone, the one that reads less shows no later day. -/
theorem ordinal_le_of_reading_le (le : m.reading ≤ n.reading) :
    m.date.ordinal ≤ n.date.ordinal := by
  have clock := n.withinDay
  unfold reading at le
  unfold microsPerDay at le clock
  omega

theorem date_eq_of_reading_eq (same : m.reading = n.reading) : m.date = n.date :=
  Date.ordinal_injective
    (Nat.le_antisymm (ordinal_le_of_reading_le same.le) (ordinal_le_of_reading_le same.ge))

/-! ### Equal moments -/

/-- Moments of different zones, of which one is of a doubtful reading. -/
def Disputed (m n : Moment) : Prop :=
  m.sharesRegion n = false ∧ (m.isDoubtful = true ∨ n.isDoubtful = true)

/-- Moments are equal exactly if they are level and neither leaves a doubt to the other. -/
theorem equals_iff : m.equals n = true ↔ m.until? n = some 0 ∧ ¬ m.Disputed n := by
  rw [equals, Bool.and_eq_true, beq_iff_eq, compare?_eq_level_iff, Disputed]
  cases m.sharesRegion n <;> cases m.isDoubtful <;> cases n.isDoubtful <;> simp

theorem Disputed.symm (disputed : m.Disputed n) : n.Disputed m :=
  ⟨sharesRegion_comm m n ▸ disputed.1, disputed.2.symm⟩

theorem equals_comm (m n : Moment) : m.equals n = n.equals m := by
  have turn {m n : Moment} (equal : m.equals n = true) : n.equals m = true := by
    obtain ⟨level, agreed⟩ := equals_iff.mp equal
    exact equals_iff.mpr ⟨by rw [until?_swap, level]; rfl, fun disputed => agreed disputed.symm⟩
  exact Bool.eq_iff_iff.mpr ⟨turn, turn⟩

/-- A moment of a doubtful reading is one of a region, which it shares with itself. -/
theorem sharesRegion_self (doubtful : m.isDoubtful = true) : m.sharesRegion m = true := by
  cases found : m.zone with
  | none =>
      rw [isDoubtful, found] at doubtful
      cases doubtful
  | some z =>
      rw [isDoubtful, found, Option.any_some] at doubtful
      refine sharesRegion_iff.mpr ⟨z, z, found, found, ?_⟩
      cases z with
      | fixed o => cases doubtful
      | region r later => exact Zone.sameRegion_iff.mpr ⟨r, _, _, rfl, rfl⟩

theorem equals_self (m : Moment) : m.equals m = true := by
  refine equals_iff.mpr ⟨until?_self m, fun ⟨apart, doubtful⟩ => ?_⟩
  rw [sharesRegion_self (doubtful.elim id id)] at apart
  cases apart

theorem date_eq_of_equals (left : m.offset = none) (equal : m.equals n = true) :
    m.date = n.date := by
  obtain ⟨level, -⟩ := equals_iff.mp equal
  have alike := comparable_of_until? level
  rw [comparable, ← isSome_offset, ← isSome_offset, left, Option.isSome_none, beq_iff_eq, eq_comm,
    Option.isSome_eq_false_iff, Option.isNone_iff_eq_none] at alike
  rw [until?_of_inStep (.inr (left.trans alike.symm)), Option.some_inj] at level
  exact date_eq_of_reading_eq (by omega)

/-- A doubt is about the reading, on whatever clock of the region. -/
theorem isDoubtful_of_sharesRegion (shares : m.sharesRegion n = true)
    (same : m.reading = n.reading) : m.isDoubtful = n.isDoubtful := by
  obtain ⟨z, w, first, second, region⟩ := sharesRegion_iff.mp shares
  obtain ⟨r, earlier, later, rfl, rfl⟩ := Zone.sameRegion_iff.mp region
  rw [isDoubtful, isDoubtful, first, second, same]
  rfl

theorem instant_eq_of_sharesRegion (shares : m.sharesRegion n = true)
    (same : m.reading = n.reading) (settled : m.isDoubtful = false) : m.instant = n.instant := by
  have settled' := isDoubtful_of_sharesRegion shares same ▸ settled
  obtain ⟨z, w, first, second, region⟩ := sharesRegion_iff.mp shares
  obtain ⟨r, earlier, later, rfl, rfl⟩ := Zone.sameRegion_iff.mp region
  rw [isDoubtful, first, Option.any_some] at settled
  rw [isDoubtful, second, Option.any_some] at settled'
  rw [instant, instant, offset, offset, first, second, Option.map_some, Option.map_some,
    Option.map_some, Option.map_some, Option.getD_some, Option.getD_some,
    Zone.offset_of_not_isDoubtful settled, Zone.offset_of_not_isDoubtful settled', same]

theorem reading_eq_of_sharesRegion (shares : m.sharesRegion n = true)
    (settled : m.isDoubtful = false) (settled' : n.isDoubtful = false)
    (same : m.instant = n.instant) : m.reading = n.reading := by
  obtain ⟨z, w, first, second, region⟩ := sharesRegion_iff.mp shares
  rw [isDoubtful, first, Option.any_some] at settled
  rw [isDoubtful, second, Option.any_some] at settled'
  rw [instant, instant, offset, offset, first, second, Option.map_some, Option.map_some,
    Option.map_some, Option.map_some, Option.getD_some, Option.getD_some] at same
  exact Zone.reading_eq_of_sameRegion region settled settled' same

/-- Equal moments read the same on the clocks of one region, else they are of one instant and of no
doubtful reading. -/
theorem equals_cases (equal : m.equals n = true) :
    m.sharesRegion n = true ∧ m.reading = n.reading ∨
      m.sharesRegion n = false ∧ m.comparable n = true ∧ m.instant = n.instant ∧
        m.isDoubtful = false ∧ n.isDoubtful = false := by
  obtain ⟨level, agreed⟩ := equals_iff.mp equal
  cases shares : m.sharesRegion n with
  | true =>
      rw [until?_of_sharesRegion shares, Option.some_inj] at level
      exact .inl ⟨rfl, by omega⟩
  | false =>
      have alike := comparable_of_until? level
      rw [until?_of_not_sharesRegion shares alike, Option.some_inj] at level
      rw [Disputed, not_and, not_or, Bool.not_eq_true, Bool.not_eq_true] at agreed
      exact .inr ⟨rfl, alike, by omega, agreed shares⟩

theorem equals_of_reading (shares : m.sharesRegion n = true) (same : m.reading = n.reading) :
    m.equals n = true := by
  refine equals_iff.mpr ⟨?_, fun disputed => ?_⟩
  · rw [until?_of_sharesRegion shares, same, Int.sub_self]
  · rw [Disputed, shares] at disputed
    cases disputed.1

theorem equals_of_instant (alike : m.comparable n = true) (same : m.instant = n.instant)
    (settled : m.isDoubtful = false) (settled' : n.isDoubtful = false) : m.equals n = true := by
  cases shares : m.sharesRegion n with
  | true =>
      exact equals_of_reading shares (reading_eq_of_sharesRegion shares settled settled' same)
  | false =>
      refine equals_iff.mpr ⟨?_, fun disputed => ?_⟩
      · rw [until?_of_not_sharesRegion shares alike, same, Int.sub_self]
      · rw [Disputed, settled, settled'] at disputed
        exact disputed.2.elim Bool.false_ne_true Bool.false_ne_true

theorem comparable_trans {k : Moment} (left : m.comparable n = true)
    (right : n.comparable k = true) : m.comparable k = true := by
  unfold comparable at *
  rw [beq_iff_eq] at *
  exact left.trans right

theorem equals_trans {k : Moment} (left : m.equals n = true) (right : n.equals k = true) :
    m.equals k = true := by
  rcases equals_cases left with ⟨shares, same⟩ | ⟨-, alike, same, settled, settled'⟩
  · rcases equals_cases right with ⟨shares', same'⟩ | ⟨-, alike', same', settled, settled'⟩
    · exact equals_of_reading (sharesRegion_trans shares shares') (same.trans same')
    · have doubt := (isDoubtful_of_sharesRegion shares same).trans settled
      exact equals_of_instant (comparable_trans (comparable_of_sharesRegion shares) alike')
        ((instant_eq_of_sharesRegion shares same doubt).trans same') doubt settled'
  · rcases equals_cases right with ⟨shares', same'⟩ | ⟨-, alike', same', -, settled''⟩
    · have doubt := (isDoubtful_of_sharesRegion shares' same').symm.trans settled'
      exact equals_of_instant (comparable_trans alike (comparable_of_sharesRegion shares'))
        (same.trans (instant_eq_of_sharesRegion shares' same' settled')) settled doubt
    · exact equals_of_instant (comparable_trans alike alike') (same.trans same') settled settled''

end Moment

namespace Stamp

variable {s t u : Stamp} {d : Date} {m n : Moment}

theorem compare?_swap (s t : Stamp) : t.compare? s = (s.compare? t).map Ordering.swap := by
  cases s with
  | day d => cases t <;> exact congrArg some (Date.compare_swap _ _)
  | moment m =>
      cases t with
      | day e => exact congrArg some (Date.compare_swap _ _)
      | moment n => exact Moment.compare?_swap m n

theorem equals_day_left : (day d).equals t = true ↔ d = t.date := by
  rw [← Date.compare_eq_iff_eq]
  cases t <;> exact beq_iff_eq

theorem equals_day_right : s.equals (day d) = true ↔ s.date = d := by
  rw [← Date.compare_eq_iff_eq]
  cases s <;> exact beq_iff_eq

theorem equals_moments : (moment m).equals (moment n) = m.equals n := rfl

/-- Two moments of different zones, of which one is of a doubtful reading. -/
def Disputed : Stamp → Stamp → Prop
  | .moment m, .moment n => m.Disputed n
  | _, _ => False

/-- Equal stamps are level, and level ones equal where neither leaves a doubt. -/
theorem equals_iff : s.equals t = true ↔ s.compare? t = some .eq ∧ ¬ s.Disputed t := by
  have days (level : s.compare? t = some (s.date.compare t.date)) (days : ¬ s.Disputed t)
      (same : s.equals t = true ↔ s.date = t.date) :
      s.equals t = true ↔ s.compare? t = some .eq ∧ ¬ s.Disputed t := by
    rw [same, level, Option.some_inj, Date.compare_eq_iff_eq, and_iff_left days]
  cases s with
  | day d => exact days (by cases t <;> rfl) not_false equals_day_left
  | moment m =>
      cases t with
      | day e => exact days rfl not_false equals_day_right
      | moment n =>
          rw [equals_moments, Moment.equals_iff, ← Moment.compare?_eq_level_iff]
          exact Iff.rfl

theorem equals_comm (s t : Stamp) : s.equals t = t.equals s := by
  cases s with
  | day d =>
      rw [Bool.eq_iff_iff, equals_day_left, equals_day_right]
      exact eq_comm
  | moment m =>
      cases t with
      | day e =>
          rw [Bool.eq_iff_iff, equals_day_left, equals_day_right]
          exact eq_comm
      | moment n => exact Moment.equals_comm m n

theorem equals_self (s : Stamp) : s.equals s = true := by
  cases s with
  | day d => exact equals_day_left.mpr rfl
  | moment m => exact Moment.equals_self m

/-! ### Transitivity of equality -/

/-- Two moments of a day with the day between them. -/
inductive AroundDay : Stamp → Stamp → Stamp → Prop where
  | intro {m n : Moment} (same : m.date = n.date) :
      AroundDay (.moment m) (.day m.date) (.moment n)

/-- Stamps of which the neighbours can be equal when the outer ones are not: two moments around
their day, or a day before or behind two clocks that show different days. -/
inductive Clash : Stamp → Stamp → Stamp → Prop where
  | aroundDay {s t u : Stamp} (around : AroundDay s t u) : Clash s t u
  | fromDay {m n : Moment} (zoned : m.offset.isSome = true) (apart : m.date ≠ n.date) :
      Clash (.day m.date) (.moment m) (.moment n)
  | toDay {m n : Moment} (zoned : m.offset.isSome = true) (apart : m.date ≠ n.date) :
      Clash (.moment m) (.moment n) (.day n.date)

/-- Equal moments that show different days have zones. -/
theorem isSome_offset_of_ne (equal : (moment m).equals (.moment n) = true)
    (apart : m.date ≠ n.date) : m.offset.isSome = true := by
  rw [Option.isSome_iff_ne_none]
  exact fun naive => apart (Moment.date_eq_of_equals naive equal)

theorem equals_trans_or_clash (left : s.equals t = true) (right : t.equals u = true) :
    s.equals u = true ∨ Clash s t u := by
  cases s with
  | day d =>
      obtain rfl := equals_day_left.mp left
      cases t with
      | day e => exact .inl right
      | moment m =>
          cases u with
          | day f => exact .inl (equals_day_left.mpr (equals_day_right.mp right))
          | moment n =>
              by_cases same : m.date = n.date
              · exact .inl (equals_day_left.mpr same)
              · exact .inr (.fromDay (isSome_offset_of_ne right same) same)
  | moment m =>
      cases u with
      | day f =>
          obtain rfl := equals_day_right.mp right
          cases t with
          | day e => exact .inl left
          | moment n =>
              by_cases same : m.date = n.date
              · exact .inl (equals_day_right.mpr same)
              · exact .inr (.toDay (isSome_offset_of_ne left same) same)
      | moment n =>
          cases t with
          | day e =>
              obtain rfl := equals_day_right.mp left
              exact .inr (.aroundDay (.intro (equals_day_left.mp right)))
          | moment k => exact .inl (Moment.equals_trans left right)

/-! ### The order of stamps without a zone -/

/-- A day, or a moment whose clock has no zone. -/
def IsNaive : Stamp → Prop
  | .day _ => True
  | .moment m => m.offset = none

def AtMost (s t : Stamp) : Prop := ∃ order, s.compare? t = some order ∧ order.isLE = true

theorem exists_compare? (left : s.IsNaive) (right : t.IsNaive) :
    ∃ order, s.compare? t = some order := by
  cases s with
  | day d => cases t <;> exact ⟨_, rfl⟩
  | moment m =>
      cases t with
      | day e => exact ⟨_, rfl⟩
      | moment n => exact ⟨_, Moment.compare?_of_inStep (.inr (left.trans right.symm))⟩

theorem atMost_days (days : s.compare? t = some (s.date.compare t.date)) :
    s.AtMost t ↔ s.date.ordinal ≤ t.date.ordinal := by
  rw [Date.compare_eq_compare_ordinal] at days
  rw [AtMost, days, ← Nat.isLE_compare]
  simp only [Option.some_inj, exists_eq_left']

theorem atMost_day_left : (day d).AtMost t ↔ d.ordinal ≤ t.date.ordinal :=
  atMost_days rfl

theorem atMost_day_right : s.AtMost (day d) ↔ s.date.ordinal ≤ d.ordinal := by
  cases s <;> exact atMost_days rfl

theorem atMost_moments (left : m.offset = none) (right : n.offset = none) :
    (moment m).AtMost (moment n) ↔ m.reading ≤ n.reading := by
  have order : (moment m).compare? (moment n) = _ :=
    Moment.compare?_of_inStep (.inr (left.trans right.symm))
  rw [AtMost, order, ← Nat.isLE_compare]
  simp only [Option.some_inj, exists_eq_left']

theorem ordinal_le_of_atMost (left : s.IsNaive) (right : t.IsNaive) (le : s.AtMost t) :
    s.date.ordinal ≤ t.date.ordinal := by
  cases s with
  | day d => exact atMost_day_left.mp le
  | moment m =>
      cases t with
      | day e => exact atMost_day_right.mp le
      | moment n => exact Moment.ordinal_le_of_reading_le ((atMost_moments left right).mp le)

theorem atMost_trans_or_aroundDay (first : s.IsNaive) (second : t.IsNaive) (third : u.IsNaive)
    (left : s.AtMost t) (right : t.AtMost u) : s.AtMost u ∨ AroundDay s t u := by
  have days : s.date.ordinal ≤ u.date.ordinal := Nat.le_trans
    (ordinal_le_of_atMost first second left) (ordinal_le_of_atMost second third right)
  cases s with
  | day d => exact .inl (atMost_day_left.mpr days)
  | moment m =>
      cases u with
      | day f => exact .inl (atMost_day_right.mpr days)
      | moment n =>
          cases t with
          | moment k =>
              exact .inl ((atMost_moments first third).mpr (Nat.le_trans
                ((atMost_moments first second).mp left) ((atMost_moments second third).mp right)))
          | day e =>
              rcases Nat.le_total m.reading n.reading with le | later
              · exact .inl ((atMost_moments first third).mpr le)
              · -- the day cannot lie between moments of different days
                have back := Moment.ordinal_le_of_reading_le later
                have before := atMost_day_right.mp left
                have after := atMost_day_left.mp right
                have same : m.date = n.date := Date.ordinal_injective (Nat.le_antisymm days back)
                obtain rfl : m.date = e :=
                  Date.ordinal_injective (Nat.le_antisymm before (Nat.le_trans after back))
                exact .inr (.intro same)

end Stamp

end Formula
