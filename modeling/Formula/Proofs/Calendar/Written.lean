import Formula.Function.Dates
import Formula.Json.Writing
import Formula.Proofs.Calendar.Shift
import Formula.Proofs.Number.Layout

/-!
Written dates are read as they were. Every part of a date is written with a fixed number of digits, so
the reader knows where the next part starts; it tells a day from a moment by the length of the text. A
distance from universal time of less than a second is the one thing that is lost.
-/

namespace Formula.Calendar

open Numeral

/-! ### Numbers of a fixed width -/

section

variable {n width : Nat}

theorem digitValue?_of_isDigit {c : Char} (digit : c.isDigit = true) :
    Text.digitValue? c = some (c.toNat - '0'.toNat) := by
  simp only [Char.isDigit, Bool.and_eq_true, decide_eq_true_eq, ge_iff_le] at digit
  have low : 48 ≤ c.toNat := UInt32.le_iff_toNat_le.mp digit.1
  have high : c.toNat ≤ 57 := UInt32.le_iff_toNat_le.mp digit.2
  rw [← Char.ofNat_toNat c]
  generalize c.toNat = code at low high
  interval_cases code <;> decide

theorem digitValues_of_ascii {cs : List Char} (ascii : Ascii cs) :
    digitValues cs = cs.map fun c => c.toNat - '0'.toNat := by
  induction cs with
  | nil => rfl
  | cons c rest ih =>
      have first := digitValue?_of_isDigit (ascii c List.mem_cons_self)
      have others := ih fun d member => ascii d (List.mem_cons_of_mem c member)
      rw [digitValues] at others ⊢
      rw [List.filterMap_cons_some first, others, List.map_cons]

theorem length_padZeros (positive : 0 < width) (small : n < 10 ^ width) :
    (padZeros width (digitChars n)).length = width := by
  have fits := digitCount_le positive small
  unfold digitCount at fits
  rw [padZeros, List.length_append, List.length_replicate]
  omega

/-- A number that was written with a fixed width is taken off the front of a text again. -/
theorem takeDigits_padZeros (positive : 0 < width) (small : n < 10 ^ width) (rest : List Char) :
    takeDigits width (padZeros width (digitChars n) ++ rest) = some (n, rest) := by
  have length := length_padZeros positive small
  have ascii := Decimal.ascii_padZeros width n
  have value : positional ((padZeros width (digitChars n)).map fun c => c.toNat - '0'.toNat) = n := by
    rw [← digitValues_of_ascii ascii]
    exact valueOf_zeros_append n _
  unfold takeDigits
  dsimp only
  rw [List.take_left' length, List.drop_left' length, value,
    if_pos ⟨length, List.all_eq_true.mpr ascii⟩]

end

/-! ### Days -/

theorem day_bounds (d : Date) : d.year < 10 ^ 4 ∧ d.month < 10 ^ 2 ∧ d.day < 10 ^ 2 := by
  obtain ⟨-, year, -, month, -, day⟩ := d.real
  have long : daysInMonth d.year d.month ≤ 31 := by
    unfold daysInMonth
    split
    · split <;> decide
    all_goals decide
  unfold maxYear at year
  omega

theorem chars_eq (d : Date) : d.chars = padZeros 4 (digitChars d.year) ++
    ('-' :: (padZeros 2 (digitChars d.month) ++ '-' :: padZeros 2 (digitChars d.day))) := by
  rw [Date.chars, List.append_assoc]
  rfl

theorem length_chars (d : Date) : d.chars.length = 10 := by
  obtain ⟨year, month, day⟩ := day_bounds d
  rw [chars_eq]
  simp only [List.length_append, List.length_cons, length_padZeros (by decide : 0 < 4) year,
    length_padZeros (by decide : 0 < 2) month, length_padZeros (by decide : 0 < 2) day]

theorem padZeros_append_ne {c : Char} {n width : Nat} (positive : 0 < width) (small : n < 10 ^ width)
    (other : c.isDigit = false) (rest tail : List Char) :
    padZeros width (digitChars n) ++ rest ≠ c :: tail := by
  intro same
  have length := length_padZeros positive small
  have ascii := Decimal.ascii_padZeros width n
  generalize padZeros width (digitChars n) = cs at *
  cases cs with
  | nil => exact absurd length positive.ne
  | cons d ds =>
      obtain rfl : d = c := (List.cons.inj same).1
      exact Bool.false_ne_true (other.symm.trans (ascii d List.mem_cons_self))

theorem readMonthAndDay?_chars {year month day : Nat} (first : month < 10 ^ 2)
    (second : day < 10 ^ 2) :
    readMonthAndDay? year true
        (padZeros 2 (digitChars month) ++ '-' :: padZeros 2 (digitChars day)) =
      some ⟨year, month, day⟩ := by
  have last := takeDigits_padZeros (by decide : 0 < 2) second []
  rw [List.append_nil] at last
  have hyphen : skipHyphen true ('-' :: padZeros 2 (digitChars day)) =
      some (padZeros 2 (digitChars day)) := rfl
  unfold readMonthAndDay?
  rw [takeDigits_padZeros (by decide) first]
  simp only [Option.bind_eq_bind, Option.bind_some, hyphen, last]

theorem readDay?_chars (d : Date) : readDay? d.chars = some ⟨d.year, d.month, d.day⟩ := by
  obtain ⟨year, month, day⟩ := day_bounds d
  unfold readDay?
  rw [chars_eq, takeDigits_padZeros (by decide) year]
  simp only [Option.bind_eq_bind, Option.bind_some, List.head?_cons, List.drop_one, List.tail_cons,
    beq_self_eq_true, if_true]
  split
  · rename_i week same
    exact absurd same (padZeros_append_ne (by decide) month rfl _ _)
  · exact readMonthAndDay?_chars month day

/-! ### Times of day -/

section

variable {n f : Nat} {parts : List Nat} {remaining : Nat}

theorem readParts?_next {colons : Option Bool} (colon : colons.getD true = true)
    (small : n < 10 ^ 2) {rest : List Char} (more : rest ≠ []) :
    readParts? colons parts (remaining + 1) (padZeros 2 (digitChars n) ++ ':' :: rest) =
      readParts? (some true) (n :: parts) remaining rest := by
  have next : afterPart true (':' :: rest) = .nextPart rest := by
    cases rest with
    | nil => exact absurd rfl more
    | cons c tail => rfl
  conv_lhs => unfold readParts?
  rw [takeDigits_padZeros (by decide) small]
  simp only [Option.bind_eq_bind, Option.bind_some, List.head?_cons, beq_self_eq_true, colon, next]

theorem readParts?_last (small : n < 10 ^ 2) :
    readParts? (some true) parts (remaining + 1) (padZeros 2 (digitChars n)) =
      some (timeOf (n :: parts) 0 true) := by
  have part := takeDigits_padZeros (by decide : 0 < 2) small []
  rw [List.append_nil] at part
  unfold readParts?
  rw [part]
  rfl

theorem withFraction_padZeros (fits : f < 10 ^ 6) :
    withFraction parts (padZeros 6 (digitChars f)) = some (timeOf parts f true) := by
  have digits := takeDigits_padZeros (by decide : 0 < 6) fits []
  rw [List.append_nil] at digits
  have read : readFraction? (padZeros 6 (digitChars f)) = some (f, true) := by
    unfold readFraction?
    dsimp only
    rw [length_padZeros (by decide) fits, Nat.min_self, digits]
    exact congrArg (fun micros => some (micros, true)) (Nat.mul_one f)
  unfold withFraction
  rw [read]
  rfl

theorem readParts?_fraction (small : n < 10 ^ 2) (fits : f < 10 ^ 6) :
    readParts? (some true) parts (remaining + 1)
        (padZeros 2 (digitChars n) ++ '.' :: padZeros 6 (digitChars f)) =
      some (timeOf (n :: parts) f true) := by
  have length := length_padZeros (by decide) fits
  have fraction : afterPart true ('.' :: padZeros 6 (digitChars f)) =
      .fraction (padZeros 6 (digitChars f)) := by
    generalize padZeros 6 (digitChars f) = cs at length
    cases cs with
    | nil => cases length
    | cons c tail => rfl
  unfold readParts?
  rw [takeDigits_padZeros (by decide) small]
  simp only [Option.bind_eq_bind, Option.bind_some, Option.getD_some, fraction]
  exact withFraction_padZeros fits

variable {h m : Nat}

theorem readTime?_minutes (hour : h < 10 ^ 2) (minute : m < 10 ^ 2) :
    readTime? (padZeros 2 (digitChars h) ++ ':' :: padZeros 2 (digitChars m)) =
      some ⟨h, m, 0, 0, true⟩ := by
  have nonempty : padZeros 2 (digitChars m) ≠ [] := by
    rw [← List.length_pos_iff, length_padZeros (by decide) minute]
    decide
  unfold readTime?
  rw [readParts?_next rfl hour nonempty, readParts?_last minute]
  rfl

def fractionChars (f : Nat) : List Char := if f = 0 then [] else '.' :: padZeros 6 (digitChars f)

theorem readTime?_seconds (hour : h < 10 ^ 2) (minute : m < 10 ^ 2) (second : n < 10 ^ 2)
    (fits : f < 10 ^ 6) :
    readTime? (padZeros 2 (digitChars h) ++
        ':' :: (padZeros 2 (digitChars m) ++
          ':' :: (padZeros 2 (digitChars n) ++ fractionChars f))) =
      some ⟨h, m, n, f, true⟩ := by
  have nonempty : padZeros 2 (digitChars n) ++ fractionChars f ≠ [] := by
    rw [← List.length_pos_iff, List.length_append, length_padZeros (by decide) second]
    omega
  unfold readTime?
  rw [readParts?_next rfl hour (by simp), readParts?_next rfl minute nonempty, fractionChars]
  split
  · rename_i whole
    rw [List.append_nil, readParts?_last second, whole]
    rfl
  · rw [readParts?_fraction second fits]
    rfl

end

theorem clockChars_eq (m : Moment) : m.clockChars = padZeros 2 (digitChars m.hour) ++
    ':' :: (padZeros 2 (digitChars m.minute) ++
      ':' :: (padZeros 2 (digitChars m.second) ++ fractionChars m.microsecond)) := by
  rw [Moment.clockChars, List.append_assoc, List.append_assoc]
  rfl

theorem readTime?_clockChars (m : Moment) :
    readTime? m.clockChars = some ⟨m.hour, m.minute, m.second, m.microsecond, true⟩ := by
  have day := m.withinDay
  unfold microsPerDay at day
  rw [clockChars_eq]
  apply readTime?_seconds
  · unfold Moment.hour
    omega
  · unfold Moment.minute
    omega
  · unfold Moment.second
    omega
  · unfold Moment.microsecond microsPerSecond
    omega

/-! ### Distances from universal time -/

namespace Offset

/-- The distance that is read where one was written: one of less than a second is taken for none. -/
def asRead (o : Offset) : Offset := if o.micros.natAbs < microsPerSecond then .universal else o

theorem asRead_eq_self_iff {o : Offset} :
    o.asRead = o ↔ o.micros = 0 ∨ microsPerSecond ≤ o.micros.natAbs := by
  unfold asRead
  rcases Nat.lt_or_ge o.micros.natAbs microsPerSecond with less | more
  · rw [if_pos less]
    constructor
    · intro same
      exact .inl (same ▸ rfl)
    · intro either
      have none := either.resolve_right (Nat.not_le.mpr less)
      cases o
      subst none
      rfl
  · rw [if_neg (Nat.not_lt.mpr more)]
    exact iff_of_true rfl (.inr more)

/-- The time that the distance is written as, without its sign. -/
def written (o : Offset) : WrittenTime :=
  let seconds := o.micros.natAbs / microsPerSecond
  ⟨seconds / 3600, seconds / 60 % 60, seconds % 60, o.micros.natAbs % microsPerSecond, true⟩

def sign (o : Offset) : Char := if o.micros < 0 then '-' else '+'

theorem exists_chars (o : Offset) :
    ∃ cs, o.chars = o.sign :: cs ∧ readTime? cs = some o.written := by
  have range := o.inRange
  have hour : o.micros.natAbs / microsPerSecond / 3600 < 10 ^ 2 := by
    unfold microsPerDay at range
    unfold microsPerSecond
    omega
  have minute : o.micros.natAbs / microsPerSecond / 60 % 60 < 10 ^ 2 := by omega
  have second : o.micros.natAbs / microsPerSecond % 60 < 10 ^ 2 := by omega
  have fits : o.micros.natAbs % microsPerSecond < 10 ^ 6 := Nat.mod_lt _ (by decide)
  unfold Offset.chars written
  dsimp only
  by_cases whole : o.micros.natAbs / microsPerSecond % 60 = 0 ∧ o.micros.natAbs % microsPerSecond = 0
  · rw [whole.1, whole.2, if_pos (And.intro (Eq.refl 0) (Eq.refl 0)), if_pos (Eq.refl 0),
      List.append_nil, List.append_nil]
    exact ⟨_, rfl, readTime?_minutes hour minute⟩
  · refine ⟨_, ?_, readTime?_seconds hour minute second fits⟩
    rw [if_neg whole, List.append_assoc, List.append_assoc]
    rfl

theorem sign_eq_minus (o : Offset) : (o.sign == '-') = decide (o.micros < 0) := by
  unfold sign
  split
  · rename_i negative
    rw [decide_eq_true negative]
    rfl
  · rename_i nonneg
    rw [decide_eq_false nonneg]
    rfl

theorem toOffset_written (o : Offset) : o.written.toOffset (o.sign == '-') = .ok o.asRead := by
  have seconds : (o.written.hour * 60 + o.written.minute) * 60 + o.written.second =
      o.micros.natAbs / microsPerSecond := by
    unfold written
    dsimp only
    omega
  have size : (if o.micros.natAbs / microsPerSecond = 0 then 0
      else ((o.micros.natAbs / microsPerSecond : Nat) : Int) * microsPerSecond +
        o.written.micros) = o.asRead.micros.natAbs := by
    have split := Nat.div_add_mod o.micros.natAbs microsPerSecond
    have micros : o.written.micros = o.micros.natAbs % microsPerSecond := rfl
    rw [micros]
    unfold asRead
    rcases Nat.lt_or_ge o.micros.natAbs microsPerSecond with less | more
    · rw [if_pos less, if_pos (Nat.div_eq_of_lt less)]
      rfl
    · rw [if_neg (Nat.not_lt.mpr more), if_neg (Nat.div_pos more (by decide)).ne', Int.mul_comm]
      exact_mod_cast split
  have value : (if (o.sign == '-') = true then -(o.asRead.micros.natAbs : Int)
      else o.asRead.micros.natAbs) = o.asRead.micros := by
    unfold asRead
    rcases Nat.lt_or_ge o.micros.natAbs microsPerSecond with less | more
    · rw [if_pos less]
      exact ite_self 0
    · rw [if_neg (Nat.not_lt.mpr more), sign_eq_minus]
      simp only [decide_eq_true_eq]
      split <;> omega
  unfold WrittenTime.toOffset
  dsimp only
  rw [seconds, size]
  simp only [value]
  exact dif_pos o.asRead.inRange

end Offset

theorem readOffset?_chars (o : Offset) : readOffset? o.chars = some (.ok (some o.asRead)) := by
  obtain ⟨cs, chars, read⟩ := o.exists_chars
  have offset := o.toOffset_written
  have other : o.sign ≠ 'Z' := by
    unfold Offset.sign
    split <;> decide
  rw [chars]
  unfold readOffset?
  split
  · rename_i same
    cases same
  · rename_i same
    exact absurd (List.cons.inj same).1 other
  · rename_i sign rest _ same
    obtain ⟨rfl, rfl⟩ := List.cons.inj same
    rw [read]
    dsimp only
    rw [offset]
    rfl

/-! ### The characters of dates -/

/-- Nothing but digits and some marks. -/
def DigitsAnd (marks cs : List Char) : Prop := ∀ c ∈ cs, c.isDigit = true ∨ c ∈ marks

section

variable {marks cs ds : List Char}

theorem digitsAnd_nil : DigitsAnd marks [] := fun _ member => by cases member

theorem digitsAnd_padZeros (width n : Nat) : DigitsAnd marks (padZeros width (digitChars n)) :=
  fun c member => .inl (Decimal.ascii_padZeros width n c member)

theorem DigitsAnd.append (left : DigitsAnd marks cs) (right : DigitsAnd marks ds) :
    DigitsAnd marks (cs ++ ds) :=
  fun c member => (List.mem_append.mp member).elim (left c) (right c)

theorem DigitsAnd.cons {c : Char} (mark : c ∈ marks) (rest : DigitsAnd marks cs) :
    DigitsAnd marks (c :: cs) := by
  intro d member
  rcases List.mem_cons.mp member with rfl | later
  · exact .inr mark
  · exact rest d later

theorem DigitsAnd.mono {more : List Char} (written : DigitsAnd marks cs)
    (subset : ∀ c ∈ marks, c ∈ more) : DigitsAnd more cs :=
  fun c member => (written c member).imp_right (subset c)

theorem DigitsAnd.all {p : Char → Prop} (written : DigitsAnd marks cs)
    (digits : ∀ c : Char, c.isDigit = true → p c) (others : ∀ c ∈ marks, p c) : ∀ c ∈ cs, p c :=
  fun c member => (written c member).elim (digits c) (others c)

end

theorem digitsAnd_date (d : Date) : DigitsAnd ['-'] d.chars := by
  rw [chars_eq]
  exact (digitsAnd_padZeros 4 _).append (.cons (by decide)
    ((digitsAnd_padZeros 2 _).append (.cons (by decide) (digitsAnd_padZeros 2 _))))

theorem digitsAnd_fraction (f : Nat) : DigitsAnd [':', '.'] (fractionChars f) := by
  unfold fractionChars
  split
  · exact digitsAnd_nil
  · exact .cons (by decide) (digitsAnd_padZeros 6 f)

theorem digitsAnd_clock (m : Moment) : DigitsAnd [':', '.'] m.clockChars := by
  rw [clockChars_eq]
  exact (digitsAnd_padZeros 2 _).append (.cons (by decide)
    ((digitsAnd_padZeros 2 _).append (.cons (by decide)
      ((digitsAnd_padZeros 2 _).append (digitsAnd_fraction _)))))

theorem digitsAnd_offset (o : Offset) : DigitsAnd ['+', '-', ':', '.'] o.chars := by
  have sign : (if o.micros < 0 then '-' else '+') ∈ ['+', '-', ':', '.'] := by
    split <;> decide
  unfold Offset.chars
  dsimp only
  apply DigitsAnd.append
  · apply DigitsAnd.append
    · exact (DigitsAnd.cons sign (digitsAnd_padZeros 2 _)).append
        (.cons (by decide) (digitsAnd_padZeros 2 _))
    · split
      · exact digitsAnd_nil
      · exact .cons (by decide) (digitsAnd_padZeros 2 _)
  · split
    · exact digitsAnd_nil
    · exact .cons (by decide) (digitsAnd_padZeros 6 _)

/-! ### Moments -/

def offsetChars (offset : Option Offset) : List Char := (offset.map Offset.chars).getD []

theorem readOffset?_offsetChars (offset : Option Offset) :
    readOffset? (offsetChars offset) = some (.ok (offset.map Offset.asRead)) := by
  cases offset with
  | none => rfl
  | some o => exact readOffset?_chars o

theorem startsOffset_of_isDigit {c : Char} (digit : c.isDigit = true) : startsOffset c = false := by
  apply Bool.eq_false_iff.mpr
  intro starts
  simp only [startsOffset, Bool.or_eq_true, beq_iff_eq] at starts
  rcases starts with (rfl | rfl) | rfl <;> cases digit

theorem startsOffset_clock (m : Moment) : ∀ c ∈ m.clockChars, (!startsOffset c) = true := by
  have digits : ∀ c : Char, c.isDigit = true → (!startsOffset c) = true := by
    intro c digit
    rw [startsOffset_of_isDigit digit, Bool.not_false]
  have marks : ∀ c ∈ [':', '.'], (!startsOffset c) = true := by simp [startsOffset]
  exact (digitsAnd_clock m).all digits marks

theorem offsetChars_starts (offset : Option Offset) :
    (offsetChars offset).takeWhile (fun c => !startsOffset c) = [] ∧
      (offsetChars offset).dropWhile (fun c => !startsOffset c) = offsetChars offset := by
  cases offset with
  | none => exact ⟨rfl, rfl⟩
  | some o =>
      obtain ⟨cs, chars, -⟩ := o.exists_chars
      have starts : ¬ (!startsOffset o.sign) = true := by
        unfold Offset.sign
        split <;> decide
      have written : offsetChars (some o) = o.sign :: cs := chars
      rw [written]
      exact ⟨List.takeWhile_cons_of_neg starts, List.dropWhile_cons_of_neg starts⟩

theorem readClock?_chars (m : Moment) :
    readClock? (m.clockChars ++ offsetChars m.offset) =
      some (⟨m.hour, m.minute, m.second, m.microsecond, true⟩, .ok (m.offset.map Offset.asRead)) := by
  have clock := startsOffset_clock m
  obtain ⟨none, all⟩ := offsetChars_starts m.offset
  unfold readClock?
  rw [List.takeWhile_append_of_pos clock, List.dropWhile_append_of_pos clock, none, all,
    List.append_nil, readTime?_clockChars]
  change (if ((offsetChars m.offset).isEmpty && false) = true then _
    else (readOffset? (offsetChars m.offset)).bind _) = _
  rw [Bool.and_false, if_neg Bool.false_ne_true, readOffset?_offsetChars]
  rfl

theorem dayLength_chars (d : Date) (rest : List Char) : dayLength (d.chars ++ rest) = 10 := by
  obtain ⟨year, month, day⟩ := day_bounds d
  have length := length_padZeros (by decide) year
  unfold dayLength
  rw [chars_eq, List.append_assoc, List.drop_left' length, List.cons_append, List.append_assoc]
  split
  · rename_i tail same
    exact absurd (List.cons.inj same).2 (padZeros_append_ne (by decide) month rfl _ _)
  · rfl
  · rename_i same
    cases (List.cons.inj same).1
  · rename_i other _
    exact absurd rfl (other _)

theorem moment_chars_eq (m : Moment) :
    m.chars = m.date.chars ++ 'T' :: (m.clockChars ++ offsetChars m.offset) := by
  rw [Moment.chars, List.append_assoc]
  rfl

theorem length_moment_chars (m : Moment) : 11 < m.chars.length := by
  have hour : m.hour < 10 ^ 2 := by
    have day := m.withinDay
    unfold microsPerDay at day
    unfold Moment.hour
    omega
  rw [moment_chars_eq, clockChars_eq]
  simp only [List.length_append, List.length_cons, length_chars, length_padZeros (by decide) hour]
  omega

theorem readMoment?_chars (m : Moment) :
    readMoment? m.chars = some (⟨m.date.year, m.date.month, m.date.day⟩,
      ⟨m.hour, m.minute, m.second, m.microsecond, true⟩, .ok (m.offset.map Offset.asRead)) := by
  have long := length_moment_chars m
  have time : readAfterDay? ('T' :: (m.clockChars ++ offsetChars m.offset)) =
    readClock? (m.clockChars ++ offsetChars m.offset) := rfl
  unfold readMoment?
  rw [if_neg (by omega), moment_chars_eq, dayLength_chars]
  dsimp only
  rw [List.take_left' (length_chars _),
    List.drop_left' (length_chars _), readDay?_chars, time, readClock?_chars]
  rfl

theorem toDate_written (d : Date) : WrittenDay.toDate ⟨d.year, d.month, d.day⟩ = .ok d :=
  Date.ofParts_eq_ok_iff.mpr ⟨rfl, rfl, rfl⟩

theorem ofParts_moment (m : Moment) (zone : Option Zone) :
    Moment.ofParts m.date m.hour m.minute m.second m.microsecond zone =
      .ok { m with zone := zone } := by
  have day := m.withinDay
  have clock : ((m.hour * 60 + m.minute) * 60 + m.second) * microsPerSecond + m.microsecond =
      m.clock := by
    unfold Moment.hour Moment.minute Moment.second Moment.microsecond microsPerSecond
    omega
  have parts : ¬ 23 < m.hour ∧ ¬ 59 < m.minute ∧ ¬ 59 < m.second := by
    unfold microsPerDay at day
    unfold Moment.hour Moment.minute Moment.second microsPerSecond
    omega
  unfold Moment.ofParts
  dsimp only
  rw [if_neg parts.1, if_neg parts.2.1, if_neg parts.2.2]
  simp only [clock]
  exact dif_pos day

/-! ### Texts -/

theorem shownChars_ofChars (cs : List Char) : (Text.ofChars cs).shownChars = cs := by
  unfold Text.shownChars Text.ofChars
  rw [List.map_map]
  exact List.map_id cs

theorem length_ofChars (cs : List Char) : (Text.ofChars cs).length = cs.length :=
  List.length_map _

theorem trim_ofChars {cs : List Char} (none : ∀ c ∈ cs, Text.isBlank c = false) :
    (Text.ofChars cs).trim = Text.ofChars cs := by
  apply congrArg Text.mk
  apply trimEnds_eq_self
  intro point member
  obtain ⟨c, inside, rfl⟩ := List.mem_map.mp member
  exact none c inside

theorem replaceAll_of_notMem {α : Type} [BEq α] [LawfulBEq α] {first : α}
    {others replacement text : List α} (none : first ∉ text) :
    Text.replaceAll first others replacement text = text := by
  induction text with
  | nil => rw [Text.replaceAll]
  | cons x rest ih =>
      obtain ⟨apart, later⟩ := not_or.mp (mt List.mem_cons.mpr none)
      rw [Text.replaceAll, List.isPrefixOf_cons_cons, beq_false_of_ne apart, Bool.false_and,
        if_neg Bool.false_ne_true, ih later]

/-- A character of a date is no blank and no letter that stands for universal time, and it is ASCII. -/
structure IsPlain (c : Char) : Prop where
  notBlank : Text.isBlank c = false
  notUniversal : c ≠ 'Z'
  ascii : c.toNat < 128

theorem isPlain_of_isDigit {c : Char} (digit : c.isDigit = true) : IsPlain c := by
  refine ⟨Text.not_isBlank_of_isDigit (Text.isDigit_of_isDigit digit), ?_, ?_⟩
  · rintro rfl
    cases digit
  · simp only [Char.isDigit, Bool.and_eq_true, decide_eq_true_eq] at digit
    exact Nat.lt_of_le_of_lt (UInt32.le_iff_toNat_le.mp digit.2) (by decide)

def dateMarks : List Char := ['-', 'T', ':', '.', '+']

theorem isPlain_of_mark {c : Char} (mark : c ∈ dateMarks) : IsPlain c := by
  simp only [dateMarks, List.mem_cons, List.not_mem_nil, or_false] at mark
  rcases mark with rfl | rfl | rfl | rfl | rfl <;> exact ⟨by decide, by decide, by decide⟩

theorem isPlain_date (d : Date) : ∀ c ∈ d.chars, IsPlain c := by
  have marks : ∀ c ∈ ['-'], c ∈ dateMarks := by simp [dateMarks]
  exact ((digitsAnd_date d).mono marks).all (fun _ => isPlain_of_isDigit) fun _ => isPlain_of_mark

theorem isPlain_moment (m : Moment) : ∀ c ∈ m.chars, IsPlain c := by
  have date : ∀ c ∈ ['-'], c ∈ dateMarks := by simp [dateMarks]
  have clock : ∀ c ∈ [':', '.'], c ∈ dateMarks := by simp [dateMarks]
  have offset : DigitsAnd dateMarks (offsetChars m.offset) := by
    cases m.offset with
    | none => exact digitsAnd_nil
    | some o =>
        have marks : ∀ c ∈ ['+', '-', ':', '.'], c ∈ dateMarks := by simp [dateMarks]
        exact (digitsAnd_offset o).mono marks
  have written : DigitsAnd dateMarks m.chars := by
    rw [moment_chars_eq]
    exact ((digitsAnd_date m.date).mono date).append (.cons (by simp [dateMarks])
      (((digitsAnd_clock m).mono clock).append offset))
  exact written.all (fun _ => isPlain_of_isDigit) fun _ => isPlain_of_mark

theorem ofString_ofList (cs : List Char) : Text.ofString (String.ofList cs) = Text.ofChars cs :=
  congrArg Text.ofChars String.toList_ofList

theorem readStamp_day (d : Date) : readStamp (Text.ofString d.text) = .ok (.day d) := by
  have plain := isPlain_date d
  have length := length_chars d
  have ascii : d.chars.all (fun c => c.toNat < 128) = true :=
    List.all_eq_true.mpr fun c member => decide_eq_true (plain c member).ascii
  have read : readDate (Text.ofChars d.chars) = .ok d := by
    unfold readDate
    dsimp only
    rw [shownChars_ofChars, if_pos ⟨.inr (.inr length), ascii⟩, readDay?_chars]
    exact toDate_written d
  unfold readStamp Date.text
  dsimp only
  rw [ofString_ofList, trim_ofChars fun c member => (plain c member).notBlank, length_ofChars,
    if_pos length, read]
  rfl

theorem readStamp_moment (m : Moment) : readStamp (Text.ofString m.text) =
    .ok (.moment { m with zone := (m.offset.map Offset.asRead).map .fixed }) := by
  have plain := isPlain_moment m
  have length := length_moment_chars m
  have read : readMoment (Text.ofChars m.chars) =
      .ok { m with zone := (m.offset.map Offset.asRead).map .fixed } := by
    unfold readMoment
    rw [shownChars_ofChars, readMoment?_chars]
    exact (bind_of_ok (toDate_written m.date)).trans (ofParts_moment m _)
  have universal : CodePoint.char 'Z' ∉ (Text.ofChars m.chars).points := by
    intro member
    obtain ⟨c, inside, same⟩ := List.mem_map.mp member
    exact (plain c inside).notUniversal (CodePoint.char.inj same)
  unfold readStamp Moment.text
  dsimp only
  rw [ofString_ofList, trim_ofChars fun c member => (plain c member).notBlank, length_ofChars,
    if_neg (by omega), replaceAll_of_notMem universal, read]
  rfl

end Formula.Calendar

namespace Formula

open Calendar

/-- What is read from the text of a stamp. Of its zone the text has nothing but the distance. -/
def Stamp.asRead : Stamp → Stamp
  | .day d => .day d
  | .moment m => .moment { m with zone := (m.offset.map Offset.asRead).map .fixed }

theorem Stamp.asRead_eq_self_iff {s : Stamp} : s.asRead = s ↔
    ∀ z, s.clock? = some (some z) →
      ∃ o, z = .fixed o ∧ (o.micros = 0 ∨ microsPerSecond ≤ o.micros.natAbs) := by
  cases s with
  | day d => exact iff_of_true rfl fun _ clock => by cases clock
  | moment m =>
      obtain ⟨date, clock, zone, withinDay⟩ := m
      cases zone with
      | none => exact iff_of_true rfl fun _ clock => by cases clock
      | some z =>
          cases z with
          | fixed o =>
              simp [asRead, Moment.offset, Zone.offset, Offset.asRead_eq_self_iff]
          | region r later => simp [asRead, Moment.offset]

theorem readStamp_text (s : Stamp) : readStamp (Text.ofString s.text) = .ok s.asRead := by
  cases s with
  | day d => exact readStamp_day d
  | moment m => exact readStamp_moment m

namespace Dates

/-- The text of a date is read as a date of the same kind, with the same day and time on its clock.
It is the same date if it has no zone, or one at a fixed distance from universal time that is none
or at least a second: a shorter one is read as none. -/
theorem ofValue_toText (s : Stamp) : ∃ t, (Value.date s).toText = .ok t ∧
    ofValue (.text t) = .ok s.asRead ∧ s.asRead.isMoment = s.isMoment ∧
    s.asRead.reading = s.reading ∧
    (s.asRead = s ↔ ∀ z, s.clock? = some (some z) →
      ∃ o, z = .fixed o ∧ (o.micros = 0 ∨ microsPerSecond ≤ o.micros.natAbs)) := by
  refine ⟨_, rfl, readStamp_text s, ?_, ?_, Stamp.asRead_eq_self_iff⟩
  · cases s <;> rfl
  · cases s <;> rfl

theorem asRead_eq_self {s : Stamp} {t : Text} (written : (Value.date s).toText = .ok t)
    (read : ofValue (.text t) = .ok s) : s.asRead = s := by
  obtain rfl : Text.ofString s.text = t := Except.ok.inj written
  exact Except.ok.inj ((readStamp_text s).symm.trans read)

/-- A clock that is half a second ahead of universal time is read as one that is not. -/
theorem half_second_lost :
    let ahead : Offset := ⟨500000, by decide⟩
    let s := Stamp.moment
      ⟨⟨2024, 1, 15, by decide⟩, 37800000000, some (.fixed ahead), by decide⟩
    ¬ ∃ t, (Value.date s).toText = .ok t ∧ ofValue (.text t) = .ok s := by
  rintro ahead s ⟨t, written, read⟩
  have clock : s.clock? = some (some (.fixed ahead)) := rfl
  obtain ⟨o, zone, exact⟩ := Stamp.asRead_eq_self_iff.mp (asRead_eq_self written read) _ clock
  have whole : ahead.micros = 0 ∨ microsPerSecond ≤ ahead.micros.natAbs :=
    Zone.fixed.inj zone ▸ exact
  exact absurd whole (by decide)

end Dates

end Formula
