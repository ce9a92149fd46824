import Formula.Proofs.Number.Digits
import Formula.Proofs.Number.Shortest

/-!
What is written for a float is a numeral, and reading it gives a decimal of the same value.
-/

namespace Formula

open Token

/-- An integer is its magnitude with its sign. -/
theorem Binary.signed_natAbs (n : Int) : Binary.signed (n < 0) n.natAbs = n := by
  unfold Binary.signed
  by_cases negative : n < 0
  · rw [if_pos (decide_eq_true negative)]
    omega
  · rw [if_neg (by simpa using negative)]
    omega

namespace Numeral

/-! ### Digits of the first script -/

/-- Digits of the first script. -/
def Ascii (cs : List Char) : Prop := ∀ c ∈ cs, c.isDigit = true

theorem ascii_digitChars (n : Nat) : Ascii (digitChars n) := fun _ => isDigit_of_mem_digitChars

theorem ascii_zeros (k : Nat) : Ascii (List.replicate k '0') := fun c member => by
  rw [List.eq_of_mem_replicate member]
  rfl

theorem Ascii.append {cs ds : List Char} (left : Ascii cs) (right : Ascii ds) :
    Ascii (cs ++ ds) :=
  fun c member => (List.mem_append.mp member).elim (left c) (right c)

theorem Ascii.allDigits {cs : List Char} (ascii : Ascii cs) : AllDigits cs :=
  fun c member => Text.isDigit_of_isDigit (ascii c member)

/-- Every digit among the characters is one of the first script. -/
def FirstScript (cs : List Char) : Prop := ∀ c ∈ cs, Text.isDigit c = true → c.isDigit = true

theorem Ascii.firstScript {cs : List Char} (ascii : Ascii cs) : FirstScript cs :=
  fun c member _ => ascii c member

theorem FirstScript.ascii {cs : List Char} (ascii : FirstScript cs) (all : AllDigits cs) :
    Ascii cs :=
  fun c member => ascii c member (all c member)

theorem FirstScript.append {cs ds : List Char} (left : FirstScript cs) (right : FirstScript ds) :
    FirstScript (cs ++ ds) :=
  fun c member => (List.mem_append.mp member).elim (left c) (right c)

theorem FirstScript.cons {c : Char} {cs : List Char} (other : Text.isDigit c = false)
    (rest : FirstScript cs) : FirstScript (c :: cs) := by
  intro d member digit
  rcases List.mem_cons.mp member with rfl | later
  · exact absurd (other.symm.trans digit) Bool.false_ne_true
  · exact rest d later digit

/-! ### Plain numerals -/

/-- A numeral in the digits of the first script, whose whole part is there and does not start with a
zero, unless it is one. -/
structure IsPlain (whole fraction exponent : List Char) : Prop extends
    IsNumeral whole fraction exponent where
  ascii : FirstScript (whole ++ fraction ++ exponent)
  digits : whole ≠ []
  leading : whole = ['0'] ∨ ∀ c ∈ whole.head?, c ≠ '0'

/-- A plain numeral that is no integer, and the value that it has. -/
structure Denotes (whole fraction exponent : List Char) (value : ℚ) : Prop where
  plain : IsPlain whole fraction exponent
  float : fraction ++ exponent ≠ []
  reads : ∃ power, readExponent? exponent = some power ∧ value =
    valueOf (whole ++ fraction.drop 1) * 10 ^ (power - ((fraction.drop 1).length : Int))

variable {whole fraction exponent : List Char}

theorem Denotes.readDecimal? {value : ℚ} (denotes : Denotes whole fraction exponent value)
    (negative : Bool) : ∃ d, Numeral.readDecimal? negative (whole ++ fraction ++ exponent) = some d ∧
      d.negative = negative ∧ d.magnitude = value := by
  obtain ⟨power, read, rfl⟩ := denotes.reads
  refine ⟨⟨negative, _, _⟩, ?_, rfl, rfl⟩
  rw [readDecimal?_numeral denotes.plain.toIsNumeral, read]
  rfl

theorem isPlain_fraction {digits : List Char} (first : Ascii whole) (some : whole ≠ [])
    (leading : whole = ['0'] ∨ ∀ c ∈ whole.head?, c ≠ '0') (second : Ascii digits)
    (more : digits ≠ []) (isExponent : IsExponent exponent) (third : FirstScript exponent) :
    IsPlain whole ('.' :: digits) exponent where
  allDigits := first.allDigits
  isFraction := .inr ⟨digits, rfl, second.allDigits, more⟩
  isExponent := isExponent
  nonempty := .inl some
  ascii := (first.firstScript.append (.cons (by decide) second.firstScript)).append third
  digits := some
  leading := leading

theorem isPlain_whole (first : Ascii whole) (some : whole ≠ [])
    (leading : whole = ['0'] ∨ ∀ c ∈ whole.head?, c ≠ '0') (isExponent : IsExponent exponent)
    (second : FirstScript exponent) : IsPlain whole [] exponent where
  allDigits := first.allDigits
  isFraction := .inl rfl
  isExponent := isExponent
  nonempty := .inl some
  ascii := by
    rw [List.append_nil]
    exact first.firstScript.append second
  digits := some
  leading := leading

/-! ### Values -/

/-- Zeros in front of the digits of a number do not count. -/
theorem valueOf_zeros_append (n k : Nat) : valueOf (List.replicate k '0' ++ digitChars n) = n := by
  rw [valueOf_append _ (allDigits_digitChars n), valueOf_zeros, valueOf_digitChars, Nat.zero_mul,
    Nat.zero_add]

theorem valueOf_append_zeros (n k : Nat) :
    valueOf (digitChars n ++ List.replicate k '0') = n * 10 ^ k := by
  rw [valueOf_append _ (allDigits_zeros k), valueOf_zeros, valueOf_digitChars, List.length_replicate,
    Nat.add_zero]

end Numeral

namespace Decimal

open Numeral

/-! ### Layouts -/

/-- Zeros at the end of a coefficient make up for a smaller exponent. -/
theorem mul_ten_zpow_eq {n m : Nat} {high low : Int} (zeros : Nat) (coefficient : m = n * 10 ^ zeros)
    (shift : high = low + zeros) : (n * 10 ^ high : ℚ) = m * 10 ^ low := by
  rw [coefficient, shift, zpow_add₀ (by norm_num), zpow_natCast]
  push_cast
  ring

section

variable {n : Nat} {first : Int}

theorem leading_digitChars (n : Nat) : n = 0 ∨ ∀ c ∈ (digitChars n).head?, c ≠ '0' :=
  or_iff_not_imp_left.mpr fun positive c found same =>
    head_digitChars_ne positive (by rw [found, same])

/-- Digits with a point among them denote their number, less the places behind the point. -/
theorem insertPoint_denotes {whole : Nat} (some : whole ≠ 0) (fewer : whole < digitCount n)
    {exponent : List Char} {power : Int} (isExponent : IsExponent exponent)
    (ascii : FirstScript exponent) (reads : readExponent? exponent = .some power) :
    Denotes ((digitChars n).take whole) ('.' :: (digitChars n).drop whole) exponent
      (n * 10 ^ (power + whole - (digitCount n : Int))) where
  plain := by
    have digits := ascii_digitChars n
    refine isPlain_fraction (fun c member => digits c (List.mem_of_mem_take member)) ?_ (.inr ?_)
      (fun c member => digits c (List.mem_of_mem_drop member)) ?_ isExponent ascii
    · rw [ne_eq, List.take_eq_nil_iff, not_or]
      exact ⟨some, digitChars_ne_nil n⟩
    · rw [List.head?_take, if_neg some]
      refine (leading_digitChars n).resolve_left ?_
      rintro rfl
      have single : digitCount 0 = 1 := rfl
      omega
    · rw [ne_eq, List.drop_eq_nil_iff, not_le]
      exact fewer
  float := by simp
  reads := by
    have behind : ((digitChars n).drop whole).length = digitCount n - whole := List.length_drop
    refine ⟨power, reads, mul_ten_zpow_eq 0 ?_ ?_⟩
    · rw [List.drop_succ_cons, List.drop_zero, List.take_append_drop, valueOf_digitChars]
      exact (Nat.mul_one n).symm
    · rw [List.drop_succ_cons, List.drop_zero, behind]
      omega

/-- Digits with a point among them or zeros around them are moved by powers of ten. -/
theorem plainChars_denotes (zero : n = 0 → first = 0) :
    ∃ whole fraction, plainChars (digitChars n) first = whole ++ fraction ∧
      Denotes whole fraction [] (n * 10 ^ (first + 1 - (digitCount n : Int))) := by
  have counted : (digitChars n).length = digitCount n := rfl
  have nothing : FirstScript [] := fun c member => nomatch member
  unfold plainChars
  split
  · have digits := (ascii_zeros (-first - 1).toNat).append (ascii_digitChars n)
    have plain := isPlain_fraction (ascii_zeros 1) (by simp) (.inl rfl) digits
      (by simp [digitChars_ne_nil]) (.inl rfl) nothing
    refine ⟨['0'], _, rfl, plain, by simp, 0, rfl, mul_ten_zpow_eq 0 ?_ ?_⟩
    · rw [Nat.pow_zero, Nat.mul_one]
      exact valueOf_zeros_append n ((-first - 1).toNat + 1)
    · simp only [List.drop_succ_cons, List.drop_zero, List.length_append, List.length_replicate]
      omega
  · dsimp only
    split
    · generalize more : first.toNat + 1 - (digitChars n).length = zeros
      have digits := (ascii_digitChars n).append (ascii_zeros zeros)
      have leading : digitChars n ++ List.replicate zeros '0' = ['0'] ∨
          ∀ c ∈ (digitChars n ++ List.replicate zeros '0').head?, c ≠ '0' := by
        rw [List.head?_append_of_ne_nil _ (digitChars_ne_nil n)]
        refine (leading_digitChars n).imp_left ?_
        rintro rfl
        have single : (digitChars 0).length = 1 := rfl
        have none : zeros = 0 := by
          have := zero rfl
          omega
        rw [none]
        rfl
      have plain := isPlain_fraction digits (by simp [digitChars_ne_nil]) leading (ascii_zeros 1)
        (by simp) (.inl rfl) nothing
      refine ⟨_, _, rfl, plain, by simp, 0, rfl, mul_ten_zpow_eq (zeros + 1) ?_ ?_⟩
      · rw [← valueOf_append_zeros, List.replicate_succ', ← List.append_assoc]
        rfl
      · simp only [List.drop_succ_cons, List.drop_zero, List.length_singleton]
        omega
    · refine ⟨_, _, rfl, ?_⟩
      have denotes := @insertPoint_denotes n (first.toNat + 1) (by omega) (by omega) [] 0 (.inl rfl)
        nothing rfl
      rw [← show 0 + ((first.toNat + 1 : Nat) : Int) - digitCount n = first + 1 - digitCount n by
        omega]
      exact denotes

/-! #### Exponents -/

theorem ascii_padZeros (width n : Nat) : Ascii (padZeros width (digitChars n)) :=
  (ascii_zeros _).append (ascii_digitChars n)

theorem isExponent_exponentChars (layout : Layout) (power : Int) :
    IsExponent (exponentChars layout power) := by
  refine .inr ⟨'e', [if power < 0 then '-' else '+'], _, rfl, rfl, ?_,
    (ascii_padZeros layout.exponentDigits power.natAbs).allDigits, ?_⟩
  · split
    · exact .inr (.inr rfl)
    · exact .inr (.inl rfl)
  · simp [digitChars_ne_nil]

theorem firstScript_exponentChars (layout : Layout) (power : Int) :
    FirstScript (exponentChars layout power) := by
  refine .cons (by decide) (.cons ?_ (ascii_padZeros _ _).firstScript)
  split <;> decide

/-- An exponent part is read as the exponent. -/
theorem readExponent?_exponentChars (layout : Layout) (power : Int) :
    readExponent? (exponentChars layout power) = some power := by
  have digits := ascii_padZeros layout.exponentDigits power.natAbs
  have some : padZeros layout.exponentDigits (digitChars power.natAbs) ≠ [] := by
    simp [padZeros, digitChars_ne_nil]
  have value : valueOf (padZeros layout.exponentDigits (digitChars power.natAbs)) = power.natAbs :=
    valueOf_zeros_append _ _
  unfold exponentChars
  generalize padZeros layout.exponentDigits (digitChars power.natAbs) = body at *
  have sign : splitSign ((if power < 0 then '-' else '+') :: body) =
      (decide (power < 0), body) := by
    by_cases negative : power < 0
    · rw [if_pos negative, decide_eq_true negative]
      rfl
    · rw [if_neg negative, decide_eq_false negative]
      rfl
  have read : (('e' == 'e' || 'e' == 'E') && !body.isEmpty && body.all Text.isDigit) = true := by
    rw [List.isEmpty_eq_false_iff.mpr some, List.all_eq_true.mpr digits.allDigits]
    rfl
  rw [readExponent?, sign]
  dsimp only
  rw [if_pos read, Option.some_inj]
  change Binary.signed _ (valueOf body) = power
  rw [value, Binary.signed_natAbs]

/-- Few digits with an exponent part behind them. -/
theorem scientificChars_denotes (layout : Layout) :
    ∃ whole fraction, scientificChars layout (digitChars n) first =
        whole ++ fraction ++ exponentChars layout first ∧
      Denotes whole fraction (exponentChars layout first)
        (n * 10 ^ (first + 1 - (digitCount n : Int))) := by
  have counted : (digitChars n).length = digitCount n := rfl
  have reads := readExponent?_exponentChars layout first
  have isExponent := isExponent_exponentChars layout first
  have firstScript := firstScript_exponentChars layout first
  unfold scientificChars
  split
  · have single := digitCount_pos n
    have leading := (leading_digitChars n).imp_left fun zero =>
      show digitChars n = ['0'] by rw [zero]; rfl
    have plain := isPlain_whole (ascii_digitChars n) (digitChars_ne_nil n) leading isExponent
      firstScript
    refine ⟨digitChars n, [], by rw [List.append_nil], plain, List.cons_ne_nil _ _, first, reads,
      mul_ten_zpow_eq 0 ?_ ?_⟩
    · rw [List.drop_nil, List.append_nil, valueOf_digitChars, Nat.pow_zero, Nat.mul_one]
    · rw [List.drop_nil, List.length_nil]
      omega
  · exact ⟨_, _, rfl,
      insertPoint_denotes Nat.one_ne_zero (by omega) isExponent firstScript reads⟩

end

/-- What is written for a float after its sign is a numeral that denotes the decimal. -/
theorem write_denotes (layout : Layout) (zero : layout.lowest ≤ 0 ∧ 0 ≤ layout.highest)
    (d : Decimal) : ∃ whole fraction exponent,
      d.write layout = signChars d.negative ++ (whole ++ fraction ++ exponent) ∧
        Denotes whole fraction exponent d.magnitude := by
  unfold write
  dsimp only
  by_cases none : d.coefficient = 0
  · rw [if_pos none, if_pos zero]
    obtain ⟨whole, fraction, written, denotes⟩ := @plainChars_denotes d.coefficient 0 fun _ => rfl
    refine ⟨whole, fraction, [], by rw [written, List.append_nil], ?_⟩
    rw [none, Nat.cast_zero, zero_mul] at denotes
    rwa [magnitude, none, Nat.cast_zero, zero_mul]
  · rw [if_neg none]
    have same : d.leadingExponent + 1 - (digitCount d.coefficient : Int) = d.exponent := by
      rw [leadingExponent]
      omega
    split
    · obtain ⟨whole, fraction, written, denotes⟩ :=
        @plainChars_denotes d.coefficient d.leadingExponent fun zero => absurd zero none
      rw [same] at denotes
      exact ⟨whole, fraction, [], by rw [written, List.append_nil], denotes⟩
    · obtain ⟨whole, fraction, written, denotes⟩ :=
        @scientificChars_denotes d.coefficient d.leadingExponent layout
      rw [same] at denotes
      exact ⟨whole, fraction, _, by rw [written], denotes⟩

end Decimal

end Formula
