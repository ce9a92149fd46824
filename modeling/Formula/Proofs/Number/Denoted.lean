import Formula.Proofs.Except
import Formula.Proofs.Number.Layout
import Formula.Proofs.Number.Quantize

/-!
The rational that the text of a number denotes. The decimal as which a number is rounded stands for
exactly that rational, so that a number is rounded as it is written.
-/

namespace Formula

open Token

namespace Numeral

/-- The rational that a decimal numeral with a sign denotes. -/
def exactValue? (cs : List Char) : Option ℚ :=
  (readDecimal? (splitSign cs).1 (splitSign cs).2).map Decimal.value

variable {whole fraction exponent : List Char}

theorem exactValue?_signed (numeral : IsNumeral whole fraction exponent) (negative : Bool) :
    exactValue? (Decimal.signChars negative ++ (whole ++ fraction ++ exponent)) =
      (readDecimal? negative (whole ++ fraction ++ exponent)).map Decimal.value := by
  rw [exactValue?, splitSign_signed numeral negative]

/-- Digits with a point among them denote the number of all of them, in units of the last place. -/
theorem exactValue?_fixed {digits : List Char} {places : Nat} (negative : Bool)
    (first : AllDigits whole) (some : whole ≠ []) (second : AllDigits digits)
    (length : digits.length = places) :
    exactValue? (Decimal.signChars negative ++
        (whole ++ if places = 0 then [] else '.' :: digits)) =
      .some (Binary.signed negative (valueOf (whole ++ digits)) * 10 ^ (-(places : ℤ))) := by
  obtain ⟨fraction, behind, isFraction, digitsBehind⟩ : ∃ fraction,
      (if places = 0 then [] else '.' :: digits) = fraction ∧ IsFraction fraction ∧
        fraction.drop 1 = digits := by
    refine ⟨_, rfl, ?_⟩
    split
    · rename_i none
      exact ⟨.inl rfl, (List.length_eq_zero_iff.mp (length.trans none)).symm⟩
    · rename_i more
      exact ⟨.inr ⟨digits, rfl, second, List.ne_nil_of_length_pos (by omega)⟩, rfl⟩
  have numeral : IsNumeral whole fraction [] := ⟨first, isFraction, .inl rfl, .inl some⟩
  have read := exactValue?_signed numeral negative
  rw [readDecimal?_numeral numeral, digitsBehind, length, List.append_nil] at read
  rw [behind, read, ← zero_sub]
  rfl

end Numeral

namespace Number

open Numeral

/-- The rational that the text of a number denotes. -/
def denoted? (a : Number) : Option ℚ :=
  a.literalText.toOption.bind fun text => exactValue? text.toList

/-- Integers that are not too long to be written, and finite floats. -/
def IsDecimal : Number → Prop
  | .int n => digitCount n.natAbs ≤ maxIntegerDigits
  | .float x => x.isFinite = true

instance (a : Number) : Decidable a.IsDecimal :=
  match a with
  | .int n => inferInstanceAs (Decidable (digitCount n.natAbs ≤ maxIntegerDigits))
  | .float x => inferInstanceAs (Decidable (x.isFinite = true))

variable {n : Int} {x : Float}

theorem value_ofInt (n : Int) : (Decimal.ofInt n).value = n := by
  unfold Decimal.value Decimal.ofInt
  dsimp only
  rw [Binary.signed_natAbs, zpow_zero, mul_one]

/-- An integer denotes itself. -/
theorem denoted?_int (short : (Number.int n).IsDecimal) :
    (Number.int n).denoted? = some (n : ℚ) := by
  have fits : ¬ maxIntegerDigits < (digitChars n.natAbs).length := Nat.not_lt.mpr short
  have digits := @exactValue?_fixed (digitChars n.natAbs) [] 0 (n < 0) (allDigits_digitChars _)
    (digitChars_ne_nil _) (fun c member => nomatch member) rfl
  rw [if_pos rfl, List.append_nil, valueOf_digitChars, Binary.signed_natAbs, Int.natCast_zero,
    neg_zero, zpow_zero, mul_one] at digits
  unfold denoted? literalText integerText
  dsimp only
  rw [if_neg fits, Except.toOption, Option.bind_some, String.toList_ofList]
  exact digits

/-- A float denotes the shortest decimal that reads as it. -/
theorem denoted?_float {negative : Bool} {m : Nat} {e : Int}
    (bits : Binary.ofFloat x = .finite negative m e) :
    (Number.float x).denoted? = some (Decimal.shortestOf negative m e).value := by
  obtain ⟨legal, -⟩ := Binary.assemble_of_ofFloat bits
  have sign := Decimal.shortestOf_negative legal negative
  obtain ⟨whole, fraction, exponent, written, denotes⟩ :=
    Decimal.write_denotes Decimal.floatLayout (by decide) (Decimal.shortestOf negative m e)
  obtain ⟨d, read, own, same⟩ := denotes.readDecimal? negative
  have value : d.value = (Decimal.shortestOf negative m e).value := by
    rw [Decimal.value_eq, Decimal.value_eq, own, sign, same]
  have chars : floatChars x = Decimal.signChars negative ++ (whole ++ fraction ++ exponent) := by
    rw [sign] at written
    unfold floatChars
    rw [bits]
    exact written
  unfold denoted? literalText floatText
  dsimp only
  rw [Except.toOption, Option.bind_some, String.toList_ofList, chars,
    exactValue?_signed denotes.plain.toIsNumeral, read, Option.map_some, value]

theorem withinReach_ofInt (short : (Number.int n).IsDecimal) : (Decimal.ofInt n).WithinReach where
  least := show Decimal.leastExponent Decimal.usualDigits ≤ 0 by decide
  greatest := by
    have few : digitCount n.natAbs ≤ 4300 := short
    unfold Decimal.leadingExponent Decimal.ofInt Decimal.maxExponent
    dsimp only
    omega

theorem withinReach_shortestOf {m : Nat} {e : Int} (legal : Binary.Legal m e) (negative : Bool) :
    (Decimal.shortestOf negative m e).WithinReach where
  least := le_trans (by decide) (Decimal.le_exponent_shortestOf legal negative)
  greatest := by
    by_cases zero : m = 0
    · rw [Decimal.shortestOf, if_pos zero]
      exact show (digitCount 0 : Int) - 1 + -1 < Decimal.maxExponent by decide
    · have holds := Decimal.shortestOf_holds legal zero negative
      have some : (Decimal.shortestOf negative m e).coefficient ≠ 0 := fun none =>
        holds.ne_zero zero (by rw [Decimal.magnitude, none, Nat.cast_zero, zero_mul])
      have far := (Decimal.leadingExponent_near legal zero some holds).2
      unfold Decimal.maxExponent
      omega

/-- The decimal of a number is within reach and stands for what the number denotes. -/
theorem toDecimal_returns {a : Number} (decimal : a.IsDecimal) :
    ∃ d, a.toDecimal = .ok d ∧ d.WithinReach ∧ a.denoted? = some d.value := by
  cases a with
  | int n =>
      refine ⟨_, if_neg (Nat.not_lt.mpr decimal), withinReach_ofInt decimal, ?_⟩
      rw [denoted?_int decimal, value_ofInt]
  | float x =>
      obtain ⟨negative, m, e, bits⟩ := Binary.exists_of_isFinite decimal
      obtain ⟨legal, -⟩ := Binary.assemble_of_ofFloat bits
      refine ⟨Decimal.shortestOf negative m e, ?_, withinReach_shortestOf legal negative,
        denoted?_float bits⟩
      unfold toDecimal
      dsimp only
      rw [bits]

/-- A number is rounded as the rational that it denotes. -/
theorem roundTo_returns {a : Number} (decimal : a.IsDecimal) :
    ∃ q, a.denoted? = some q ∧ ∀ places, ∃ r, a.roundTo places = .ok r ∧
      min (-places) 0 ≤ r.exponent ∧ r.value = roundHalfAway q places := by
  obtain ⟨d, made, within, denoted⟩ := toDecimal_returns decimal
  refine ⟨d.value, denoted, fun places => ?_⟩
  obtain ⟨r, rounded, exponent, value⟩ := Decimal.roundTo_returns within places
  exact ⟨r, (bind_of_ok made).trans rounded, exponent, value⟩

end Number

end Formula
