import Formula.Proofs.Token.Numeral
import Mathlib

/-!
The decimal digits of natural numbers: how many there are, and that reading them gives the number
back.
-/

namespace Formula

/-! ### Counts of digits -/

section

variable {n : Nat}

theorem digitCount_pos (n : Nat) : 0 < digitCount n := Nat.length_toDigits_pos

theorem lt_pow_digitCount (n : Nat) : n < 10 ^ digitCount n :=
  (Nat.length_toDigits_le_iff (by decide) (digitCount_pos n)).mp (Nat.le_refl _)

theorem pow_digitCount_le (positive : n ≠ 0) : 10 ^ (digitCount n - 1) ≤ n := by
  by_cases single : digitCount n = 1
  · rw [single]
    exact Nat.one_le_iff_ne_zero.mpr positive
  · have := digitCount_pos n
    refine Nat.le_of_not_lt fun small => ?_
    have fewer : digitCount n ≤ digitCount n - 1 :=
      (Nat.length_toDigits_le_iff (by decide) (by omega)).mpr small
    omega

theorem digitCount_le {k : Nat} (positive : 0 < k) (small : n < 10 ^ k) : digitCount n ≤ k :=
  (Nat.length_toDigits_le_iff (by decide) positive).mpr small

theorem digitChars_ne_nil (n : Nat) : digitChars n ≠ [] := Nat.toDigits_ne_nil

end

/-! ### Digits as characters -/

/-- The digits of numbers are those of the first script. -/
theorem isDigit_of_mem_digitChars {n : Nat} {c : Char} (member : c ∈ digitChars n) :
    c.isDigit = true :=
  Nat.isDigit_of_mem_toDigits (by decide) (by decide) member

theorem Text.isDigit_of_isDigit {c : Char} (digit : c.isDigit = true) : Text.isDigit c = true := by
  refine (decimalDigits.contains_iff c).mpr ⟨(0x30, 0x39), by decide, ?_⟩
  simp only [Char.isDigit, ge_iff_le, Bool.and_eq_true, decide_eq_true_eq] at digit
  exact ⟨UInt32.le_iff_toNat_le.mp digit.1, UInt32.le_iff_toNat_le.mp digit.2⟩

theorem allDigits_digitChars (n : Nat) : Token.AllDigits (digitChars n) :=
  fun _ member => Text.isDigit_of_isDigit (isDigit_of_mem_digitChars member)

/-- A positive number does not start with a zero. -/
theorem head_digitChars_ne {n : Nat} (positive : n ≠ 0) : (digitChars n).head? ≠ some '0' := by
  induction n using Nat.strong_induction_on with
  | _ n ih =>
      unfold digitChars at ih ⊢
      by_cases single : n < 10
      · rw [Nat.toDigits_of_lt_base single]
        interval_cases n
        · exact absurd rfl positive
        all_goals decide
      · rw [Nat.toDigits_of_base_le (by decide) (by omega),
          List.head?_append_of_ne_nil _ Nat.toDigits_ne_nil]
        exact ih (n / 10) (by omega) (by omega)

/-! ### Reading digits -/

namespace Numeral

open Token Text

theorem positional_append_singleton (ds : List Nat) (d : Nat) :
    positional (ds ++ [d]) = positional ds * 10 + d := by
  rw [positional, List.foldl_append]
  rfl

/-- Digits that start with the most significant one have the value of their reverse, which starts with
the least significant one. -/
theorem positional_eq_ofDigits (ds : List Nat) : positional ds = Nat.ofDigits 10 ds.reverse := by
  induction ds using List.reverseRecOn with
  | nil => rfl
  | append_singleton ds d ih =>
      rw [positional_append_singleton, ih, List.reverse_concat, Nat.ofDigits_cons]
      ring

theorem positional_append (ds es : List Nat) :
    positional (ds ++ es) = positional ds * 10 ^ es.length + positional es := by
  simp only [positional_eq_ofDigits, List.reverse_append, Nat.ofDigits_append, List.length_reverse]
  ring

/-- The number that digits stand for. -/
def valueOf (cs : List Char) : Nat := positional (digitValues cs)

theorem valueOf_append (cs : List Char) {ds : List Char} (digits : AllDigits ds) :
    valueOf (cs ++ ds) = valueOf cs * 10 ^ ds.length + valueOf ds := by
  rw [valueOf, digitValues, List.filterMap_append, positional_append]
  exact congrArg (_ * 10 ^ · + _) (digitValues_length digits)

theorem allDigits_zeros (k : Nat) : AllDigits (List.replicate k '0') := by
  intro c member
  rw [List.eq_of_mem_replicate member]
  decide

theorem valueOf_zeros (k : Nat) : valueOf (List.replicate k '0') = 0 := by
  induction k with
  | zero => rfl
  | succ k ih =>
      have zero : AllDigits ['0'] := allDigits_zeros 1
      rw [List.replicate_succ', valueOf_append _ zero, ih]
      decide

theorem valueOf_digitChar {d : Nat} (small : d < 10) : valueOf [d.digitChar] = d := by
  interval_cases d <;> decide

/-- Reading the digits of a number gives the number. -/
theorem valueOf_digitChars (n : Nat) : valueOf (digitChars n) = n := by
  induction n using Nat.strong_induction_on with
  | _ n ih =>
      unfold digitChars at ih ⊢
      by_cases single : n < 10
      · rw [Nat.toDigits_of_lt_base single, valueOf_digitChar single]
      · have last : n % 10 < 10 := Nat.mod_lt n (by decide)
        have digit : AllDigits [(n % 10).digitChar] := by
          have own := allDigits_digitChars (n % 10)
          rwa [digitChars, Nat.toDigits_of_lt_base last] at own
        rw [Nat.toDigits_of_base_le (by decide) (by omega), valueOf_append _ digit,
          ih (n / 10) (by omega), valueOf_digitChar last]
        exact Nat.div_add_mod' n 10

end Numeral

end Formula
