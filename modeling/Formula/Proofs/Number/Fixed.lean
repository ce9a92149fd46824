import Formula.Proofs.Number.Denoted

/-!
Decimals written out to a number of places: what the text looks like, and that it denotes the
decimal once the separators are left out.
-/

namespace Formula

open Numeral Token

/-! ### Groups of three -/

/-- Digits in groups of three, the first of which may be shorter, with separators between them. -/
def IsGrouped (separator : Char) (digits cs : List Char) : Prop :=
  ∃ (first : List Char) (groups : List (List Char)),
    1 ≤ first.length ∧ first.length ≤ 3 ∧ (∀ group ∈ groups, group.length = 3) ∧
      digits = first ++ groups.flatten ∧ cs = first ++ groups.flatMap (separator :: ·)

section

variable {separator : Char} {digits cs : List Char}

theorem isGrouped_groupThrees (some : digits ≠ []) :
    IsGrouped separator digits (Decimal.groupThrees separator digits) := by
  induction digits with
  | nil => exact absurd rfl some
  | cons d rest ih =>
      by_cases last : rest = []
      · subst last
        exact ⟨[d], [], by simp, by simp, by simp, rfl, rfl⟩
      obtain ⟨first, groups, least, most, threes, digits, written⟩ := ih last
      have whole : groups.flatten.length = 3 * groups.length := by
        rw [List.length_flatten, List.eq_replicate_of_mem (List.forall_mem_map.mpr threes),
          List.sum_replicate, List.length_map, smul_eq_mul, mul_comm]
      have count : rest.length = first.length + 3 * groups.length := by
        rw [digits, List.length_append, whole]
      rw [Decimal.groupThrees]
      split
      · rename_i full
        refine ⟨[d], first :: groups, by simp, by simp, ?_, ?_, ?_⟩
        · exact List.forall_mem_cons.mpr ⟨by omega, threes⟩
        · rw [digits]
          rfl
        · rw [written]
          rfl
      · rename_i broken
        have short : rest.length % 3 ≠ 0 := fun full => broken ⟨full, last⟩
        refine ⟨d :: first, groups, by simp, ?_, threes, ?_, ?_⟩
        · rw [List.length_cons]
          omega
        · rw [digits]
          rfl
        · rw [written]
          rfl

theorem filter_of_notMem (none : separator ∉ cs) : cs.filter (· ≠ separator) = cs := by
  rw [List.filter_eq_self]
  intro c member
  exact decide_eq_true fun same => none (same ▸ member)

theorem filter_groups {groups : List (List Char)} (none : ∀ group ∈ groups, separator ∉ group) :
    (groups.flatMap (separator :: ·)).filter (· ≠ separator) = groups.flatten := by
  induction groups with
  | nil => rfl
  | cons group groups ih =>
      rw [List.forall_mem_cons] at none
      rw [List.flatMap_cons, List.filter_append, List.filter_cons_of_neg (by simp),
        filter_of_notMem none.1, ih none.2, List.flatten_cons]

/-- Without the separators the digits are left. -/
theorem IsGrouped.filter (grouped : IsGrouped separator digits cs) (none : separator ∉ digits) :
    cs.filter (· ≠ separator) = digits := by
  obtain ⟨first, groups, -, -, -, rfl, rfl⟩ := grouped
  rw [List.mem_append, not_or, List.mem_flatten, not_exists] at none
  rw [List.filter_append, filter_of_notMem none.1,
    filter_groups fun group member inside => none.2 group ⟨member, inside⟩]

theorem notMem_of_ascii (ascii : Ascii cs) (other : separator.isDigit = false) :
    separator ∉ cs := fun member => by
  rw [ascii separator member] at other
  cases other

/-- Digits in groups or not, as asked for. -/
theorem exists_grouped (some : digits ≠ []) (none : separator ∉ digits) (grouped : Bool) :
    ∃ cs, (if grouped then Decimal.groupThrees separator digits else digits) = cs ∧
      (if grouped then IsGrouped separator digits cs else cs = digits) ∧
      cs.filter (· ≠ separator) = digits := by
  cases grouped with
  | false => exact ⟨digits, rfl, rfl, filter_of_notMem none⟩
  | true =>
      have shape := @isGrouped_groupThrees separator digits some
      exact ⟨_, rfl, shape, shape.filter none⟩

end

/-! ### Places -/

/-- A number written out: perhaps a minus sign, at least one digit, and a point with `places` digits
behind it unless there are none. Separators stand between groups of three digits in front of the
point, or nowhere. -/
def IsFixed (separator : Char) (grouped : Bool) (places : Nat) (cs : List Char) : Prop :=
  ∃ sign whole written fraction : List Char,
    cs = sign ++ (written ++ if places = 0 then [] else '.' :: fraction) ∧
      (sign = [] ∨ sign = ['-']) ∧ whole ≠ [] ∧ Ascii whole ∧ Ascii fraction ∧
      fraction.length = places ∧
      if grouped then IsGrouped separator whole written else written = whole

namespace Decimal

variable {d : Decimal} {places : Nat}

/-- The digits in front of the point and behind it are those of the magnitude in units of the last
place. -/
theorem fixedParts_eq (fine : -(places : Int) ≤ d.exponent) :
    let parts := d.fixedParts places
    parts.1 ≠ [] ∧ Ascii parts.1 ∧ Ascii parts.2 ∧ parts.2.length = places ∧
      (valueOf (parts.1 ++ parts.2) * 10 ^ (-(places : ℤ)) : ℚ) = d.magnitude := by
  intro parts
  generalize scaled : d.coefficient * tenTo (d.exponent + places).toNat = n
  generalize written : padZeros (places + 1) (digitChars n) = digits
  have same :
      parts = (digits.take (digits.length - places), digits.drop (digits.length - places)) := by
    rw [← written, ← scaled]
    rfl
  have ascii : Ascii digits := written ▸ ascii_padZeros (places + 1) n
  have long : places + 1 ≤ digits.length := by
    rw [← written, padZeros, List.length_append, List.length_replicate]
    omega
  rw [same]
  refine ⟨?_, fun c member => ascii c (List.mem_of_mem_take member),
    fun c member => ascii c (List.mem_of_mem_drop member), ?_, ?_⟩
  · rw [← List.length_pos_iff, List.length_take]
    omega
  · rw [List.length_drop]
    omega
  · have value : valueOf digits = n := by
      rw [← written]
      exact valueOf_zeros_append n _
    rw [List.take_append_drop, value, ← scaled, magnitude]
    push_cast
    rw [cast_tenTo, ← zpow_natCast, Int.toNat_of_nonneg (by omega), mul_assoc,
      ← zpow_add₀ (by norm_num), add_neg_cancel_right]

/-- A decimal without digits beyond the places is written out with all of them, and what is written
denotes it. -/
theorem writeFixed_spec (fine : -(places : Int) ≤ d.exponent) (grouped : Bool) :
    IsFixed ',' grouped places (d.writeFixed places grouped) ∧
      exactValue? ((d.writeFixed places grouped).filter (· ≠ ',')) = some d.value := by
  obtain ⟨some, wholeAscii, fractionAscii, length, value⟩ := fixedParts_eq fine
  unfold writeFixed
  generalize d.fixedParts places = parts at *
  obtain ⟨whole, fraction⟩ := parts
  dsimp only at *
  have comma : ','.isDigit = false := by decide
  obtain ⟨written, same, shape, digits⟩ :=
    exists_grouped some (notMem_of_ascii wholeAscii comma) grouped
  rw [same, List.append_assoc]
  refine ⟨⟨signChars d.negative, whole, written, fraction, rfl, ?_, some, wholeAscii,
    fractionAscii, length, shape⟩, ?_⟩
  · cases d.negative with
    | true => exact .inr rfl
    | false => exact .inl rfl
  · have sign : ',' ∉ signChars d.negative := by
      cases d.negative <;> decide
    have behind : ',' ∉ if places = 0 then [] else '.' :: fraction := by
      split
      · exact List.not_mem_nil
      · exact List.not_mem_cons_of_ne_of_not_mem (by decide) (notMem_of_ascii fractionAscii comma)
    have denoted :=
      exactValue?_fixed d.negative wholeAscii.allDigits some fractionAscii.allDigits length
    rw [List.filter_append, List.filter_append, digits, filter_of_notMem sign,
      filter_of_notMem behind, denoted, value_eq, Binary.cast_signed, mul_assoc, value]

end Decimal

end Formula
