import Formula.Function.Library
import Formula.Proofs.Function.Builtin
import Formula.Proofs.Number.Fixed

/-!
Numbers in a format. `TEXT` writes a number out to the places of the format, and what it writes
denotes the number rounded half away from zero to those places.
-/

namespace Formula.Texts

/-- A point with as many zeros as there are places. -/
def placesChars (places : Nat) : List Char :=
  if places = 0 then [] else '.' :: List.replicate places '0'

/-- Number signs, zeros and commas, and behind a point as many zeros as there are places. -/
def IsNumberFormat (places : Nat) (cs : List Char) : Prop :=
  ∃ whole, cs = whole ++ placesChars places ∧ whole ≠ [] ∧ ∀ c ∈ whole, c ∈ ['#', '0', ',']

section

variable {places : Nat} {cs whole : List Char} {points rest : List CodePoint} {f : NumberFormat}

theorem isFormatDigit_char_iff {c : Char} :
    isFormatDigit (.char c) = true ↔ c ∈ ['#', '0', ','] := by
  simp [isFormatDigit, CodePoint.satisfies, or_assoc]

theorem exists_formatDigits (all : ∀ p ∈ points, isFormatDigit p = true) :
    ∃ whole : List Char, points = whole.map .char ∧ ∀ c ∈ whole, c ∈ ['#', '0', ','] := by
  induction points with
  | nil => exact ⟨[], rfl, fun c member => nomatch member⟩
  | cons p points ih =>
      rw [List.forall_mem_cons] at all
      obtain ⟨whole, rfl, digits⟩ := ih all.2
      cases p with
      | half index => exact absurd all.1 Bool.false_ne_true
      | char c =>
          exact ⟨c :: whole, rfl, List.forall_mem_cons.mpr ⟨isFormatDigit_char_iff.mp all.1,
            digits⟩⟩

theorem span_formatDigits (digits : ∀ c ∈ whole, c ∈ ['#', '0', ','])
    (stop : ∀ p ∈ rest.head?, isFormatDigit p = false) :
    (whole.map CodePoint.char ++ rest).takeWhile isFormatDigit = whole.map CodePoint.char ∧
      (whole.map CodePoint.char ++ rest).dropWhile isFormatDigit = rest := by
  have all : ∀ p ∈ whole.map CodePoint.char, isFormatDigit p = true := by
    intro p member
    obtain ⟨c, own, rfl⟩ := List.mem_map.mp member
    exact isFormatDigit_char_iff.mpr (digits c own)
  rw [List.takeWhile_append_of_pos all, List.dropWhile_append_of_pos all]
  cases rest with
  | nil => exact ⟨List.append_nil _, rfl⟩
  | cons p rest =>
      have other : ¬ isFormatDigit p = true := Bool.eq_false_iff.mp (stop p rfl)
      rw [List.takeWhile_cons_of_neg other, List.dropWhile_cons_of_neg other, List.append_nil]
      exact ⟨rfl, rfl⟩

theorem contains_comma (whole : List Char) :
    (whole.map CodePoint.char).contains (.char ',') = decide (',' ∈ whole) := by
  rw [Bool.eq_iff_iff, List.contains_iff_mem, decide_eq_true_iff, List.mem_map]
  constructor
  · rintro ⟨c, member, same⟩
    cases same
    exact member
  · exact fun member => ⟨',', member, rfl⟩

theorem placesOf?_eq_some_iff :
    placesOf? rest = some places ↔ rest = (placesChars places).map .char := by
  unfold placesChars
  constructor
  · intro read
    unfold placesOf? at read
    split at read
    · cases read
      rfl
    · rename_i zeros
      split at read
      · rename_i valid
        cases read
        rw [Bool.and_eq_true, Bool.not_eq_true', List.isEmpty_eq_false_iff, List.all_eq_true]
          at valid
        rw [if_neg (List.length_pos_of_ne_nil valid.1).ne', List.map_cons, List.map_replicate]
        exact congrArg _ (List.eq_replicate_of_mem fun p member => eq_of_beq (valid.2 p member))
      · cases read
    · cases read
  · rintro rfl
    split
    · rename_i none
      rw [none]
      rfl
    · rename_i some
      rw [List.map_cons, List.map_replicate, placesOf?, if_pos, List.length_replicate]
      simp [some]

theorem stops_placesChars (places : Nat) :
    ∀ p ∈ ((placesChars places).map CodePoint.char).head?, isFormatDigit p = false := by
  unfold placesChars
  split
  · exact fun p first => nomatch first
  · intro p first
    cases first
    decide

theorem comma_notMem_placesChars (places : Nat) : ',' ∉ placesChars places := by
  unfold placesChars
  split
  · exact List.not_mem_nil
  · simp [List.mem_replicate]

/-- Exactly the valid formats are read; a comma anywhere asks for groups. -/
theorem read?_eq_some_iff : NumberFormat.read? points = some f ↔
    ∃ cs, points = cs.map .char ∧ IsNumberFormat f.places cs ∧ f.grouped = decide (',' ∈ cs) := by
  have comma (whole : List Char) :
      decide (',' ∈ whole ++ placesChars f.places) = decide (',' ∈ whole) := by
    rw [decide_eq_decide, List.mem_append, or_iff_left (comma_notMem_placesChars f.places)]
  constructor
  · intro read
    have all : ∀ p ∈ points.takeWhile isFormatDigit, isFormatDigit p = true :=
      fun p member => List.all_eq_true.mp List.all_takeWhile p member
    obtain ⟨whole, taken, digits⟩ := exists_formatDigits all
    have split := (List.takeWhile_append_dropWhile (p := isFormatDigit) (l := points)).symm
    unfold NumberFormat.read? at read
    dsimp only at read
    rw [taken] at split read
    split at read
    · cases read
    · rename_i nonempty
      obtain ⟨places, behind, rfl⟩ := Option.map_eq_some_iff.mp read
      rw [placesOf?_eq_some_iff.mp behind, ← List.map_append] at split
      refine ⟨_, split, ⟨whole, rfl, ?_, digits⟩, ?_⟩
      · rintro rfl
        exact nonempty rfl
      · rw [comma]
        exact contains_comma whole
  · rintro ⟨cs, rfl, ⟨whole, rfl, some, digits⟩, grouped⟩
    obtain ⟨taken, dropped⟩ := span_formatDigits digits (stops_placesChars f.places)
    unfold NumberFormat.read?
    dsimp only
    rw [List.map_append, taken, dropped, placesOf?_eq_some_iff.mpr rfl, contains_comma, ← comma,
      ← grouped, if_neg (by simpa using some)]
    rfl

/-! ### Numbers in a format -/

theorem format_number {x : Number} {t : Text} (read : NumberFormat.read? t.points = some f) :
    format (.number x) (.text t) = (f.write x).map fun cs => .text (.ofChars cs) := by
  simp only [format, Value.textOrEmpty, Value.text?, Option.getD_some, read]

end

/-- `TEXT` writes a number in a valid format as a sign, digits and places, with commas between
groups of three digits if the format has one, and what it writes denotes the number rounded half
away from zero to the places. -/
theorem format_rounds (c : Context) {x : Number} (decimal : x.IsDecimal) {places : Nat}
    {pattern : List Char} (valid : IsNumberFormat places pattern) :
    ∃ q cs, x.denoted? = some q ∧
      textFunction.call c [.number x, .text (.ofChars pattern)] = .ok (.text (.ofChars cs)) ∧
      IsFixed ',' (decide (',' ∈ pattern)) places cs ∧
      Numeral.exactValue? (cs.filter (· ≠ ',')) = some (roundHalfAway q places) := by
  obtain ⟨q, denoted, rounds⟩ := Number.roundTo_returns decimal
  obtain ⟨d, rounded, fine, value⟩ := rounds places
  have read : NumberFormat.read? (Text.ofChars pattern).points =
      some ⟨decide (',' ∈ pattern), places⟩ :=
    read?_eq_some_iff.mpr ⟨pattern, rfl, valid, rfl⟩
  obtain ⟨shape, exact_⟩ := Decimal.writeFixed_spec (show -(places : Int) ≤ d.exponent by omega)
    (decide (',' ∈ pattern))
  refine ⟨q, _, denoted, ?_, shape, value ▸ exact_⟩
  apply Definition.call_eq_ok_iff.mpr
  refine ⟨.text (.ofChars (d.writeFixed places (decide (',' ∈ pattern)))), ?_, rfl⟩
  apply mapError_eq_ok.mpr
  apply (format_number read).trans
  exact map_eq_ok.mpr ⟨_, map_eq_ok.mpr ⟨d, rounded, rfl⟩, rfl⟩

theorem format_rounds_carry :
    let c : Context := { clock := .ofMoment .universal (.atMidnight ⟨2024, 1, 15, by decide⟩ none) }
    let pattern := ['#', ',', '#', '#', '0', '.', '0', '0']
    (Number.float 999999.995).IsDecimal ∧ IsNumberFormat 2 pattern ∧
      ∃ cs, textFunction.call c [.float 999999.995, .text (.ofChars pattern)] =
          .ok (.text (.ofChars cs)) ∧
        IsFixed ',' true 2 cs ∧ Numeral.exactValue? (cs.filter (· ≠ ',')) = some 1000000 := by
  intro c pattern
  have decimal : (Number.float 999999.995).IsDecimal := by decide +kernel
  have valid : IsNumberFormat 2 pattern :=
    ⟨['#', ',', '#', '#', '0'], rfl, by simp, by simp⟩
  have bits : Binary.ofFloat 999999.995 = .finite false 8589934549050327 (-33) := by decide +kernel
  have shortest : Decimal.shortestOf false 8589934549050327 (-33) = ⟨false, 999999995, -3⟩ := by
    decide +kernel
  have denoted := Number.denoted?_float bits
  rw [shortest] at denoted
  obtain ⟨q, cs, own, called, shape, exact_⟩ := format_rounds c decimal valid
  obtain rfl := Option.some_inj.mp (denoted.symm.trans own)
  refine ⟨decimal, valid, cs, called, shape, exact_.trans ?_⟩
  norm_num [roundHalfAway, Decimal.value, Binary.signed]

end Formula.Texts
