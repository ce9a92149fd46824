import Formula.Expr.Basic
import Formula.Token.Scan

/-!
Numbers in a source are numerals: digits, perhaps a fraction, perhaps an exponent. Each of them can
be read, except an integer of too many digits.
-/

namespace Formula

open Formula.Text

/-! ### Digits -/

namespace Text

theorem isDigit_apart {c : Char} (digit : isDigit c = true) {low high : Nat}
    (apart : ∀ span ∈ decimalDigits.spans, span.2 < low ∨ high < span.1) :
    ¬ (low ≤ c.toNat ∧ c.toNat ≤ high) := by
  obtain ⟨span, member, above, below⟩ := (decimalDigits.contains_iff c).mp digit
  have := apart span member
  omega

theorem not_isBlank_of_isDigit {c : Char} (digit : isDigit c = true) : isBlank c = false := by
  rw [Bool.eq_false_iff]
  intro blank
  obtain ⟨span, member, inside⟩ := (blanks.contains_iff c).mp blank
  have apart : ∀ blank ∈ blanks.spans, ∀ span ∈ decimalDigits.spans,
      span.2 < blank.1 ∨ blank.2 < span.1 := by
    decide
  exact isDigit_apart digit (apart span member) inside

/-- Each digit has a value. -/
theorem map_digitValue? {cs : List Char} (digits : ∀ c ∈ cs, isDigit c = true) :
    cs.map digitValue? = (Numeral.digitValues cs).map some := by
  induction cs with
  | nil => rfl
  | cons c rest ih =>
      obtain ⟨here, others⟩ := List.forall_mem_cons.mp digits
      obtain ⟨n, value⟩ := Option.isSome_iff_exists.mp ((isSome_digitValue? c).trans here)
      have behind := ih others
      unfold Numeral.digitValues at behind ⊢
      rw [List.map_cons, value, List.filterMap_cons_some value, List.map_cons, behind]

theorem digitValues_length {cs : List Char} (digits : ∀ c ∈ cs, isDigit c = true) :
    (Numeral.digitValues cs).length = cs.length := by
  rw [← List.length_map some, ← map_digitValue? digits, List.length_map]

end Text

/-! ### The shape of numerals -/

namespace Token

def AllDigits (cs : List Char) : Prop := ∀ c ∈ cs, isDigit c = true

def IsFraction (cs : List Char) : Prop :=
  cs = [] ∨ ∃ digits, cs = '.' :: digits ∧ AllDigits digits ∧ digits ≠ []

def IsSign (cs : List Char) : Prop := cs = [] ∨ cs = ['+'] ∨ cs = ['-']

def IsExponent (cs : List Char) : Prop :=
  cs = [] ∨ ∃ mark sign digits, cs = mark :: (sign ++ digits) ∧ isExponentMark mark = true ∧
    IsSign sign ∧ AllDigits digits ∧ digits ≠ []

/-- Digits, a fraction and an exponent, of which the first two are not both missing. -/
structure IsNumeral (whole fraction exponent : List Char) : Prop where
  allDigits : AllDigits whole
  isFraction : IsFraction fraction
  isExponent : IsExponent exponent
  nonempty : whole ≠ [] ∨ fraction ≠ []

theorem allDigits_takeWhile (cs : List Char) : AllDigits (cs.takeWhile isDigit) := by
  intro c member
  exact List.all_eq_true.mp List.all_takeWhile c member

theorem isFraction_fractionAt (cs : List Char) : IsFraction (fractionAt cs) := by
  unfold fractionAt
  split
  · rename_i rest
    dsimp only
    split
    · exact .inl rfl
    · rename_i some
      exact .inr ⟨_, rfl, allDigits_takeWhile rest, by simpa using some⟩
  · exact .inl rfl

theorem isSign_signAt (cs : List Char) : IsSign (signAt cs) := by
  unfold signAt
  split
  · exact .inr (.inl rfl)
  · exact .inr (.inr rfl)
  · exact .inl rfl

theorem isExponent_exponentAt (cs : List Char) : IsExponent (exponentAt cs) := by
  cases cs with
  | nil => exact .inl rfl
  | cons mark rest =>
      simp only [exponentAt]
      split
      · rename_i marked
        rw [Bool.and_eq_true, Bool.not_eq_true', List.isEmpty_eq_false_iff] at marked
        exact .inr ⟨mark, _, _, by simp, marked.1, isSign_signAt rest, allDigits_takeWhile _,
          marked.2⟩
      · exact .inl rfl

theorem mantissaAt_eq (cs : List Char) : ∃ whole fraction, mantissaAt cs = whole ++ fraction ∧
    AllDigits whole ∧ IsFraction fraction :=
  ⟨_, _, rfl, allDigits_takeWhile cs, isFraction_fractionAt _⟩

/-- What a scan takes for a number is a numeral. -/
theorem numberAt_eq {cs : List Char} (some : numberAt cs ≠ []) :
    ∃ whole fraction exponent, numberAt cs = whole ++ fraction ++ exponent ∧
      IsNumeral whole fraction exponent := by
  obtain ⟨whole, fraction, mantissa, allDigits, isFraction⟩ := mantissaAt_eq cs
  by_cases none : (mantissaAt cs).isEmpty = true
  · simp only [numberAt, none, if_true, ne_eq, not_true_eq_false] at some
  · simp only [numberAt, none]
    refine ⟨whole, fraction, _, congrArg (· ++ _) mantissa, allDigits, isFraction,
      isExponent_exponentAt _, ?_⟩
    rw [mantissa, List.isEmpty_iff, List.append_eq_nil_iff] at none
    exact Classical.not_and_iff_not_or_not.mp none

/-! ### The characters of numerals -/

/-- A character that numerals are written with. -/
def IsNumeralChar (c : Char) : Prop := isDigit c = true ∨ c ∈ ['.', 'e', 'E', '+', '-']

theorem IsFraction.chars {cs : List Char} (fraction : IsFraction cs) :
    ∀ c ∈ cs, IsNumeralChar c := by
  rcases fraction with rfl | ⟨digits, rfl, all, -⟩
  · exact fun c member => nomatch member
  · intro c member
    rcases List.mem_cons.mp member with rfl | digit
    · exact .inr (by simp)
    · exact .inl (all c digit)

theorem IsSign.chars {cs : List Char} (sign : IsSign cs) : ∀ c ∈ cs, IsNumeralChar c := by
  rcases sign with rfl | rfl | rfl <;> simp [IsNumeralChar]

theorem IsExponent.chars {cs : List Char} (exponent : IsExponent cs) :
    ∀ c ∈ cs, IsNumeralChar c := by
  rcases exponent with rfl | ⟨mark, sign, digits, rfl, marked, isSign, all, -⟩
  · exact fun c member => nomatch member
  · intro c member
    rcases List.mem_cons.mp member with rfl | member
    · simp only [isExponentMark, Bool.or_eq_true, beq_iff_eq] at marked
      exact .inr (by rcases marked with rfl | rfl <;> simp)
    · rcases List.mem_append.mp member with signed | digit
      · exact isSign.chars c signed
      · exact .inl (all c digit)

variable {whole fraction exponent : List Char}

theorem IsNumeral.chars (numeral : IsNumeral whole fraction exponent) :
    ∀ c ∈ whole ++ fraction ++ exponent, IsNumeralChar c := by
  intro c member
  simp only [List.mem_append] at member
  rcases member with (inWhole | inFraction) | inExponent
  · exact .inl (numeral.allDigits c inWhole)
  · exact numeral.isFraction.chars c inFraction
  · exact numeral.isExponent.chars c inExponent

/-- The first character is a digit or the point. -/
theorem IsNumeral.front (numeral : IsNumeral whole fraction exponent) :
    ∃ c rest, whole ++ fraction ++ exponent = c :: rest ∧ (isDigit c = true ∨ c = '.') := by
  cases whole with
  | cons c rest =>
      exact ⟨c, rest ++ fraction ++ exponent, rfl, .inl (numeral.allDigits c List.mem_cons_self)⟩
  | nil =>
      rcases numeral.isFraction with rfl | ⟨digits, rfl, -, -⟩
      · exact absurd numeral.nonempty (by simp)
      · exact ⟨'.', digits ++ exponent, by simp, .inr rfl⟩

theorem IsNumeralChar.not_isPadding {c : Char} (numeral : IsNumeralChar c) :
    Numeral.isPadding c = false := by
  rcases numeral with digit | mark
  · rw [Numeral.isPadding, not_isBlank_of_isDigit digit, Bool.false_and]
  · simp only [List.mem_cons, List.not_mem_nil, or_false] at mark
    rcases mark with rfl | rfl | rfl | rfl | rfl <;> decide

theorem isDigit_ne {c d : Char} (digit : isDigit c = true) (other : isDigit d = false) : c ≠ d := by
  rintro rfl
  rw [digit] at other
  cases other

theorem IsNumeralChar.ne_underscore {c : Char} (numeral : IsNumeralChar c) : c ≠ '_' := by
  rcases numeral with digit | mark
  · exact isDigit_ne digit (by decide)
  · rintro rfl
    simp at mark

end Token

/-! ### Reading numerals -/

namespace Numeral

open Token

theorem trimEnds_eq_self {α : Type} {p : α → Bool} {xs : List α} (none : ∀ x ∈ xs, p x = false) :
    trimEnds p xs = xs := by
  have keeps : ∀ ys : List α, (∀ y ∈ ys, p y = false) → ys.dropWhile p = ys := by
    intro ys none
    cases ys with
    | nil => rfl
    | cons y rest => rw [List.dropWhile_cons_of_neg (by simp [none y List.mem_cons_self])]
  rw [trimEnds, keeps xs none, keeps xs.reverse, List.reverse_reverse]
  exact fun x member => none x (List.mem_reverse.mp member)

theorem ofString_ofList (cs : List Char) : Text.ofString (String.ofList cs) = Text.ofChars cs := by
  rw [Text.ofString, String.toList_ofList]

theorem unpadded_ofChars {cs : List Char} (chars : ∀ c ∈ cs, IsNumeralChar c) :
    unpadded (Text.ofChars cs) = cs := by
  have shown : (Text.ofChars cs).shownChars = cs := by
    simp [Text.shownChars, Text.ofChars, Function.comp_def, CodePoint.shown]
  rw [unpadded, shown]
  exact trimEnds_eq_self fun c member => (chars c member).not_isPadding

theorem underscoresSit_of_none (cs : List Char) (previous : Bool) (none : ∀ c ∈ cs, c ≠ '_') :
    underscoresSit previous cs = true := by
  induction cs generalizing previous with
  | nil => rfl
  | cons c rest ih =>
      rw [underscoresSit]
      · exact ih _ fun d member => none d (List.mem_cons_of_mem c member)
      · exact none c List.mem_cons_self

variable {whole fraction exponent : List Char}

theorem splitSign_eq (numeral : IsNumeral whole fraction exponent) :
    splitSign (whole ++ fraction ++ exponent) = (false, whole ++ fraction ++ exponent) := by
  obtain ⟨c, rest, front, first⟩ := numeral.front
  rw [front]
  have notMinus : c ≠ '-' := by
    rcases first with digit | rfl
    · exact isDigit_ne digit (by decide)
    · decide
  have notPlus : c ≠ '+' := by
    rcases first with digit | rfl
    · exact isDigit_ne digit (by decide)
    · decide
  unfold splitSign
  split
  · rename_i same
    exact absurd (List.cons.inj same).1 notMinus
  · rename_i same
    exact absurd (List.cons.inj same).1 notPlus
  · rfl

theorem splitSign_signed (numeral : IsNumeral whole fraction exponent) (negative : Bool) :
    splitSign (Decimal.signChars negative ++ (whole ++ fraction ++ exponent)) =
      (negative, whole ++ fraction ++ exponent) := by
  cases negative with
  | false => exact splitSign_eq numeral
  | true => rfl

theorem signed_chars (numeral : IsNumeral whole fraction exponent) (negative : Bool) :
    ∀ c ∈ Decimal.signChars negative ++ (whole ++ fraction ++ exponent), IsNumeralChar c := by
  intro c member
  rcases List.mem_append.mp member with sign | own
  · cases negative with
    | false => cases sign
    | true => exact .inr (by simp [List.mem_singleton.mp sign])
  · exact numeral.chars c own

/-! #### Integers -/

theorem readInteger_signed {digits : List Char} (all : AllDigits digits) (some : digits ≠ [])
    (short : digits.length ≤ maxIntegerDigits) (negative : Bool) :
    readInteger (Text.ofChars (Decimal.signChars negative ++ digits)) =
      .ok (Binary.signed negative (positional (digitValues digits))) := by
  have numeral : IsNumeral digits [] [] := ⟨all, .inl rfl, .inl rfl, .inl some⟩
  have chars := signed_chars numeral negative
  have sign := splitSign_signed numeral negative
  simp only [List.append_nil] at chars sign
  have counted : ∀ c ∈ digits, isDigitOrUnderscore c = true := fun c member => by
    rw [isDigitOrUnderscore, all c member, Bool.or_true]
  have taken : digits.takeWhile isDigitOrUnderscore = digits := by
    rw [← List.append_nil digits, List.takeWhile_append_of_pos counted, List.takeWhile_nil]
  have dropped : digits.dropWhile isDigitOrUnderscore = [] := by
    rw [← List.append_nil digits, List.dropWhile_append_of_pos counted, List.dropWhile_nil]
  have nonempty : (digitValues digits).isEmpty = false := by
    rw [List.isEmpty_eq_false_iff, ← List.length_pos_iff, digitValues_length all]
    exact List.length_pos_iff.mpr some
  have sits : underscoresSit false digits = true := underscoresSit_of_none digits false
    fun c member => (chars c (List.mem_append_right _ member)).ne_underscore
  unfold readInteger
  rw [unpadded_ofChars chars, sign]
  simp only [taken, dropped, nonempty, sits, digitValues_length all]
  rw [if_neg (by simp), if_neg (by omega), if_neg (by simp)]

theorem readInteger_digits {digits : List Char} (all : AllDigits digits) (some : digits ≠ [])
    (short : digits.length ≤ maxIntegerDigits) :
    readInteger (Text.ofString (String.ofList digits)) =
      .ok (positional (digitValues digits)) := by
  rw [ofString_ofList]
  exact readInteger_signed all some short false

/-! #### Floats -/

/-- Digits are told from what follows them when that starts with something else. -/
theorem span_digits {digits rest : List Char} (all : AllDigits digits)
    (stop : ∀ c ∈ rest.head?, isDigit c = false) :
    (digits ++ rest).takeWhile isDigit = digits ∧ (digits ++ rest).dropWhile isDigit = rest := by
  rw [List.takeWhile_append_of_pos all, List.dropWhile_append_of_pos all]
  cases rest with
  | nil => exact ⟨List.append_nil digits, rfl⟩
  | cons c more =>
      have other : ¬ isDigit c = true := by
        rw [stop c rfl]
        exact Bool.false_ne_true
      rw [List.takeWhile_cons_of_neg other, List.dropWhile_cons_of_neg other, List.append_nil]
      exact ⟨rfl, rfl⟩

theorem isDigit_head_exponent (isExponent : IsExponent exponent) :
    ∀ c ∈ exponent.head?, isDigit c = false ∧ c ≠ '.' := by
  rcases isExponent with rfl | ⟨mark, sign, digits, rfl, marked, -, -, -⟩
  · exact fun c member => nomatch member
  · intro c first
    cases first
    simp only [isExponentMark, Bool.or_eq_true, beq_iff_eq] at marked
    rcases marked with rfl | rfl <;> decide

theorem splitSign_append {sign digits : List Char} (isSign : IsSign sign)
    (all : AllDigits digits) (some : digits ≠ []) : (splitSign (sign ++ digits)).2 = digits := by
  rcases isSign with rfl | rfl | rfl
  · have numeral : IsNumeral digits [] [] := ⟨all, .inl rfl, .inl rfl, .inl some⟩
    have sign := splitSign_eq numeral
    simp only [List.append_nil] at sign
    rw [List.nil_append, sign]
  · rfl
  · rfl

theorem isSome_readExponent? (isExponent : IsExponent exponent) :
    (readExponent? exponent).isSome = true := by
  rcases isExponent with rfl | ⟨mark, sign, digits, rfl, marked, isSign, all, some⟩
  · rfl
  · have nonempty : digits.isEmpty = false := List.isEmpty_eq_false_iff.mpr some
    have read : ((mark == 'e' || mark == 'E') && !digits.isEmpty && digits.all isDigit) = true := by
      rw [show (mark == 'e' || mark == 'E') = true from marked, nonempty,
        List.all_eq_true.mpr all]
      rfl
    simp only [readExponent?, splitSign_append isSign all some, read, if_true, Option.isSome_some]

theorem splitFraction_append (isFraction : IsFraction fraction) (isExponent : IsExponent exponent) :
    splitFraction (fraction ++ exponent) = (fraction.drop 1, exponent) := by
  have stop := isDigit_head_exponent isExponent
  rcases isFraction with rfl | ⟨digits, rfl, all, -⟩
  · cases exponent with
    | nil => rfl
    | cons mark rest =>
        rw [List.nil_append, splitFraction]
        · rfl
        · rintro more same
          exact (stop mark rfl).2 (List.cons.inj same).1
  · obtain ⟨taken, dropped⟩ := span_digits all fun c first => (stop c first).1
    rw [List.cons_append, splitFraction, taken, dropped]
    rfl

/-- The digits of the whole part and of the fraction are read as one number. -/
theorem readDecimal?_numeral (numeral : IsNumeral whole fraction exponent) (negative : Bool) :
    readDecimal? negative (whole ++ fraction ++ exponent) =
      (readExponent? exponent).map fun power =>
        ⟨negative, positional (digitValues (whole ++ fraction.drop 1)),
          power - (fraction.drop 1).length⟩ := by
  have stop : ∀ c ∈ (fraction ++ exponent).head?, isDigit c = false := by
    rcases numeral.isFraction with rfl | ⟨digits, rfl, -, -⟩
    · exact fun c first => (isDigit_head_exponent numeral.isExponent c first).1
    · intro c first
      cases first
      decide
  obtain ⟨taken, dropped⟩ := span_digits numeral.allDigits stop
  have some : (whole.isEmpty && (fraction.drop 1).isEmpty) = false := by
    rw [Bool.and_eq_false_iff, List.isEmpty_eq_false_iff, List.isEmpty_eq_false_iff]
    rcases numeral.nonempty with inWhole | inFraction
    · exact .inl inWhole
    · rcases numeral.isFraction with rfl | ⟨digits, rfl, -, some⟩
      · exact absurd rfl inFraction
      · exact .inr some
  rw [List.append_assoc]
  unfold readDecimal?
  simp only [taken, dropped, splitFraction_append numeral.isFraction numeral.isExponent, some,
    Bool.false_eq_true, if_false]

theorem isSome_readDecimal? (numeral : IsNumeral whole fraction exponent) (negative : Bool) :
    (readDecimal? negative (whole ++ fraction ++ exponent)).isSome = true := by
  rw [readDecimal?_numeral numeral, Option.isSome_map]
  exact isSome_readExponent? numeral.isExponent

/-- No letter is a digit, nor is it one in lower case. -/
theorem toLower_ne {c d : Char} (front : isDigit c = true ∨ c = '.') (letter : isDigit d = false)
    (other : d ≠ '.') : c.toLower ≠ d := by
  rcases front with digit | rfl
  · have upper := isDigit_apart digit (show ∀ span ∈ decimalDigits.spans, span.2 < 65 ∨ 90 < span.1
      by decide)
    have same : c.toLower = c := by
      unfold Char.toLower
      split
      · rename_i range
        exact absurd range upper
      · rfl
    rw [same]
    exact isDigit_ne digit letter
  · exact other.symm

/-- A numeral is read as the float of its decimal, with the sign in front of it. -/
theorem readFloat_signed (numeral : IsNumeral whole fraction exponent) (negative : Bool)
    {d : Decimal} (read : readDecimal? negative (whole ++ fraction ++ exponent) = some d) :
    readFloat (Text.ofChars (Decimal.signChars negative ++ (whole ++ fraction ++ exponent))) =
      .ok d.toFloat := by
  have chars := signed_chars numeral negative
  have plain : (Decimal.signChars negative ++ (whole ++ fraction ++ exponent)).filter (· != '_') =
      Decimal.signChars negative ++ (whole ++ fraction ++ exponent) :=
    List.filter_eq_self.mpr fun c member => bne_iff_ne.mpr (chars c member).ne_underscore
  have sits := underscoresSit_of_none _ false fun c member => (chars c member).ne_underscore
  obtain ⟨c, rest, same, front⟩ := numeral.front
  have noWord (word : String) {d : Char} {letters : List Char}
      (spelled : word.toList = d :: letters) (letter : isDigit d = false) (other : d ≠ '.') :
      String.ofList ((whole ++ fraction ++ exponent).map Char.toLower) ≠ word := by
    rintro rfl
    rw [String.toList_ofList, same] at spelled
    exact toLower_ne front letter other (List.cons.inj spelled).1
  unfold readFloat
  rw [unpadded_ofChars chars]
  simp only [plain, splitSign_signed numeral negative, sits, Bool.not_true, Bool.false_eq_true,
    if_false, read]
  rw [if_neg, if_neg]
  · exact noWord "nan" rfl (by decide) (by decide)
  · intro member
    simp only [infinityNames, List.mem_cons, List.not_mem_nil, or_false] at member
    rcases member with short | long
    · exact noWord "inf" rfl (by decide) (by decide) short
    · exact noWord "infinity" rfl (by decide) (by decide) long

theorem readFloat_numeral (numeral : IsNumeral whole fraction exponent) :
    ∃ x, readFloat (Text.ofString (String.ofList (whole ++ fraction ++ exponent))) = .ok x := by
  obtain ⟨decimal, read⟩ := Option.isSome_iff_exists.mp (isSome_readDecimal? numeral false)
  rw [ofString_ofList]
  exact ⟨_, readFloat_signed numeral false read⟩

/-! #### Integers and floats -/

/-- No character of a text is a point or an exponent mark. -/
def Unmarked (text : String) : Prop := ∀ c ∈ text.toList, c ∉ ['.', 'e', 'E']

theorem isFloatNumeral_eq_false_iff {text : String} :
    isFloatNumeral text = false ↔ Unmarked text := by
  simp only [isFloatNumeral, Unmarked, List.any_eq_false, Bool.or_eq_true, beq_iff_eq,
    List.mem_cons, List.not_mem_nil, or_false, or_assoc]

instance (text : String) : Decidable (Unmarked text) :=
  decidable_of_iff _ isFloatNumeral_eq_false_iff

end Numeral

/-! ### Number tokens -/

namespace Token

theorem IsNumeral.integer {whole fraction exponent : List Char}
    (numeral : IsNumeral whole fraction exponent)
    (integer : Numeral.isFloatNumeral (String.ofList (whole ++ fraction ++ exponent)) = false) :
    fraction = [] ∧ exponent = [] := by
  simp only [Numeral.isFloatNumeral, String.toList_ofList, List.any_eq_false, List.mem_append]
    at integer
  constructor
  · rcases numeral.isFraction with rfl | ⟨digits, rfl, -, -⟩
    · rfl
    · exact absurd (integer '.' (.inl (.inr List.mem_cons_self))) (by decide)
  · rcases numeral.isExponent with rfl | ⟨mark, sign, digits, rfl, marked, -, -, -⟩
    · rfl
    · have mark := integer mark (.inr List.mem_cons_self)
      simp only [isExponentMark, Bool.or_eq_true] at marked
      simp only [Bool.or_eq_true] at mark
      exact absurd (marked.imp_left .inr) mark

/-- A numeral with a point or an exponent is read as a float. -/
theorem literalValue_float {whole fraction exponent : List Char}
    (numeral : IsNumeral whole fraction exponent)
    (float : Numeral.isFloatNumeral (String.ofList (whole ++ fraction ++ exponent)) = true) :
    ∃ x, Expr.literalValue .number (String.ofList (whole ++ fraction ++ exponent)) =
      .ok (.float x) := by
  obtain ⟨x, read⟩ := Numeral.readFloat_numeral numeral
  refine ⟨x, ?_⟩
  unfold Expr.literalValue
  dsimp only
  rw [if_pos float, read]
  rfl

/-- Digits alone are read as the integer that they write. -/
theorem literalValue_digits {digits : List Char} (all : AllDigits digits) (some : digits ≠ [])
    (integer : Numeral.isFloatNumeral (String.ofList digits) = false)
    (short : digits.length ≤ maxIntegerDigits) :
    Expr.literalValue .number (String.ofList digits) =
      .ok (.int (positional (Numeral.digitValues digits))) := by
  unfold Expr.literalValue
  dsimp only
  rw [if_neg (Bool.eq_false_iff.mp integer), Numeral.readInteger_digits all some short]
  rfl

/-- The value of a number token is one, unless it is an integer of too many digits. -/
theorem literalValue_numberAt {cs : List Char} (some : numberAt cs ≠ [])
    (short : Numeral.isFloatNumeral (String.ofList (numberAt cs)) = false →
      (numberAt cs).length ≤ maxIntegerDigits) :
    ∃ v, Expr.literalValue .number (String.ofList (numberAt cs)) = .ok v := by
  obtain ⟨whole, fraction, exponent, shape, numeral⟩ := numberAt_eq some
  rw [shape] at some short ⊢
  cases float : Numeral.isFloatNumeral (String.ofList (whole ++ fraction ++ exponent)) with
  | true =>
      obtain ⟨x, read⟩ := literalValue_float numeral float
      exact ⟨.float x, read⟩
  | false =>
      obtain ⟨rfl, rfl⟩ := numeral.integer float
      have short := short float
      simp only [List.append_nil] at some short float ⊢
      exact ⟨.int _, literalValue_digits numeral.allDigits some float short⟩

theorem numberAt_of_lexemeAt? {cs lexeme : List Char} (found : lexemeAt? cs = some (lexeme, .number)) :
    lexeme = numberAt cs ∧ numberAt cs ≠ [] := by
  unfold lexemeAt? at found
  split at found
  · rename_i some
    cases found
    exact ⟨rfl, by simpa using some⟩
  · split at found
    · rename_i symbol matched
      cases found
      have noNumber : ∀ symbol ∈ symbols, symbol.2 ≠ .number := by decide
      exact absurd rfl (noNumber _ (List.mem_of_find?_eq_some matched))
    · split at found
      · cases found
      · split at found <;> cases found

theorem lexemeAt?_of_tokenAt {c : Cursor} {token : Token} (found : tokenAt c = .ok (some token)) :
    lexemeAt? c.rest = some (token.lexeme, token.kind) := by
  unfold tokenAt at found
  split at found
  · cases found
  · split at found
    · cases found
    · split at found
      · rename_i lexeme kind read
        cases found
        exact read
      · cases found

theorem mem_tokens_scanFrom {c : Cursor} {token : Token} (member : token ∈ (scanFrom c).tokens) :
    ∃ cs, lexemeAt? cs = some (token.lexeme, token.kind) := by
  induction c using scanFrom.induct with
  | case1 c here e failed =>
      rw [scanFrom, failed] at member
      cases member
  | case2 c here ended =>
      rw [scanFrom, ended] at member
      cases member
  | case3 c here first found consumes _ ih =>
      rw [scanFrom, found] at member
      simp only [here] at consumes
      simp only [consumes, ne_eq, not_false_eq_true, and_self, dif_pos, List.mem_cons] at member
      rcases member with rfl | later
      · exact ⟨_, lexemeAt?_of_tokenAt found⟩
      · exact ih later
  | case4 c here first found stuck =>
      rw [scanFrom, found] at member
      simp only [here] at stuck
      simp only [stuck, dif_neg, not_false_eq_true] at member
      cases member

/-- A number token is the numeral that a text starts with. -/
theorem lexeme_eq_numberAt {source : String} {token : Token}
    (member : token ∈ (scan source).tokens) (number : token.kind = .number) :
    ∃ cs, token.lexeme = numberAt cs ∧ numberAt cs ≠ [] := by
  obtain ⟨cs, read⟩ := mem_tokens_scanFrom member
  rw [number] at read
  exact ⟨cs, numberAt_of_lexemeAt? read⟩

/-- No integer in a formula has too many digits. -/
def IntegersFit (formula : String) : Prop :=
  ∀ token ∈ (scan formula).tokens, token.kind = .number →
    Numeral.isFloatNumeral token.value = false → token.lexeme.length ≤ maxIntegerDigits

theorem value_number {token : Token} (number : token.kind = .number) :
    token.value = String.ofList token.lexeme := by
  rw [value, number]

theorem literalValue_token {formula : String} (fit : IntegersFit formula) {token : Token}
    (member : token ∈ (scan formula).tokens) (number : token.kind = .number) :
    ∃ v, Expr.literalValue .number token.value = .ok v := by
  have short := fit token member number
  obtain ⟨cs, lexeme, some⟩ := lexeme_eq_numberAt member number
  rw [value_number number, lexeme] at short ⊢
  exact literalValue_numberAt some short

end Token

end Formula
