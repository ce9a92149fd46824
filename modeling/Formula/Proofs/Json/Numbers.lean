import Formula.Proofs.Json.Strings
import Formula.Proofs.Number.Layout
import Formula.Proofs.Value.Range

/-!
A number that is written as JSON is read back: what is written for it is a numeral, and the reader
takes all of the numeral, whatever may follow a number.
-/

namespace Formula.Json

open Numeral Token

/-- What stands behind a value inside of another one, or at the end. -/
def Follows (rest : List CodePoint) : Prop :=
  ∀ p ∈ rest.head?, p ∈ [CodePoint.char ',', .char ']', .char '\x7d']

/-- The characters of a numeral as code points. -/
def points (cs : List Char) : List CodePoint := cs.map .char

theorem points_append (cs ds : List Char) : points (cs ++ ds) = points cs ++ points ds :=
  List.map_append

theorem isEmpty_points {cs : List Char} (some : cs ≠ []) : (points cs).isEmpty = false := by
  rw [List.isEmpty_eq_false_iff, ne_eq, points, List.map_eq_nil_iff]
  exact some

/-! ### Parts of numerals -/

section

variable {tail : List CodePoint}

/-- The text goes on with nothing that passes a test. -/
def Stops (p : CodePoint → Bool) (tail : List CodePoint) : Prop := ∀ c ∈ tail.head?, p c = false

theorem takeWhile_points {p : CodePoint → Bool} {cs : List Char}
    (pass : ∀ c ∈ cs, p (.char c) = true) (stop : Stops p tail) :
    (points cs ++ tail).takeWhile p = points cs := by
  have all : ∀ c ∈ points cs, p c = true := by
    intro c member
    obtain ⟨d, own, rfl⟩ := List.mem_map.mp member
    exact pass d own
  rw [List.takeWhile_append_of_pos all]
  cases tail with
  | nil => rw [List.takeWhile_nil, List.append_nil]
  | cons c tail =>
      rw [List.takeWhile_cons_of_neg (by rw [stop c rfl]; decide), List.append_nil]

theorem drop_points (cs : List Char) (tail : List CodePoint) :
    (points cs ++ tail).drop (points cs).length = tail :=
  List.drop_left

theorem Stops.append {p : CodePoint → Bool} {cs : List Char}
    (head : ∀ c ∈ cs.head?, p (.char c) = false) (stop : Stops p tail) :
    Stops p (points cs ++ tail) := by
  cases cs with
  | nil => exact stop
  | cons c cs =>
      intro d first
      cases first
      exact head c rfl

theorem wholePart_points {whole : List Char} (ascii : Ascii whole)
    (leading : whole = ['0'] ∨ ∀ c ∈ whole.head?, c ≠ '0') (some : whole ≠ [])
    (stop : Stops isDigit tail) : wholePart (points whole ++ tail) = points whole := by
  rcases leading with rfl | leading
  · rfl
  · obtain ⟨c, cs, rfl⟩ := List.exists_cons_of_ne_nil some
    rw [wholePart]
    · exact takeWhile_points ascii stop
    · rintro rest same
      cases same
      exact leading '0' rfl rfl

theorem fractionPart_points {fraction : List Char} (isFraction : IsFraction fraction)
    (ascii : FirstScript fraction) (stop : Stops isDigit tail)
    (point : Stops (· == .char '.') tail) :
    fractionPart (points fraction ++ tail) = points fraction := by
  rcases isFraction with rfl | ⟨digits, rfl, all, some⟩
  · change fractionPart tail = []
    unfold fractionPart
    split
    · exact absurd (point (.char '.') rfl) (by decide)
    · rfl
  · have own : FirstScript digits := fun c member => ascii c (List.mem_cons_of_mem _ member)
    have taken : (points digits ++ tail).takeWhile isDigit = points digits :=
      takeWhile_points (own.ascii all) stop
    change fractionPart (.char '.' :: (points digits ++ tail)) = _
    rw [fractionPart, taken, isEmpty_points some]
    rfl

theorem exponentPart_points {exponent : List Char} (isExponent : IsExponent exponent)
    (ascii : FirstScript exponent) (stop : Stops isDigit tail) (mark : Stops isExponentMark tail) :
    exponentPart (points exponent ++ tail) = points exponent := by
  rcases isExponent with rfl | ⟨letter, sign, digits, rfl, marked, isSign, all, some⟩
  · cases tail with
    | nil => rfl
    | cons c tail =>
        change exponentPart (c :: tail) = []
        rw [exponentPart, mark c rfl]
        rfl
  · have own : FirstScript digits := fun c member => ascii c (by simp [member])
    have signs : ∀ c ∈ sign, Json.isSign (.char c) = true := by
      rcases isSign with rfl | rfl | rfl <;> simp [Json.isSign]
    have short : (points sign).length ≤ 1 := by
      rcases isSign with rfl | rfl | rfl <;> simp [points]
    have after : Stops Json.isSign (points digits ++ tail) := by
      obtain ⟨c, cs, rfl⟩ := List.exists_cons_of_ne_nil some
      rintro d first
      cases first
      have digit := all c List.mem_cons_self
      have plus := isDigit_ne digit (show Text.isDigit '+' = false by decide)
      have minus := isDigit_ne digit (show Text.isDigit '-' = false by decide)
      simpa [Json.isSign] using ⟨plus, minus⟩
    have taken := takeWhile_points signs after
    have counted : (points digits ++ tail).takeWhile isDigit = points digits :=
      takeWhile_points (own.ascii all) stop
    have opens : isExponentMark (.char letter) = true := by
      simp only [Token.isExponentMark, Bool.or_eq_true, beq_iff_eq] at marked
      rcases marked with rfl | rfl <;> rfl
    have same : points (letter :: (sign ++ digits)) ++ tail =
        .char letter :: (points sign ++ (points digits ++ tail)) := by
      simp [points]
    rw [same, exponentPart, if_pos opens]
    dsimp only
    rw [taken, drop_points, counted, isEmpty_points some, if_pos (by simpa using short)]
    simp [points]

end

/-! ### Whole numerals -/

section

variable {whole fraction exponent : List Char} {rest : List CodePoint}

theorem Follows.stops {p : CodePoint → Bool} (follows : Follows rest)
    (none : ∀ q ∈ [CodePoint.char ',', .char ']', .char '\x7d'], p q = false) : Stops p rest :=
  fun q first => none q (follows q first)

theorem isDigit_of_other {c : Char} (other : Text.isDigit c = false) : isDigit (.char c) = false :=
  Bool.eq_false_iff.mpr fun digit =>
    absurd (other.symm.trans (Text.isDigit_of_isDigit digit)) Bool.false_ne_true

/-- A number is taken apart as it was put together. -/
theorem numberParts_points (plain : IsPlain whole fraction exponent) (negative : Bool)
    (follows : Follows rest) :
    numberParts (points (Decimal.signChars negative ++ (whole ++ fraction ++ exponent)) ++ rest) =
      (points (Decimal.signChars negative ++ whole), points (fraction ++ exponent)) := by
  have wholeAscii : Ascii whole := fun c member =>
    plain.ascii c (by simp [member]) (plain.allDigits c member)
  have fractionScript : FirstScript fraction := fun c member => plain.ascii c (by simp [member])
  have exponentScript : FirstScript exponent := fun c member => plain.ascii c (by simp [member])
  have noDigit : Stops isDigit rest := follows.stops (by decide)
  have noPoint : Stops (· == .char '.') rest := follows.stops (by decide)
  have noMark : Stops isExponentMark rest := follows.stops (by decide)
  have heads := isDigit_head_exponent plain.isExponent
  have beforeExponent : Stops isDigit (points exponent ++ rest) :=
    .append (fun c first => isDigit_of_other (heads c first).1) noDigit
  have pointless : Stops (· == .char '.') (points exponent ++ rest) :=
    .append (fun c first => by simpa using (heads c first).2) noPoint
  have beforeFraction : Stops isDigit (points fraction ++ (points exponent ++ rest)) := by
    refine .append (fun c first => ?_) beforeExponent
    rcases plain.isFraction with rfl | ⟨digits, rfl, -, -⟩
    · cases first
    · cases first
      decide
  have sign : minusPart (points (Decimal.signChars negative ++ (whole ++ fraction ++ exponent)) ++
      rest) = points (Decimal.signChars negative) := by
    cases negative with
    | true => rfl
    | false =>
        obtain ⟨c, cs, rfl⟩ := List.exists_cons_of_ne_nil plain.digits
        have digit := isDigit_ne (plain.allDigits c List.mem_cons_self)
          (show Text.isDigit '-' = false by decide)
        unfold minusPart
        split
        · rename_i same
          cases same
          exact absurd rfl digit
        · rfl
  unfold numberParts
  dsimp only
  rw [sign]
  simp only [points_append, List.append_assoc]
  rw [drop_points, wholePart_points wholeAscii plain.leading plain.digits beforeFraction,
    ← List.drop_drop, drop_points, drop_points, isEmpty_points plain.digits,
    fractionPart_points plain.isFraction fractionScript beforeExponent pointless, drop_points,
    exponentPart_points plain.isExponent exponentScript noDigit noMark]
  rfl

end

/-- The number in front is what its text is read as. -/
theorem readNumber_of_parts {cs integer others rest : List CodePoint} {v : Value}
    (parts : numberParts cs = (integer, others)) (front : cs = integer ++ others ++ rest)
    (some : integer ≠ [])
    (reads : (if others.isEmpty then (readInteger ⟨integer ++ others⟩).map Value.int
      else (readFloat ⟨integer ++ others⟩).map Value.float) = .ok v) :
    Reads (readNumber cs) v rest := by
  have length : integer.length + others.length = (integer ++ others).length :=
    List.length_append.symm
  have positive := List.length_pos_of_ne_nil some
  unfold readNumber
  rw [parts]
  dsimp only
  rw [dif_pos, reads]
  · refine ⟨_, rfl, rfl, ?_⟩
    dsimp only
    rw [length, front, List.drop_left]
  · rw [length, front, List.take_left]
    exact ⟨by omega, rfl⟩

/-! ### Numbers -/

/-- A number is written as a plain numeral, whose text is read as the number. -/
structure WrittenAs (x : Number) (negative : Bool) (whole fraction exponent : List Char) :
    Prop where
  plain : IsPlain whole fraction exponent
  written : writeNumber x =
    .ok (Text.ofChars (Decimal.signChars negative ++ (whole ++ fraction ++ exponent)))
  reads : (if (points (fraction ++ exponent)).isEmpty then
      (readInteger
        (Text.ofChars (Decimal.signChars negative ++ (whole ++ fraction ++ exponent)))).map Value.int
    else
      (readFloat
        (Text.ofChars (Decimal.signChars negative ++ (whole ++ fraction ++ exponent)))).map
          Value.float) = .ok (.number x)

theorem writtenAs_int {n : Int} (short : digitCount n.natAbs ≤ maxIntegerDigits) :
    WrittenAs (.int n) (n < 0) (digitChars n.natAbs) [] [] where
  plain := by
    have leading := (Decimal.leading_digitChars n.natAbs).imp_left fun zero =>
      show digitChars n.natAbs = ['0'] by rw [zero]; rfl
    exact isPlain_whole (ascii_digitChars _) (digitChars_ne_nil _) leading (.inl rfl)
      fun c member => nomatch member
  written := by
    have fits : ¬ maxIntegerDigits < (digitChars n.natAbs).length := Nat.not_lt.mpr short
    rw [writeNumber, Number.integerText, if_neg fits, List.append_nil, List.append_nil,
      ← ofString_ofList]
    rfl
  reads := by
    have read := readInteger_signed (allDigits_digitChars n.natAbs) (digitChars_ne_nil _) short
      (n < 0)
    change _ = Except.ok (Binary.signed (n < 0) (valueOf (digitChars n.natAbs))) at read
    rw [valueOf_digitChars, Binary.signed_natAbs] at read
    simp only [List.append_nil]
    exact congrArg (Except.map Value.int) read

theorem exists_writtenAs_float {x : Float} (finite : x.isFinite = true) :
    ∃ negative whole fraction exponent, WrittenAs (.float x) negative whole fraction exponent := by
  obtain ⟨negative, m, e, bits⟩ := Binary.exists_of_isFinite finite
  obtain ⟨legal, -⟩ := Binary.assemble_of_ofFloat bits
  obtain ⟨whole, fraction, exponent, written, denotes⟩ :=
    Decimal.write_denotes Decimal.floatLayout (by decide) (Decimal.shortestOf negative m e)
  rw [Decimal.shortestOf_negative legal] at written
  obtain ⟨d, read, sign, same⟩ := denotes.readDecimal? negative
  have float := readFloat_signed denotes.plain.toIsNumeral negative read
  rw [Decimal.toFloat_of_magnitude_eq bits sign same] at float
  refine ⟨negative, whole, fraction, exponent, denotes.plain, ?_, ?_⟩
  · have chars : floatChars x = Decimal.signChars negative ++ (whole ++ fraction ++ exponent) := by
      unfold floatChars Formula.floatChars
      rw [bits]
      exact written
    rw [writeNumber, chars]
  · rw [isEmpty_points denotes.float, float]
    rfl

theorem natAbs_lt_of_bitLength_le {n : Int} {bits : Nat} (narrow : Number.bitLength n ≤ bits) :
    n.natAbs < 2 ^ bits := by
  unfold Number.bitLength at narrow
  split at narrow
  · rename_i zero
    rw [zero]
    exact Nat.two_pow_pos bits
  · exact Nat.lt_of_lt_of_le Nat.lt_log2_self (Nat.pow_le_pow_right Nat.two_pos narrow)

/-- The widest integers have fewer digits than can be written. -/
theorem digitCount_le_of_inRange {n : Int} (inRange : (Number.int n).InRange) :
    digitCount n.natAbs ≤ maxIntegerDigits := by
  have power (k : Nat) : 2 ^ (10 * k) ≤ 10 ^ (4 * k) := by
    rw [Nat.pow_mul, Nat.pow_mul]
    exact Nat.pow_le_pow_left (by decide) k
  have narrow (k : Nat) (bits : Number.bitLength n ≤ 10 * k) : n.natAbs < 10 ^ (4 * k) :=
    Nat.lt_of_lt_of_le (natAbs_lt_of_bitLength_le bits) (power k)
  exact Nat.le_trans (digitCount_le (by decide) (narrow 1000 inRange)) (by decide)

theorem exists_writtenAs {x : Number} (inRange : x.InRange) :
    ∃ negative whole fraction exponent, WrittenAs x negative whole fraction exponent := by
  cases x with
  | int n => exact ⟨_, _, _, _, writtenAs_int (digitCount_le_of_inRange inRange)⟩
  | float x => exact exists_writtenAs_float inRange

section

variable {x : Number} {negative : Bool} {whole fraction exponent : List Char}
  {rest : List CodePoint}

theorem WrittenAs.readNumber (written : WrittenAs x negative whole fraction exponent)
    (follows : Follows rest) : Reads (Json.readNumber
      (points (Decimal.signChars negative ++ (whole ++ fraction ++ exponent)) ++ rest))
        (.number x) rest := by
  refine readNumber_of_parts (numberParts_points written.plain negative follows)
    (by simp [points]) (by simp [points, written.plain.digits]) ?_
  have text :
      (⟨points (Decimal.signChars negative ++ whole) ++ points (fraction ++ exponent)⟩ : Text) =
        Text.ofChars (Decimal.signChars negative ++ (whole ++ fraction ++ exponent)) := by
    simp [points, Text.ofChars]
  rw [text]
  exact written.reads

end

end Formula.Json
