import Formula.Fault
import Formula.Number.Decimal
import Formula.Text.Blank
import Formula.Text.Digit

/-!
Reading numbers from text. Digits of every script count, single underscores may stand between
digits, and blanks around the number are ignored.
-/

namespace Formula.Numeral

open Formula.Text

/-- The blanks allowed around a number; the separating controls are not among them. -/
def isPadding (c : Char) : Bool := isBlank c && !(0x1C ≤ c.toNat && c.toNat ≤ 0x1F)

/-- The characters of a text without the blanks around them. A half of a surrogate pair is no part
of a number, and neither is the character that shows it. -/
def unpadded (text : Text) : List Char := trimEnds isPadding text.shownChars

/-- The sign in front, and what follows it. -/
def splitSign : List Char → Bool × List Char
  | '-' :: rest => (true, rest)
  | '+' :: rest => (false, rest)
  | cs => (false, cs)

def digitValues (cs : List Char) : List Nat := cs.filterMap digitValue?

/-- Every underscore stands between two digits. -/
def underscoresSit (previous : Bool) : List Char → Bool
  | [] => true
  | '_' :: rest => previous && (rest.head?.any isDigit) && underscoresSit false rest
  | c :: rest => underscoresSit (isDigit c) rest

def isDigitOrUnderscore (c : Char) : Bool := c == '_' || isDigit c

/-- Reads an integer. Too many digits are reported even when something foreign follows them. -/
def readInteger (text : Text) : Except Fault Int :=
  let (negative, body) := splitSign (unpadded text)
  let numeral := body.takeWhile isDigitOrUnderscore
  let digits := digitValues numeral
  if digits.isEmpty || !underscoresSit false numeral then
    .error (.invalidInteger text)
  else if maxIntegerDigits < digits.length then
    .error (.digitsToRead digits.length)
  else if !(body.dropWhile isDigitOrUnderscore).isEmpty then
    .error (.invalidInteger text)
  else
    .ok (Binary.signed negative (positional digits))

/-- The exponent part of a decimal numeral, nothing being zero. -/
def readExponent? : List Char → Option Int
  | [] => some 0
  | e :: rest =>
      let (negative, digits) := splitSign rest
      if (e == 'e' || e == 'E') && !digits.isEmpty && digits.all isDigit then
        some (Binary.signed negative (positional (digitValues digits)))
      else
        none

/-- The digits after a point, and what follows them. -/
def splitFraction : List Char → List Char × List Char
  | '.' :: rest => (rest.takeWhile isDigit, rest.dropWhile isDigit)
  | cs => ([], cs)

/-- An unsigned decimal numeral without underscores: digits, perhaps with a point among them, and
perhaps an exponent. -/
def readDecimal? (negative : Bool) (cs : List Char) : Option Decimal :=
  let whole := cs.takeWhile isDigit
  let (fraction, rest) := splitFraction (cs.dropWhile isDigit)
  if whole.isEmpty && fraction.isEmpty then none
  else
    (readExponent? rest).map fun exponent =>
      ⟨negative, positional (digitValues (whole ++ fraction)), exponent - fraction.length⟩

def infinityNames : List String := ["inf", "infinity"]

/-- Reads a float: a decimal numeral, or the name of an infinity or of what is no number. -/
def readFloat (text : Text) : Except Fault Float :=
  let body := unpadded text
  let (negative, unsigned) := splitSign (body.filter (· != '_'))
  let word := String.ofList (unsigned.map Char.toLower)
  if !underscoresSit false body then
    .error (.invalidFloat text)
  else if word ∈ infinityNames then
    .ok (Binary.assemble negative Binary.infinityBits)
  else if word = "nan" then
    .ok (Float.ofBits 0x7FF8000000000000)
  else
    match readDecimal? negative unsigned with
    | some d => .ok d.toFloat
    | none => .error (.invalidFloat text)

/-- A numeral with a point or an exponent mark stands for a float. -/
def isFloatNumeral (raw : String) : Bool := raw.toList.any fun c => c == '.' || c == 'e' || c == 'E'

end Formula.Numeral
