/-!
Decimal digits of natural numbers, and the powers that they stand for.
-/

namespace Formula

def twoTo (exponent : Nat) : Nat := Nat.pow 2 exponent

def tenTo (exponent : Nat) : Nat := Nat.pow 10 exponent

/-- The decimal digits of a number as characters, `0` for zero. -/
def digitChars (n : Nat) : List Char := Nat.toDigits 10 n

/-- The count of decimal digits, one for zero. -/
def digitCount (n : Nat) : Nat := (digitChars n).length

/-- Zeros in front until the text has `width` characters. -/
def padZeros (width : Nat) (digits : List Char) : List Char :=
  List.replicate (width - digits.length) '0' ++ digits

/-- The value of digit values, the most significant first. -/
def positional (digits : List Nat) : Nat := digits.foldl (fun n d => n * 10 + d) 0

end Formula
