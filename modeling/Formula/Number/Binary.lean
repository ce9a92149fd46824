import Formula.Number.Digits

/-!
Floats as exact values. A finite float is a whole number of units of some power of two; `nearest`
goes the other way and rounds a quotient of natural numbers to the nearest float.
-/

namespace Formula

/-- What the bits of a float stand for. -/
inductive Binary where
  /-- The value `significand · 2 ^ exponent`, negated if asked; zeros have a sign. -/
  | finite (negative : Bool) (significand : Nat) (exponent : Int)
  | infinite (negative : Bool)
  | nan
deriving DecidableEq, Repr

namespace Binary

/-- The exponent of the smallest floats. -/
def minExponent : Int := -1074

/-- Significands of normal floats lie between this and its double. -/
def hiddenBit : Nat := twoTo 52

def infinityBits : Nat := 2047 * hiddenBit

def signBit : Nat := twoTo 63

def ofBits (bits : Nat) : Binary :=
  let negative := signBit ≤ bits
  let biased := bits / hiddenBit % 2048
  let fraction := bits % hiddenBit
  if biased = 2047 then
    if fraction = 0 then .infinite negative else .nan
  else if biased = 0 then
    .finite negative fraction minExponent
  else
    .finite negative (hiddenBit + fraction) (minExponent + biased - 1)

def ofFloat (x : Float) : Binary := ofBits x.toBits.toNat

/-- A float of the given sign and magnitude bits. -/
def assemble (negative : Bool) (magnitude : Nat) : Float :=
  Float.ofBits (UInt64.ofNat (if negative then signBit + magnitude else magnitude))

/-- The whole number nearest to a quotient, the even one of two. -/
def roundQuotient (numerator denominator : Nat) : Nat :=
  let quotient := numerator / denominator
  let twice := 2 * (numerator % denominator)
  if denominator < twice ∨ (denominator = twice ∧ quotient % 2 = 1) then quotient + 1
  else quotient

/-- `numerator / denominator` in units of `2 ^ exponent`, as a quotient of natural numbers. -/
def inUnits (numerator denominator : Nat) (exponent : Int) : Nat × Nat :=
  if exponent < 0 then (numerator * twoTo (-exponent).toNat, denominator)
  else (numerator, denominator * twoTo exponent.toNat)

/-- The exponent of the float next to a positive quotient: the significand has 53 bits, unless the
quotient is too small for that. -/
def exponentFor (numerator denominator : Nat) : Int :=
  let guess : Int := (numerator.log2 : Int) - (denominator.log2 : Int) - 52
  let scaled := inUnits numerator denominator guess
  max minExponent (if scaled.1 < hiddenBit * scaled.2 then guess - 1 else guess)

/-- The float nearest to a quotient, ties to the even significand; infinite beyond the range. -/
def nearest (negative : Bool) (numerator denominator : Nat) : Float :=
  if numerator = 0 then
    assemble negative 0
  else
    let exponent := exponentFor numerator denominator
    let scaled := inUnits numerator denominator exponent
    let significand := roundQuotient scaled.1 scaled.2
    let magnitude := (exponent - minExponent).toNat * hiddenBit + significand
    assemble negative (min magnitude infinityBits)

/-- The float nearest to an integer, if it is finite. -/
def ofInt? (n : Int) : Option Float :=
  let x := nearest (n < 0) n.natAbs 1
  if x.isFinite then some x else none

def truncate (significand : Nat) (exponent : Int) : Nat :=
  if exponent < 0 then significand / twoTo (-exponent).toNat
  else significand * twoTo exponent.toNat

def isWhole : Binary → Bool
  | .finite _ significand exponent =>
      decide (0 ≤ exponent) || significand % twoTo (-exponent).toNat == 0
  | _ => false

def signed (negative : Bool) (n : Nat) : Int := if negative then -(n : Int) else n

def floor (negative : Bool) (significand : Nat) (exponent : Int) : Int :=
  if exponent < 0 then Int.fdiv (signed negative significand) (twoTo (-exponent).toNat)
  else signed negative (significand * twoTo exponent.toNat)

/-- The order of two exact values; nothing is ordered with what is no number. -/
def compare? : Binary → Binary → Option Ordering
  | .nan, _ | _, .nan => none
  | .infinite a, .infinite b => some (if a = b then .eq else if a then .lt else .gt)
  | .infinite a, .finite .. => some (if a then .lt else .gt)
  | .finite .., .infinite b => some (if b then .gt else .lt)
  | .finite s m p, .finite t n q =>
      let unit := min p q
      let left := signed s (m * twoTo (p - unit).toNat)
      let right := signed t (n * twoTo (q - unit).toNat)
      some (Ord.compare left right)

def ofInt (n : Int) : Binary := .finite (n < 0) n.natAbs 0

end Binary

end Formula
