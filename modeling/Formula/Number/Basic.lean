import Formula.Fault
import Formula.Number.Decimal

/-!
The numbers of formulas: integers of any size and floats. Operations on two integers are exact;
an integer that meets a float is rounded to a float first. Comparisons never round.
-/

namespace Formula

inductive Number where
  | int (n : Int)
  | float (x : Float)

namespace Number

/-- Results of operators and functions have at most this many bits. -/
def maxBits : Nat := 10000

/-- The number of binary digits of the magnitude, none for zero. -/
def bitLength (n : Int) : Nat := if n = 0 then 0 else n.natAbs.log2 + 1

/-- Refuses infinities, what is no number, and integers that are too wide. -/
def check : Number → Except Fault Number
  | .int n => if maxBits < bitLength n then .error .integerTooLarge else .ok (.int n)
  | .float x => if x.isFinite then .ok (.float x) else .error .notFinite

def toFloat : Number → Except Fault Float
  | .int n =>
      match Binary.ofInt? n with
      | some x => .ok x
      | none => .error .integerTooLargeForFloat
  | .float x => .ok x

def exact : Number → Binary
  | .int n => Binary.ofInt n
  | .float x => Binary.ofFloat x

/-- Compares exact values; nothing is ordered with what is no number. -/
def compare? (a b : Number) : Option Ordering := a.exact.compare? b.exact

def equals (a b : Number) : Bool := compare? a b == some .eq

def isZero (a : Number) : Bool := a.equals (.int 0)

def isNegative (a : Number) : Bool := compare? a (.int 0) == some .lt

/-- Applies one of two operations, depending on whether both numbers are integers. -/
def combine (onInts : Int → Int → Except Fault Number)
    (onFloats : Float → Float → Except Fault Number) (a b : Number) : Except Fault Number :=
  match a, b with
  | .int m, .int n => onInts m n
  | a, b => do
      let x ← a.toFloat
      let y ← b.toFloat
      onFloats x y

def add : Number → Number → Except Fault Number :=
  combine (fun m n => .ok (.int (m + n))) (fun x y => .ok (.float (x + y)))

def subtract : Number → Number → Except Fault Number :=
  combine (fun m n => .ok (.int (m - n))) (fun x y => .ok (.float (x - y)))

/-- Products of integers are sized from their factors before anything is computed. -/
def multiply (a b : Number) : Except Fault Number :=
  combine
    (fun m n =>
      if maxBits + 1 < bitLength m + bitLength n then .error .integerTooLarge
      else check (.int (m * n)))
    (fun x y => check (.float (x * y)))
    a b

/-- The float nearest to the quotient of two integers. A zero takes the sign of the divisor. -/
def quotient (m n : Int) : Except Fault Float :=
  let x := Binary.nearest ((m < 0) != (n < 0)) m.natAbs n.natAbs
  if x.isFinite then .ok x else .error .quotientTooLarge

/-- Divides by a nonzero number. A quotient of integers that comes out even is an integer. -/
def divide : Number → Number → Except Fault Number :=
  combine
    (fun m n =>
      if m.fmod n = 0 then .ok (.int (m.fdiv n))
      else do check (.float (← quotient m n)))
    (fun x y => check (.float (x / y)))

def nan : Float := Float.ofBits 0x7FF8000000000000

/-- A value of the given sign in units of `2 ^ exponent`. -/
def scaled (negative : Bool) (units : Nat) (exponent : Int) : Float :=
  let parts := Binary.inUnits units 1 (-exponent)
  Binary.nearest negative parts.1 parts.2

/-- Moves a remainder to the sign of the divisor `y`. -/
def alignRemainder (remainder y : Float) (divisorNegative : Bool) : Float :=
  if remainder == 0 then Binary.assemble divisorNegative 0
  else if (remainder < 0) = (y < 0) then remainder
  else remainder + y

/-- The remainder with the sign of the divisor, from the exact remainder of the magnitudes. -/
def floatRemainder (x y : Float) : Float :=
  match Binary.ofFloat x, Binary.ofFloat y with
  | .finite s m p, .finite t n q =>
      let unit := min p q
      let units := (m * twoTo (p - unit).toNat) % (n * twoTo (q - unit).toNat)
      alignRemainder (scaled s units unit) y t
  | .finite .., .infinite t => alignRemainder x y t
  | _, _ => nan

/-- The remainder of a division by a nonzero number, with the sign of the divisor. -/
def remainder : Number → Number → Except Fault Number :=
  combine (fun m n => .ok (.int (m.fmod n))) (fun x y => .ok (.float (floatRemainder x y)))

/-! ### Powers -/

/-- A whole number that is not twice a whole number. -/
def isOddWhole : Binary → Bool
  | .finite _ m e => Binary.isWhole (.finite false m e) && Binary.truncate m e % 2 == 1
  | _ => false

/-- A negative base has no real power to a fractional exponent; the complex one is reported apart
when its magnitude is out of range. -/
def complexPower (magnitude : Float) (exponent : Float) : Fault :=
  if (magnitude.pow exponent).isInf then .complexOverflow else .notReal

def finitePower (base exponent : Float) : Except Fault Float :=
  let magnitude := base.abs
  if base < 0 && !(Binary.ofFloat exponent).isWhole then
    .error (complexPower magnitude exponent)
  else
    let negate := base < 0 && isOddWhole (Binary.ofFloat exponent)
    let power := if magnitude == 1 then 1 else magnitude.pow exponent
    if power.isInf then .error .powerOverflow
    else .ok (if negate then -power else power)

/-- Powers of floats. Whatever is raised to zero gives one, and so does one raised to anything. -/
def floatPower (base exponent : Float) : Except Fault Float :=
  if exponent == 0 then .ok 1
  else if base.isNaN then .ok base
  else if exponent.isNaN then .ok (if base == 1 then 1 else exponent)
  else if exponent.isInf then
    if base.abs == 1 then .ok 1
    else if (0 < exponent) = (1 < base.abs) then .ok exponent.abs
    else .ok 0
  else
    let odd := isOddWhole (Binary.ofFloat exponent)
    if base.isInf then
      if 0 < exponent then .ok (if odd then base else base.abs)
      else .ok (if odd && base < 0 then -0.0 else 0)
    else if base == 0 then
      if exponent < 0 then .error .zeroToNegativePower
      else .ok (if odd then base else 0)
    else
      finitePower base exponent

/-- A natural power of an integer; those of zero and of units need no multiplication. -/
def integerPower (base : Int) (exponent : Nat) : Int :=
  if exponent = 0 then 1
  else if base = 0 then 0
  else if base.natAbs = 1 then (if exponent % 2 = 0 then 1 else base)
  else Int.pow base exponent

/-- The fewest bits that a power can have are more than allowed. -/
def powerTooWide (base : Int) (exponent : Nat) : Bool :=
  decide (base ≠ 0) && decide (0 < exponent) &&
    decide (maxBits < (bitLength base - 1) * exponent)

/-- Powers of integers are sized from the operands before anything is computed; a negative exponent
gives a float. -/
def power (a b : Number) : Except Fault Number :=
  match a, b with
  | .int base, .int (.ofNat exponent) =>
      if powerTooWide base exponent then .error .integerTooLarge
      else check (.int (integerPower base exponent))
  | a, b => do
      let x ← a.toFloat
      let y ← b.toFloat
      check (.float (← floatPower x y))

/-! ### Other functions -/

def negate : Number → Number
  | .int n => .int (-n)
  | .float x => .float (-x)

def abs : Number → Number
  | .int n => .int n.natAbs
  | .float x => .float x.abs

def floor : Number → Except Fault Int
  | .int n => .ok n
  | .float x =>
      match Binary.ofFloat x with
      | .finite negative significand exponent => .ok (Binary.floor negative significand exponent)
      | .infinite _ => .error .infinityToInteger
      | .nan => .error .nanToInteger

def ceil (a : Number) : Except Fault Int := (floor a.negate).map (- ·)

def squareRoot (a : Number) : Except Fault Number := do
  if a.isNegative then .error .negativeRoot
  else return .float (← a.toFloat).sqrt

/-- The integer that a number is equal to. -/
def wholeValue? : Number → Option Int
  | .int n => some n
  | .float x =>
      match Binary.ofFloat x with
      | .finite negative significand exponent =>
          if (Binary.finite negative significand exponent).isWhole then
            some (Binary.signed negative (Binary.truncate significand exponent))
          else none
      | _ => none

/-! ### Decimals and text -/

/-- The digits of an integer that is not too long to be written. -/
def integerText (n : Int) : Except Fault String :=
  let digits := digitChars n.natAbs
  if maxIntegerDigits < digits.length then .error .digitsToWrite
  else .ok (String.ofList (Decimal.signChars (n < 0) ++ digits))

def toDecimal : Number → Except Fault Decimal
  | .int n =>
      if maxIntegerDigits < digitCount n.natAbs then .error .digitsToWrite
      else .ok (Decimal.ofInt n)
  | .float x =>
      match Binary.ofFloat x with
      | .finite negative significand exponent =>
          .ok (Decimal.shortestOf negative significand exponent)
      | _ => .error .notOrdered

/-- Rounds half away from zero to decimal places. -/
def roundTo (a : Number) (places : Int) : Except Fault Decimal := do
  (← a.toDecimal).roundTo places

/-- The text of a number; whole floats are written without a fraction. -/
def text : Number → Except Fault String
  | .int n => integerText n
  | .float x =>
      match (Number.float x).wholeValue? with
      | some n => integerText n
      | none => .ok (floatText x)

/-- The text of a number that keeps floats apart from integers. -/
def literalText : Number → Except Fault String
  | .int n => integerText n
  | .float x => .ok (floatText x)

end Number

end Formula
