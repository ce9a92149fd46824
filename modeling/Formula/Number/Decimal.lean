import Formula.Fault
import Formula.Number.Binary
import Formula.Number.Digits

/-!
Decimal numbers: the shortest decimal of a float, rounding to decimal places, and the layouts in
which decimals are written.
-/

namespace Formula

/-- The value `coefficient · tenTo exponent`, negated if asked. -/
structure Decimal where
  negative : Bool
  coefficient : Nat
  exponent : Int
deriving DecidableEq, Repr

namespace Decimal

def ofInt (n : Int) : Decimal := ⟨n < 0, n.natAbs, 0⟩

/-- The exponent of the first digit of a nonzero decimal. -/
def leadingExponent (d : Decimal) : Int := (digitCount d.coefficient : Int) - 1 + d.exponent

/-- The float nearest to a decimal. Exponents far outside the range are not computed. -/
def toFloat (d : Decimal) : Float :=
  if d.coefficient = 0 ∨ d.leadingExponent < -400 then
    Binary.assemble d.negative 0
  else if 400 < d.leadingExponent then
    Binary.assemble d.negative Binary.infinityBits
  else if d.exponent < 0 then
    Binary.nearest d.negative d.coefficient (tenTo (-d.exponent).toNat)
  else
    Binary.nearest d.negative (d.coefficient * tenTo d.exponent.toNat) 1

/-- Without the zeros at the end of a nonzero coefficient. -/
def stripZeros (negative : Bool) : (coefficient : Nat) → (exponent : Int) → Decimal
  | 0, exponent => ⟨negative, 0, exponent⟩
  | n + 1, exponent =>
      if (n + 1) % 10 = 0 then stripZeros negative ((n + 1) / 10) (exponent + 1)
      else ⟨negative, n + 1, exponent⟩
termination_by coefficient => coefficient

/-! ### The shortest decimal of a float -/

/-- The reals that round to a float, in units of `2 ^ exponent`: from `low` to `high`, the ends
included for an even significand. -/
structure Neighbourhood where
  low : Nat
  value : Nat
  high : Nat
  exponent : Int
  closed : Bool

/-- Half way to the two neighbours. Below a power of two the neighbour is nearer. -/
def neighbourhood (significand : Nat) (exponent : Int) : Neighbourhood :=
  let narrow := significand = Binary.hiddenBit ∧ exponent ≠ Binary.minExponent
  { low := 4 * significand - (if narrow then 1 else 2)
    value := 4 * significand
    high := 4 * significand + 2
    exponent := exponent - 2
    closed := significand % 2 = 0 }

/-- `n · 2 ^ binary / tenTo decimal` as a quotient of natural numbers. -/
def onGrid (n : Nat) (binary decimal : Int) : Nat × Nat :=
  (n * twoTo binary.toNat * tenTo (-decimal).toNat, twoTo (-binary).toNat * tenTo decimal.toNat)

/-- `n · tenTo decimal` lies in the neighbourhood. -/
def Neighbourhood.contains (r : Neighbourhood) (n : Nat) (decimal : Int) : Bool :=
  let lowest := onGrid r.low r.exponent decimal
  let highest := onGrid r.high r.exponent decimal
  if r.closed then
    decide (lowest.1 ≤ n * lowest.2) && decide (n * highest.2 ≤ highest.1)
  else
    decide (lowest.1 < n * lowest.2) && decide (n * highest.2 < highest.1)

/-- The point of the grid of `tenTo decimal` that lies in the neighbourhood, the nearer of two; of
two equally near ones the even. -/
def Neighbourhood.pointOn? (r : Neighbourhood) (decimal : Int) : Option Nat :=
  let scaled := onGrid r.value r.exponent decimal
  let below := scaled.1 / scaled.2
  let twice := 2 * (scaled.1 % scaled.2)
  match r.contains below decimal, r.contains (below + 1) decimal with
  | true, true =>
      if scaled.2 < twice ∨ (scaled.2 = twice ∧ below % 2 = 1) then some (below + 1)
      else some below
  | true, false => some below
  | false, true => some (below + 1)
  | false, false => none

/-- The exponent of the first decimal digit of `n · 2 ^ exponent`, for positive `n`. -/
def firstExponent (n : Nat) (exponent : Int) : Int :=
  let guess := ((n.log2 : Int) + exponent) * 30103 / 100000
  let atGuess := onGrid n exponent guess
  let above := onGrid n exponent (guess + 1)
  if atGuess.1 < atGuess.2 then guess - 1
  else if above.2 ≤ above.1 then guess + 1
  else guess

/-- Seventeen digits tell every float from its neighbours. -/
def maxDigits : Nat := 17

/-- The decimal with the fewest digits that rounds to the float, the nearest of those. -/
def shortestOf (negative : Bool) (significand : Nat) (exponent : Int) : Decimal :=
  if significand = 0 then
    ⟨negative, 0, -1⟩
  else
    let region := neighbourhood significand exponent
    let first := firstExponent region.value region.exponent
    let grids := (List.range maxDigits).map fun (digits : Nat) => first - (digits : Int)
    match grids.findSome? fun grid => (region.pointOn? grid).map (·, grid) with
    | some (coefficient, grid) => stripZeros negative coefficient grid
    | none => ⟨negative, significand, exponent⟩

/-! ### Rounding -/

/-- Half away from zero, in units of `10 ^ -places`. -/
def roundHalfUp (coefficient : Nat) (drop : Nat) : Nat :=
  (2 * coefficient + tenTo drop) / (2 * tenTo drop)

/-- The digits that coefficients may have, unless more are asked for. -/
def usualDigits : Nat := 28

/-- Exponents are not greater than this; how far below zero they may be depends on the digits. -/
def maxExponent : Int := 999999

/-- The smallest exponent of a coefficient with so many digits. -/
def leastExponent (digits : Nat) : Int := 1 - maxExponent - digits

/-- Rounds half away from zero to a multiple of `tenTo exponent`. A coefficient of more than `digits`
digits is refused, and an exponent out of range. -/
def quantize (d : Decimal) (exponent : Int) (digits : Nat) : Except Fault Decimal :=
  let shifted := d.coefficient * tenTo (d.exponent - exponent).toNat
  let coefficient := roundHalfUp shifted (exponent - d.exponent).toNat
  if maxExponent < exponent ∨ exponent < leastExponent digits ∨ digits < digitCount coefficient then
    .error .decimalOutOfReach
  else
    .ok ⟨d.negative, coefficient, exponent⟩

/-- Rounds half away from zero to `places` decimal places, with as many digits as that may take. A
decimal without digits beyond them is returned as it is; one that is less than half a unit away
becomes an unsigned zero. -/
def roundTo (d : Decimal) (places : Int) : Except Fault Decimal :=
  if -places ≤ d.exponent then .ok d
  else if d.coefficient = 0 ∨ places < -d.leadingExponent - 1 then .ok ⟨false, 0, 0⟩
  else d.quantize (-places) (max usualDigits (d.leadingExponent + places + 2).toNat)

/-- The value of a decimal that is a whole number, toward zero otherwise. -/
def toInt (d : Decimal) : Int :=
  let magnitude :=
    if d.exponent < 0 then d.coefficient / tenTo (-d.exponent).toNat
    else d.coefficient * tenTo d.exponent.toNat
  Binary.signed d.negative magnitude

/-! ### Layouts -/

/-- Digits with a point after the first `whole` of them. -/
def insertPoint (whole : Nat) (digits : List Char) : List Char :=
  digits.take whole ++ '.' :: digits.drop whole

def signChars (negative : Bool) : List Char := if negative then ['-'] else []

/-- How floats are written. -/
structure Layout where
  /-- Exponents of the first digit that are written without an exponent part. -/
  lowest : Int
  highest : Int
  /-- The fewest digits of the exponent part. -/
  exponentDigits : Nat

/-- Floats have a point or an exponent; exponents from -4 to 15 are written out, others have at
least two digits and a sign. -/
def floatLayout : Layout := ⟨-4, 15, 2⟩

def exponentChars (layout : Layout) (exponent : Int) : List Char :=
  'e' :: (if exponent < 0 then '-' else '+') ::
    padZeros layout.exponentDigits (digitChars exponent.natAbs)

/-- Digits written out, with at least one digit on both sides of the point. -/
def plainChars (digits : List Char) (first : Int) : List Char :=
  if first < 0 then
    '0' :: '.' :: (List.replicate (-first - 1).toNat '0' ++ digits)
  else
    let whole := first.toNat + 1
    if digits.length ≤ whole then
      digits ++ List.replicate (whole - digits.length) '0' ++ ['.', '0']
    else
      insertPoint whole digits

def scientificChars (layout : Layout) (digits : List Char) (first : Int) : List Char :=
  (if digits.length ≤ 1 then digits else insertPoint 1 digits) ++ exponentChars layout first

def write (layout : Layout) (d : Decimal) : List Char :=
  let digits := digitChars d.coefficient
  let first := if d.coefficient = 0 then 0 else d.leadingExponent
  signChars d.negative ++
    if layout.lowest ≤ first ∧ first ≤ layout.highest then plainChars digits first
    else scientificChars layout digits first

/-- A separator before every group of three digits but the first. -/
def groupThrees (separator : Char) (digits : List Char) : List Char :=
  match digits with
  | [] => []
  | d :: rest =>
      if rest.length % 3 = 0 ∧ rest ≠ [] then d :: separator :: groupThrees separator rest
      else d :: groupThrees separator rest

/-- The whole part of a decimal with at least as many digits beyond the point as `places`, and the
digits of its fraction. -/
def fixedParts (d : Decimal) (places : Nat) : List Char × List Char :=
  let scaled := d.coefficient * tenTo (d.exponent + places).toNat
  let digits := padZeros (places + 1) (digitChars scaled)
  (digits.take (digits.length - places), digits.drop (digits.length - places))

/-- A decimal that has no digits beyond `places`, with all its places written out. -/
def writeFixed (d : Decimal) (places : Nat) (grouped : Bool) : List Char :=
  let (whole, fraction) := fixedParts d places
  signChars d.negative ++ (if grouped then groupThrees ',' whole else whole) ++
    if places = 0 then [] else '.' :: fraction

end Decimal

/-- A float as it is written in messages and texts. -/
def floatChars (x : Float) : List Char :=
  match Binary.ofFloat x with
  | .finite negative significand exponent =>
      (Decimal.shortestOf negative significand exponent).write Decimal.floatLayout
  | .infinite negative => Decimal.signChars negative ++ ['i', 'n', 'f']
  | .nan => ['n', 'a', 'n']

def floatText (x : Float) : String := String.ofList (floatChars x)

end Formula
