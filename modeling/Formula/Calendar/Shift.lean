import Formula.Calendar.Moment
import Formula.Number.Basic
import Formula.Text.Blank
import Formula.Text.Case

/-!
Moving dates by an amount of some unit, and counting the units between two dates. Years and months
keep the day of the month as far as the month has it; the other units have fixed lengths.
-/

namespace Formula

namespace Calendar

inductive TimeUnit where
  | year
  | month
  | week
  | day
  | hour
  | minute
  | second
deriving DecidableEq, Repr

def TimeUnit.name : TimeUnit → String
  | .year => "year"
  | .month => "month"
  | .week => "week"
  | .day => "day"
  | .hour => "hour"
  | .minute => "minute"
  | .second => "second"

def TimeUnit.all : List TimeUnit := [.year, .month, .week, .day, .hour, .minute, .second]

/-- The length of a unit; years and months have none. -/
def TimeUnit.seconds? : TimeUnit → Option Nat
  | .year | .month => none
  | .week => some 604800
  | .day => some 86400
  | .hour => some 3600
  | .minute => some 60
  | .second => some 1

/-- A plural loses its `s`. -/
def singular (name : Text) : Text :=
  if name.points.getLast? = some (.char 's') then ⟨name.points.dropLast⟩ else name

/-- The unit of a name in any case, singular or plural; days for an empty name. -/
def TimeUnit.ofName (name : Text) : Except Fault TimeUnit :=
  if name.isEmpty then .ok .day
  else
    let word := singular name.trim.lower
    match TimeUnit.all.find? (Text.ofString ·.name == word) with
    | some unit => .ok unit
    | none => .error (.unknownUnit name)

/-! ### Parts of dates from integers -/

def maxInt : Int := 2147483647

def minInt : Int := -2147483648

def maxLong : Int := 9223372036854775807

def minLong : Int := -9223372036854775808

/-- A part of a date is a machine integer before it is anything else. -/
def asPart (n : Int) : Except Fault Int :=
  if n < minLong ∨ maxLong < n then .error .beyondLong
  else if maxInt < n then .error .aboveSignedInt
  else if n < minInt then .error .belowSignedInt
  else .ok n

def dateOfInts (year month day : Int) : Except Fault Date := do
  let year ← asPart year
  let month ← asPart month
  let day ← asPart day
  Date.ofParts year month day

/-! ### Months -/

/-- Months since the start of year 0. -/
def monthIndex (d : Date) : Int := (d.year : Int) * 12 + d.month - 1

/-- The day some months later; the day of the month is clamped to the end of the month. -/
def shiftMonths (d : Date) (months : Int) : Except Fault Date := do
  let total := monthIndex d + months
  let year ← asPart (total.fdiv 12)
  let month := (total.fmod 12).toNat + 1
  if year < minYear ∨ maxYear < year then .error (.yearRange year)
  else Date.ofParts year month (min d.day (daysInMonth year.toNat month))

end Calendar

open Calendar

namespace Stamp

def addMonths (s : Stamp) (months : Int) : Except Fault Stamp := do
  let date ← shiftMonths s.date months
  match s with
  | .day _ => return .day date
  | .moment m => return .moment (m.withDate date)

/-- The order of two days or two moments, which must be of one kind. -/
def compareStrictly (a b : Stamp) : Except Fault Ordering :=
  match a.compare? b with
  | some order => .ok order
  | none => .error .mixedComparison

/-- Whole months from one date to another of the same kind, negative when the other is earlier. -/
def monthsUntil (start stop : Stamp) : Except Fault Int := do
  let months := monthIndex stop.date - monthIndex start.date
  if 0 < months then
    let reached ← start.addMonths months
    return if (← reached.compareStrictly stop) = .gt then months - 1 else months
  else if months < 0 then
    let reached ← start.addMonths months
    return if (← reached.compareStrictly stop) = .lt then months + 1 else months
  else
    return 0

/-! ### Fixed lengths -/

/-- No span of time is longer than this number of days. -/
def maxSpanDays : Int := 999999999

/-- The days of a span of time, which are limited before any date is. -/
def checkSpanDays (days : Int) : Except Fault Unit :=
  if days < minInt ∨ maxInt < days then .error .beyondInt
  else if maxSpanDays < days.natAbs then .error (.tooManyDays days)
  else .ok ()

def addDays (d : Date) (days : Int) : Except Fault Date := do
  checkSpanDays days
  match d.addDays? days with
  | some later => .ok later
  | none => .error .dateRange

def addMicros (m : Moment) (micros : Int) : Except Fault Moment := do
  checkSpanDays (micros.fdiv microsPerDay)
  match m.addMicros? micros with
  | some later => .ok later
  | none => .error .dateRange

/-- The integer nearest to `base + part`, the even one of two; `part` is less than one. -/
def addRounded (base : Int) (part : Float) : Int :=
  let size := part.abs
  if size < 0.5 ∨ (size == 0.5 ∧ base % 2 = 0) then base
  else if part < 0 then base - 1
  else base + 1

/-- The whole part of a finite float, toward zero, and the rest. -/
def splitWhole (x : Float) : Except Fault (Int × Float) :=
  match Binary.ofFloat x with
  | .finite negative significand exponent =>
      let whole := Binary.truncate significand exponent
      .ok (Binary.signed negative whole, x - Binary.nearest negative whole 1)
  | .infinite _ => .error .infinityToInteger
  | .nan => .error .nanToInteger

/-- Microseconds of a number of seconds. Whole seconds are exact; the rest is rounded. -/
def microsOfSeconds : Number → Except Fault Int
  | .int n => .ok (n * microsPerSecond)
  | .float x => do
      let (whole, rest) ← splitWhole x
      let (micros, part) ← splitWhole (1000000 * rest)
      return addRounded (whole * microsPerSecond + micros) part

def secondsOf (amount : Number) (unitSeconds : Nat) : Except Fault Number :=
  match amount with
  | .int n => .ok (.int (n * unitSeconds))
  | .float x => .ok (.float (x * Float.ofNat unitSeconds))

def toMoment (s : Stamp) (zone : Option Zone) : Moment :=
  match s with
  | .day d => Moment.atMidnight d zone
  | .moment m => m

/-- Whole days and weeks keep a day a day; other amounts of time make it a moment. -/
def addUnits (s : Stamp) (amount : Number) (unit : TimeUnit) (unitSeconds : Nat) :
    Except Fault Stamp :=
  match s, amount, unit with
  | .day d, .int n, .day => (addDays d n).map .day
  | .day d, .int n, .week => (addDays d (n * 7)).map .day
  | s, amount, _ => do
      let micros ← microsOfSeconds (← secondsOf amount unitSeconds)
      return .moment (← addMicros (s.toMoment none) micros)

/-! ### Differences -/

/-- A day and a moment become moments of one zone. -/
def align (a b : Stamp) : Stamp × Stamp :=
  match a, b with
  | .day d, .moment m => (.moment (Moment.atMidnight d (m.zone.map Zone.unsaid)), .moment m)
  | .moment m, .day d => (.moment m, .moment (Moment.atMidnight d (m.zone.map Zone.unsaid)))
  | a, b => (a, b)

def microsUntil : Stamp → Stamp → Except Fault Int
  | .moment a, .moment b =>
      match a.until? b with
      | some micros => .ok micros
      | none => .error .mixedSubtraction
  | a, b => .ok (((b.date.ordinal : Int) - a.date.ordinal) * microsPerDay)

/-- Units of a fixed length, rounded down; the quotient is one of floats. -/
def unitsOf (micros : Int) (unitSeconds : Nat) : Int :=
  let seconds := Binary.nearest (micros < 0) micros.natAbs microsPerSecond
  match Binary.ofFloat (seconds / Float.ofNat unitSeconds) with
  | .finite negative significand exponent => Binary.floor negative significand exponent
  | _ => 0

def unitsUntil (start stop : Stamp) (unit : TimeUnit) : Except Fault Int := do
  let (first, second) := start.align stop
  match unit.seconds? with
  | some unitSeconds => return unitsOf (← first.microsUntil second) unitSeconds
  | none =>
      let months ← first.monthsUntil second
      return if unit = .year then months.tdiv 12 else months

end Stamp

end Formula
