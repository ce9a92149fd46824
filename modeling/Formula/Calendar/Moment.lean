import Formula.Calendar.Date
import Formula.Calendar.Zone

/-!
Moments: a day with a time of day in microseconds, and perhaps the zone of its clock. Moments with
and without a zone are ordered each among themselves: on the clocks of one region by what they read,
else by the universal time that they mean.
-/

namespace Formula

open Calendar

structure Moment where
  date : Date
  /-- Microseconds since midnight. -/
  clock : Nat
  zone : Option Zone
  withinDay : clock < microsPerDay
deriving DecidableEq

namespace Moment

def atMidnight (d : Date) (zone : Option Zone) : Moment := ⟨d, 0, zone, by decide⟩

def hour (m : Moment) : Nat := m.clock / 3600000000

def minute (m : Moment) : Nat := m.clock / 60000000 % 60

def second (m : Moment) : Nat := m.clock / microsPerSecond % 60

def microsecond (m : Moment) : Nat := m.clock % microsPerSecond

/-- Microseconds on the moment's own clock, counted from the midnight before the first day of the
calendar by a day. -/
def reading (m : Moment) : Nat := m.date.ordinal * microsPerDay + m.clock

/-- The distance of the moment's clock from universal time. -/
def offset (m : Moment) : Option Offset := m.zone.map (·.offset m.reading)

/-- What the moment's zone is called. -/
def zoneLabel? (m : Moment) : Option String := m.zone.map (·.label m.reading)

/-- Microseconds of universal time; a clock without a zone is taken for universal time. -/
def instant (m : Moment) : Int := m.reading - (m.offset.map (·.micros)).getD 0

def ofReading? (reading : Int) (zone : Option Zone) : Option Moment :=
  match reading with
  | .ofNat n =>
      (Date.ofOrdinal? (n / microsPerDay)).map fun d =>
        ⟨d, n % microsPerDay, zone, Nat.mod_lt n (by decide)⟩
  | .negSucc _ => none

/-- Moves the clock on; where it comes to a doubtful reading, nothing is said of it. -/
def addMicros? (m : Moment) (micros : Int) : Option Moment :=
  ofReading? (m.reading + micros) (m.zone.map Zone.unsaid)

/-! ### Order -/

/-- Both moments have a zone, or neither has. -/
def comparable (a b : Moment) : Bool := a.zone.isSome == b.zone.isSome

/-- Both clocks show the time of one region. -/
def sharesRegion (a b : Moment) : Bool :=
  match a.zone, b.zone with
  | some z, some w => z.sameRegion w
  | _, _ => false

/-- The microseconds from one moment to another: on the clocks of a region what these have moved on,
whatever changes are between, else the time that has passed. -/
def until? (a b : Moment) : Option Int :=
  if a.sharesRegion b then some (b.reading - a.reading)
  else if a.comparable b then some (b.instant - a.instant)
  else none

def compare? (a b : Moment) : Option Ordering := (a.until? b).map (Ord.compare 0)

def isDoubtful (m : Moment) : Bool := m.zone.any (·.isDoubtful m.reading)

/-- Equal moments are level. Apart from the clocks of one region, a moment of a doubtful reading
equals no other. -/
def equals (a b : Moment) : Bool :=
  a.compare? b == some .eq && (a.sharesRegion b || !(a.isDoubtful || b.isDoubtful))

/-! ### Parts and texts -/

/-- The same day and time on the same clock. -/
def withDate (m : Moment) (d : Date) : Moment := { m with date := d }

/-- The first part of a time that is out of range, then the moment. -/
def ofParts (date : Date) (hour minute second micros : Nat) (zone : Option Zone) :
    Except Fault Moment :=
  let clock := ((hour * 60 + minute) * 60 + second) * microsPerSecond + micros
  if 23 < hour then .error (.partRange .hour)
  else if 59 < minute then .error (.partRange .minute)
  else if 59 < second then .error (.partRange .second)
  else if h : clock < microsPerDay then .ok ⟨date, clock, zone, h⟩
  else .error (.partRange .microsecond)

/-- The time of day; microseconds are written where there are any. -/
def clockChars (m : Moment) : List Char :=
  padZeros 2 (digitChars m.hour) ++ ':' :: padZeros 2 (digitChars m.minute) ++
    ':' :: padZeros 2 (digitChars m.second) ++
    (if m.microsecond = 0 then [] else '.' :: padZeros 6 (digitChars m.microsecond))

def chars (m : Moment) : List Char :=
  m.date.chars ++ 'T' :: m.clockChars ++ (m.offset.map Offset.chars).getD []

def text (m : Moment) : String := String.ofList m.chars

end Moment

/-- A date in a formula: a whole day, or a moment of one. -/
inductive Stamp where
  | day (d : Date)
  | moment (m : Moment)
deriving DecidableEq

namespace Stamp

def date : Stamp → Date
  | .day d => d
  | .moment m => m.date

def isMoment : Stamp → Bool
  | .day _ => false
  | .moment _ => true

/-- A day and a moment are compared as days; moments only with moments of the same kind. -/
def compare? : Stamp → Stamp → Option Ordering
  | .moment a, .moment b => a.compare? b
  | a, b => some (a.date.compare b.date)

/-- A day and a moment are equal on the day of the moment. -/
def equals : Stamp → Stamp → Bool
  | .moment a, .moment b => a.equals b
  | a, b => a.date.compare b.date == .eq

def text : Stamp → String
  | .day d => d.text
  | .moment m => m.text

def hour : Stamp → Nat
  | .day _ => 0
  | .moment m => m.hour

def minute : Stamp → Nat
  | .day _ => 0
  | .moment m => m.minute

def second : Stamp → Nat
  | .day _ => 0
  | .moment m => m.second

end Stamp

end Formula
