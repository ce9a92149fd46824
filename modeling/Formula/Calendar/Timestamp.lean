import Formula.Calendar.Reading
import Formula.Context
import Formula.Number.Numeral

/-!
The time of a request: a day, a day with a time of day, or a number of seconds or milliseconds since
the start of 1970 in universal time. Unlike dates in formulas these are written with hyphens and
colons, and their zones are named by their distance from universal time.
-/

namespace Formula.Calendar.Timestamp

def takeOneOf (allowed : List Char) : List Char → Option (List Char)
  | c :: rest => if allowed.contains c then some rest else none
  | [] => none

def readDay? (cs : List Char) : Option (Date × List Char) := do
  let (year, rest) ← takeDigits 4 cs
  let (month, rest) ← takeDigits 2 (← takeOneOf ['-'] rest)
  let (day, rest) ← takeDigits 2 (← takeOneOf ['-'] rest)
  return (← Date.ofParts? year month day, rest)

/-- Seconds and their fraction, in microseconds. Further digits of the fraction are ignored. -/
def readSeconds? (cs : List Char) : Option (Nat × Nat × List Char) :=
  match cs with
  | ':' :: rest => do
      let (second, rest) ← takeDigits 2 rest
      match takeOneOf ['.', ','] rest with
      | none => return (second, 0, rest)
      | some rest =>
          let digits := rest.takeWhile Char.isDigit
          let (micros, _) ← readFraction? digits
          if digits.isEmpty then none
          else return (second, micros, rest.drop digits.length)
  | _ => some (0, 0, cs)

def offsetOfMinutes? (minutes : Int) : Option Offset :=
  let micros := minutes * 60 * microsPerSecond
  if h : -(microsPerDay : Int) < micros ∧ micros < (microsPerDay : Int) then some ⟨micros, h⟩
  else none

/-- Nothing, `Z`, or hours and minutes with a sign. -/
def readOffset? (cs : List Char) : Option (Option Offset) :=
  match cs with
  | [] => some none
  | ['Z'] | ['z'] => some (some .universal)
  | sign :: rest => do
      let _ ← takeOneOf ['+', '-', '−'] [sign]
      let (hours, rest) ← takeDigits 2 rest
      let (minutes, rest) ← takeDigits 2 ((takeOneOf [':'] rest).getD rest)
      if 59 < minutes || !rest.isEmpty then none
      else
        let total : Int := hours * 60 + minutes
        (offsetOfMinutes? (if sign = '+' then total else -total)).map some

/-- A day, and perhaps a time of day after it. -/
def readMoment? (cs : List Char) : Option Moment := do
  let (date, rest) ← readDay? cs
  if rest.isEmpty then return .atMidnight date none
  else
    let (hour, rest) ← takeDigits 2 (← takeOneOf ['T', 't', ' ', '_'] rest)
    let (minute, rest) ← takeDigits 2 (← takeOneOf [':'] rest)
    let (second, micros, rest) ← readSeconds? rest
    let offset ← readOffset? rest
    (Moment.ofParts date hour minute second micros (offset.map .fixed)).toOption

/-- The zone of a clock that shows its distance from universal time. -/
def zoneLabel (o : Offset) : String := if o.micros = 0 then "UTC" else String.ofList o.chars

def clockOf (host : Host) (m : Moment) : Clock where
  now := m
  zoneLabel := m.offset.map zoneLabel
  hostZone := host.zoneName m

/-- Greater numbers count milliseconds. -/
def maxSeconds : Nat := 20000000000

/-- The microseconds in what a whole number of some size counts. -/
def microsPerCount (size : Nat) : Nat := if size ≤ maxSeconds then 1000000 else 1000

/-- The microseconds that a number counts. The part after the point is rounded on its own, a half
upwards. -/
def countedMicros? : Number → Option Int
  | .int n => some (n * microsPerCount n.natAbs)
  | .float x => do
      let whole ← (Number.floor (.float x)).toOption
      let unit := microsPerCount whole.natAbs
      let part ← (Number.floor (.float ((x - x.floor) * Float.ofNat unit).round)).toOption
      return whole * unit + part

def epoch : Moment := .atMidnight ⟨1970, 1, 1, by decide⟩ (some (.fixed .universal))

/-- The time some seconds or milliseconds after the start of 1970. -/
def ofNumber? (host : Host) (x : Number) : Option Clock := do
  let micros ← countedMicros? x
  (epoch.addMicros? micros).map (clockOf host)

/-- A number as a text: perhaps a sign, then digits, and perhaps a point, which no digits have to
follow. -/
def readNumber? (cs : List Char) : Option Number :=
  let (negative, body) := Numeral.splitSign cs
  let whole := body.takeWhile Char.isDigit
  let value := fun (digits : List Char) => positional (Numeral.digitValues digits)
  if whole.isEmpty then none
  else
    match body.dropWhile Char.isDigit with
    | [] => some (.int (Binary.signed negative (value whole)))
    | '.' :: fraction =>
        let d : Decimal := ⟨negative, value (whole ++ fraction), -fraction.length⟩
        if fraction.all Char.isDigit then some (.float d.toFloat) else none
    | _ => none

/-- A text is a date or a number, of which the date is tried first. -/
def ofText? (host : Host) (text : String) : Option Clock :=
  match readMoment? text.toList with
  | some m => some (clockOf host m)
  | none => (readNumber? text.toList).bind (ofNumber? host)

end Formula.Calendar.Timestamp
