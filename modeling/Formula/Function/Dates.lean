import Formula.Calendar.Reading
import Formula.Calendar.Shift
import Formula.Function.Calling

/-!
Dates: the clock, parts of dates, and distances between them. A text in one of the written forms of
a date counts as the date.
-/

namespace Formula.Dates

/-- The date that a value is or is the text of. -/
def ofValue (v : Value) : Except Fault Stamp :=
  match v with
  | .date s => .ok s
  | .text s => Calendar.readStamp s
  | v => .error (.notADate v.typeName)

/-- A part of a date, null for null. -/
def part (f : Stamp → Nat) (v : Value) : Except Fault Value :=
  if v.isNull then .ok .null else (ofValue v).map fun s => .ofNat (f s)

def year : Value → Except Fault Value := part (·.date.year)

def month : Value → Except Fault Value := part (·.date.month)

def day : Value → Except Fault Value := part (·.date.day)

def weekday : Value → Except Fault Value := part (·.date.weekday)

def hour : Value → Except Fault Value := part Stamp.hour

def minute : Value → Except Fault Value := part Stamp.minute

/-- The day of a year, a month and a day, null if one of them is. -/
def ofParts (year month day : Value) : Except Fault Value :=
  match year.number?, month.number?, day.number? with
  | some y, some m, some d => do
      let y ← y.toWhole "year"
      let m ← m.toWhole "month"
      let d ← d.toWhole "day"
      return .date (.day (← Calendar.dateOfInts y m d))
  | _, _, _ => .ok .null

def add (start amount unit : Value) : Except Fault Value :=
  match start, amount.number? with
  | .null, _ | _, none => .ok .null
  | start, some x => do
      let s ← ofValue start
      let unit ← Calendar.TimeUnit.ofName unit.textOrEmpty
      match unit.seconds? with
      | some seconds => return .date (← s.addUnits x unit seconds)
      | none =>
          let n ← x.toWhole "amount"
          return .date (← s.addMonths (if unit = .year then n * 12 else n))

def difference (start stop unit : Value) : Except Fault Value :=
  if start.isNull || stop.isNull then .ok .null
  else do
    let first ← ofValue start
    let second ← ofValue stop
    let unit ← Calendar.TimeUnit.ofName unit.textOrEmpty
    return .int (← first.unitsUntil second unit)

end Formula.Dates
