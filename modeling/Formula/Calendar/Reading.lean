import Formula.Calendar.Moment
import Formula.Text.Blank
import Formula.Text.Search

/-!
Reading dates and moments in the forms of the international standard: years, months and days, or
years, weeks and weekdays, with hyphens or without; after any single character a time of day, with
colons or without, with fractions of a second, and with the distance from universal time.
-/

namespace Formula.Calendar

/-- A number of exactly `count` digits, and what follows it. -/
def takeDigits (count : Nat) (cs : List Char) : Option (Nat × List Char) :=
  let digits := cs.take count
  if digits.length = count ∧ digits.all Char.isDigit then
    some (positional (digits.map fun c => c.toNat - '0'.toNat), cs.drop count)
  else none

/-! ### Days -/

/-- The ordinal of the Monday of a year's first week, which is the week of its first Thursday. -/
def firstMonday (year : Nat) : Nat :=
  let newYear := daysBeforeYear year + 1
  let sinceMonday := (newYear + 6) % 7
  if sinceMonday > 3 then newYear + 7 - sinceMonday else newYear - sinceMonday

/-- A year has 53 weeks if it starts on a Thursday, or is a leap year and starts on a Wednesday. -/
def hasLongWeeks (year : Nat) : Bool :=
  let newYear := (daysBeforeYear year + 1) % 7
  newYear == 4 || (newYear == 3 && isLeap year)

/-- Year, month and day as they are written, not yet checked against the calendar. -/
structure WrittenDay where
  year : Nat
  month : Nat
  day : Nat

/-- The day of a week. The weeks of year 0 have no month in the calendar, and the days after its end
belong to the year 10000. -/
def ofWeek? (year week weekday : Nat) : Option WrittenDay :=
  let weekExists := 1 ≤ week ∧ (week ≤ 52 ∨ (week = 53 ∧ hasLongWeeks year))
  if weekExists ∧ 1 ≤ weekday ∧ weekday ≤ 7 then
    if year = 0 then some ⟨1, 0, 1⟩
    else match Date.ofOrdinal? (firstMonday year + (week - 1) * 7 + (weekday - 1)) with
    | some d => some ⟨d.year, d.month, d.day⟩
    | none => some ⟨maxYear + 1, 1, 1⟩
  else none

def skipHyphen (hyphens : Bool) : List Char → Option (List Char)
  | '-' :: rest => some (if hyphens then rest else '-' :: rest)
  | cs => if hyphens then none else some cs

/-- A week and perhaps a weekday, of which Monday is the default. -/
def readWeek? (year : Nat) (hyphens : Bool) (cs : List Char) : Option WrittenDay := do
  let (week, rest) ← takeDigits 2 cs
  if rest.isEmpty then
    ofWeek? year week 1
  else
    let (weekday, _) ← takeDigits 1 (← skipHyphen hyphens rest)
    ofWeek? year week weekday

def readMonthAndDay? (year : Nat) (hyphens : Bool) (cs : List Char) : Option WrittenDay := do
  let (month, rest) ← takeDigits 2 cs
  let (day, _) ← takeDigits 2 (← skipHyphen hyphens rest)
  some ⟨year, month, day⟩

/-- A day in one of the written forms; what follows it is ignored. -/
def readDay? (cs : List Char) : Option WrittenDay := do
  let (year, rest) ← takeDigits 4 cs
  let hyphens := rest.head? == some '-'
  match if hyphens then rest.drop 1 else rest with
  | 'W' :: week => readWeek? year hyphens week
  | monthAndDay => readMonthAndDay? year hyphens monthAndDay

def WrittenDay.toDate (d : WrittenDay) : Except Fault Date := Date.ofParts d.year d.month d.day

/-! ### Times of day -/

/-- Hours, minutes, seconds and microseconds as they are written; `complete` if nothing is left. -/
structure WrittenTime where
  hour : Nat
  minute : Nat
  second : Nat
  micros : Nat
  complete : Bool

/-- The character that ends a time of day before its text ends. -/
def endMark : Char := Char.ofNat 0

/-- Nothing is left, or nothing before an end mark. -/
def isAtEnd (cs : List Char) : Bool := cs.head?.all (· == endMark)

/-- The first six digits are microseconds, more are ignored. -/
def readFraction? (cs : List Char) : Option (Nat × Bool) := do
  let count := min 6 cs.length
  let (digits, rest) ← takeDigits count cs
  some (digits * tenTo (6 - count), isAtEnd (rest.dropWhile Char.isDigit))

inductive AfterPart where
  | finished (complete : Bool)
  | nextPart (rest : List Char)
  | fraction (rest : List Char)
  | malformed

/-- A single ASCII character after a part belongs to nothing, unless it is an end mark. Parts are
apart by a colon throughout or not at all, and a point or a comma starts the fraction. -/
def afterPart (colons : Bool) : List Char → AfterPart
  | [] => .finished true
  | [c] => if c.toNat < 128 then .finished (c == endMark) else .malformed
  | c :: rest =>
      if colons && c == ':' then .nextPart rest
      else if c == '.' || c == ',' then .fraction rest
      else if colons then .malformed
      else .nextPart (c :: rest)

/-- The time with the parts read so far, the last of them first. -/
def timeOf (parts : List Nat) (micros : Nat) (complete : Bool) : WrittenTime :=
  let part := fun index => (parts.reverse[index]?).getD 0
  ⟨part 0, part 1, part 2, micros, complete⟩

def withFraction (parts : List Nat) (cs : List Char) : Option WrittenTime :=
  (readFraction? cs).map fun (micros, complete) => timeOf parts micros complete

/-- Reads up to `remaining` parts of two digits, then the fraction. -/
def readParts? (colons : Option Bool) (parts : List Nat) :
    (remaining : Nat) → List Char → Option WrittenTime
  | 0, cs => withFraction parts cs
  | remaining + 1, cs => do
      let (part, rest) ← takeDigits 2 cs
      let useColons := colons.getD (rest.head? == some ':')
      match afterPart useColons rest with
      | .finished complete => some (timeOf (part :: parts) 0 complete)
      | .nextPart rest => readParts? (some useColons) (part :: parts) remaining rest
      | .fraction rest => withFraction (part :: parts) rest
      | .malformed => none

def readTime? (cs : List Char) : Option WrittenTime := readParts? none [] 3 cs

def spanText (micros : Int) : String :=
  let days := micros.fdiv microsPerDay
  let seconds := micros.fmod microsPerDay / microsPerSecond
  let rest := micros.fmod microsPerSecond
  let part := fun (name : String) (n : Int) => if n = 0 then [] else [s!"{name}={n}"]
  let parts := part "days" days ++ part "seconds" seconds ++ part "microseconds" rest
  "datetime.timedelta(" ++ (if parts.isEmpty then "0" else ", ".intercalate parts) ++ ")"

/-- A distance of less than a second has no whole seconds and counts as none. -/
def WrittenTime.toOffset (t : WrittenTime) (behind : Bool) : Except Fault Offset :=
  let seconds := (t.hour * 60 + t.minute) * 60 + t.second
  let size : Int := if seconds = 0 then 0 else seconds * microsPerSecond + t.micros
  let micros := if behind then -size else size
  if h : -(microsPerDay : Int) < micros ∧ micros < (microsPerDay : Int) then .ok ⟨micros, h⟩
  else .error (.offsetRange (spanText micros))

def startsOffset (c : Char) : Bool := c == '+' || c == '-' || c == 'Z'

/-- The distance from universal time that follows a time of day; `none` if it is malformed. -/
def readOffset? : List Char → Option (Except Fault (Option Offset))
  | [] => some (.ok none)
  | 'Z' :: rest => if isAtEnd rest then some (.ok (some .universal)) else none
  | sign :: rest =>
      match readTime? rest with
      | some t => if t.complete then some ((t.toOffset (sign == '-')).map some) else none
      | none => none

/-! ### Moments -/

/-- How many characters the day takes at the start of a moment. Where a hyphen after a week and two
digits could be read both ways, it is taken for the character between day and time. -/
def dayLength (cs : List Char) : Nat :=
  match cs.drop 4 with
  | '-' :: 'W' :: _ =>
      if cs[8]? == some '-' && !(cs[10]?.any Char.isDigit) then 10 else 8
  | '-' :: _ => 10
  | 'W' :: rest =>
      let digits := ((rest.drop 2).takeWhile Char.isDigit).length
      if digits = 0 then 7
      else if digits = 1 then 8
      else if digits % 2 = 1 then 7 else 8
  | _ => 8

def readClock? (cs : List Char) : Option (WrittenTime × Except Fault (Option Offset)) := do
  let time ← readTime? (cs.takeWhile fun c => !startsOffset c)
  let zone := cs.dropWhile fun c => !startsOffset c
  if zone.isEmpty && !time.complete then none
  else some (time, ← readOffset? zone)

/-- What follows the day: nothing, or any character and a time. -/
def readAfterDay? : List Char → Option (WrittenTime × Except Fault (Option Offset))
  | [] => some (⟨0, 0, 0, 0, true⟩, .ok none)
  | _ :: rest => readClock? rest

def readMoment? (cs : List Char) :
    Option (WrittenDay × WrittenTime × Except Fault (Option Offset)) := do
  let length := if cs.length = 7 then 7 else dayLength cs
  let day ← readDay? (cs.take length)
  let (time, offset) ← readAfterDay? (cs.drop length)
  some (day, time, offset)

/-- Reads a moment; a distance out of range is reported before a day or time out of range. -/
def readMoment (text : Text) : Except Fault Moment :=
  match readMoment? text.shownChars with
  | none => .error (.invalidDateText text)
  | some (day, time, offset) => do
      let offset ← offset
      let date ← day.toDate
      Moment.ofParts date time.hour time.minute time.second time.micros (offset.map .fixed)

def readDate (text : Text) : Except Fault Date :=
  let cs := text.shownChars
  if (cs.length = 7 ∨ cs.length = 8 ∨ cs.length = 10) ∧ cs.all fun c => c.toNat < 128 then
    match readDay? cs with
    | some day => day.toDate
    | none => .error (.invalidDateText text)
  else .error (.invalidDateText text)

/-- A text of ten characters is a day, any other a moment; `Z` stands for universal time. -/
def readStamp (text : Text) : Except Fault Stamp :=
  let trimmed := text.trim
  if trimmed.length = 10 then
    (readDate trimmed).map .day
  else
    let universal := (Text.ofString "+00:00").points
    let points := Text.replaceAll (.char 'Z') [] universal trimmed.points
    (readMoment ⟨points⟩).map .moment

end Formula.Calendar
