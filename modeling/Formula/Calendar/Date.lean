import Formula.Fault
import Formula.Number.Digits

/-!
Days of the Gregorian calendar from year 1 to year 9999. Each day has an ordinal, counted from the
first of January of year 1, which is day 1 and a Monday.
-/

namespace Formula

namespace Calendar

def isLeap (year : Nat) : Bool := year % 4 == 0 && (year % 100 != 0 || year % 400 == 0)

def daysInMonth (year month : Nat) : Nat :=
  match month with
  | 2 => if isLeap year then 29 else 28
  | 4 | 6 | 9 | 11 => 30
  | _ => 31

def daysInYear (year : Nat) : Nat := if isLeap year then 366 else 365

def minYear : Nat := 1

def maxYear : Nat := 9999

def Exists (year month day : Nat) : Prop :=
  minYear ≤ year ∧ year ≤ maxYear ∧ 1 ≤ month ∧ month ≤ 12 ∧ 1 ≤ day ∧ day ≤ daysInMonth year month

instance (year month day : Nat) : Decidable (Exists year month day) := by
  unfold Exists
  infer_instance

def daysBeforeYear (year : Nat) : Nat :=
  let past := year - 1
  past * 365 + past / 4 - past / 100 + past / 400

def daysBeforeMonth (year month : Nat) : Nat :=
  (List.range (month - 1)).foldl (fun days m => days + daysInMonth year (m + 1)) 0

end Calendar

open Calendar

structure Date where
  year : Nat
  month : Nat
  day : Nat
  real : Calendar.Exists year month day
deriving DecidableEq

namespace Date

def ofParts? (year month day : Nat) : Option Date :=
  if h : Exists year month day then some ⟨year, month, day, h⟩ else none

def ordinal (d : Date) : Nat := daysBeforeYear d.year + daysBeforeMonth d.year d.month + d.day

def last : Date := ⟨9999, 12, 31, by decide⟩

def first : Date := ⟨1, 1, 1, by decide⟩

instance : Inhabited Date := ⟨first⟩

/-- The year of the day that is `index` days after the first day of the calendar, and the days
that precede it in that year. Four centuries, a century, four years and a year have fixed lengths;
the last century of four and the last year of four have one day more. -/
def splitYear (index : Nat) : Nat × Nat :=
  let eras := index / 146097
  let inEra := index % 146097
  let centuries := min (inEra / 36524) 3
  let inCentury := inEra - centuries * 36524
  let quads := inCentury / 1461
  let inQuad := inCentury % 1461
  let years := min (inQuad / 365) 3
  (eras * 400 + centuries * 100 + quads * 4 + years + 1, inQuad - years * 365)

/-- The month and day that follow `before` days of a year, from a month on. -/
def splitMonth (year : Nat) : (remaining month before : Nat) → Nat × Nat
  | 0, month, before => (month, before + 1)
  | remaining + 1, month, before =>
      if before < daysInMonth year month then (month, before + 1)
      else splitMonth year remaining (month + 1) (before - daysInMonth year month)

def ofOrdinal? (n : Nat) : Option Date :=
  if n = 0 then none
  else
    let (year, before) := splitYear (n - 1)
    let (month, day) := splitMonth year 11 1 before
    ofParts? year month day

/-- The day a number of days later; earlier for a negative number. -/
def addDays? (d : Date) (days : Int) : Option Date :=
  match (d.ordinal : Int) + days with
  | .ofNat n => ofOrdinal? n
  | .negSucc _ => none

/-- Days follow each other as their years, months and days do. -/
def compare (a b : Date) : Ordering :=
  (Ord.compare a.year b.year).then ((Ord.compare a.month b.month).then (Ord.compare a.day b.day))

/-- The first part that is out of range, in the order year, month, day. -/
def ofParts (year month day : Int) : Except Fault Date :=
  if year < minYear ∨ maxYear < year then .error (.yearRange year)
  else if month < 1 ∨ 12 < month then .error (.partRange .month)
  else
    match ofParts? year.toNat month.toNat day.toNat with
    | some d => .ok d
    | none => .error .dayRange

/-- Sunday is 1 and Saturday is 7. -/
def weekday (d : Date) : Nat := d.ordinal % 7 + 1

/-- Year, month and day with hyphens between them. -/
def chars (d : Date) : List Char :=
  padZeros 4 (digitChars d.year) ++ '-' :: padZeros 2 (digitChars d.month) ++
    '-' :: padZeros 2 (digitChars d.day)

def text (d : Date) : String := String.ofList d.chars

end Date

end Formula
