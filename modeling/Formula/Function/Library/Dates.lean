import Formula.Function.Dates

/-!
The built-in functions of dates with their documentation.
-/

namespace Formula.Dates

open Implementation

def nowFunction : Definition where
  name := "NOW"
  description := "Returns the evaluation's current date and time"
  category := .date
  returnType := "date"
  examples := [
    ⟨"YEAR(NOW()) >= 2024", .bool true⟩]
  implementation := fun c _ => .ok c.now

def todayFunction : Definition where
  name := "TODAY"
  description := "Returns the evaluation's current date (no time component)"
  category := .date
  returnType := "date"
  examples := [
    ⟨"TODAY() == NOW()", .bool true⟩]
  implementation := fun c _ => .ok c.today

def dateFunction : Definition where
  name := "DATE"
  description := "Builds a date from year, month (1-12) and day"
  category := .date
  parameters := [
    { name := "year", type := "number", description := "Year" },
    { name := "month", type := "number", description := "Month (1-12)" },
    { name := "day", type := "number", description := "Day of the month" }]
  returnType := "date"
  examples := [
    ⟨"DATE(2024, 1, 15)", .date (.day ⟨2024, 1, 15, by decide⟩)⟩]
  implementation := ofThree ofParts

def yearFunction : Definition where
  name := "YEAR"
  description := "Extracts the year from a date"
  category := .date
  parameters := [
    { name := "date", type := "date", description := "The date" }]
  returnType := "number"
  examples := [
    ⟨"YEAR(\"2024-03-05\")", .int 2024⟩]
  implementation := ofOne year

def monthFunction : Definition where
  name := "MONTH"
  description := "Extracts the month (1-12) from a date"
  category := .date
  parameters := [
    { name := "date", type := "date", description := "The date" }]
  returnType := "number"
  examples := [
    ⟨"MONTH(DATE(2024, 3, 5))", .int 3⟩]
  implementation := ofOne month

def dayFunction : Definition where
  name := "DAY"
  description := "Extracts the day of the month from a date"
  category := .date
  parameters := [
    { name := "date", type := "date", description := "The date" }]
  returnType := "number"
  examples := [
    ⟨"DAY(DATE(2024, 3, 5))", .int 5⟩]
  implementation := ofOne day

def weekdayFunction : Definition where
  name := "WEEKDAY"
  description := "Returns the day of the week, 1 (Sunday) through 7 (Saturday)"
  category := .date
  parameters := [
    { name := "date", type := "date", description := "The date" }]
  returnType := "number"
  examples := [
    ⟨"WEEKDAY(DATE(2024, 1, 15))", .int 2⟩]
  implementation := ofOne weekday

def hourFunction : Definition where
  name := "HOUR"
  description := "Extracts the hour (0-23) from a date and time"
  category := .date
  parameters := [
    { name := "date", type := "date", description := "The date and time" }]
  returnType := "number"
  examples := [
    ⟨"HOUR(\"2024-01-15T10:30:00\")", .int 10⟩]
  implementation := ofOne hour

def minuteFunction : Definition where
  name := "MINUTE"
  description := "Extracts the minute (0-59) from a date and time"
  category := .date
  parameters := [
    { name := "date", type := "date", description := "The date and time" }]
  returnType := "number"
  examples := [
    ⟨"MINUTE(\"2024-01-15T10:30:00\")", .int 30⟩]
  implementation := ofOne minute

def dateaddFunction : Definition where
  name := "DATEADD"
  description := "Adds an amount of years, months, weeks, days, hours, minutes or seconds"
  category := .date
  parameters := [
    { name := "date", type := "date", description := "Starting date" },
    { name := "amount", type := "number", description := "Amount to add (negative to subtract)" },
    { name := "unit", type := "string", description := "Unit, e.g. \"days\" or \"months\"" }]
  returnType := "date"
  examples := [
    ⟨"DATEADD(DATE(2024, 1, 15), 7, \"days\")", .date (.day ⟨2024, 1, 22, by decide⟩)⟩,
    ⟨"DATEADD(DATE(2024, 1, 31), 1, \"months\")", .date (.day ⟨2024, 2, 29, by decide⟩)⟩]
  implementation := ofThree add

def datediffFunction : Definition where
  name := "DATEDIFF"
  description := "Returns the whole number of units between two dates"
  category := .date
  parameters := [
    { name := "startDate", type := "date", description := "Start date" },
    { name := "endDate", type := "date", description := "End date" },
    { name := "unit", type := "string", description := "Unit, e.g. \"days\" or \"months\"",
      required := false, default := .text "days" }]
  returnType := "number"
  examples := [
    ⟨"DATEDIFF(DATE(2024, 1, 1), DATE(2024, 1, 31))", .int 30⟩,
    ⟨"DATEDIFF(DATE(2024, 1, 31), DATE(2024, 3, 30), \"months\")", .int 1⟩]
  implementation := ofThree difference

def functions : List Definition := [
  nowFunction, todayFunction, dateFunction, yearFunction, monthFunction, dayFunction,
  weekdayFunction, hourFunction, minuteFunction, dateaddFunction, datediffFunction]

end Formula.Dates
