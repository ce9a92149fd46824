import Formula.Function.Math

/-!
The built-in functions of numbers with their documentation.
-/

namespace Formula.Math

open Implementation

def sumFunction : Definition where
  name := "SUM"
  description := "Adds all numbers; arrays are flattened and nulls skipped"
  category := .math
  parameters := [
    { name := "values", type := "number|array", description := "Numbers or arrays to add",
      variadic := true }]
  returnType := "number"
  examples := [
    ⟨"SUM(1, 2, 3)", .int 6⟩,
    ⟨"SUM([10, 20], 5)", .int 35⟩]
  implementation := ofList sum

def averageFunction : Definition where
  name := "AVERAGE"
  description := "Returns the arithmetic mean of the non-null numbers"
  category := .math
  parameters := [
    { name := "values", type := "number|array", description := "Numbers or arrays to average",
      variadic := true }]
  returnType := "number"
  examples := [
    ⟨"AVERAGE(1, 2, 3, 4)", .float 2.5⟩]
  implementation := ofList average

def minFunction : Definition where
  name := "MIN"
  description := "Returns the smallest number"
  category := .math
  parameters := [
    { name := "values", type := "number|array", description := "Numbers or arrays to compare",
      variadic := true }]
  returnType := "number"
  examples := [
    ⟨"MIN(5, 2, 8, 1)", .int 1⟩]
  implementation := ofList minimum

def maxFunction : Definition where
  name := "MAX"
  description := "Returns the largest number"
  category := .math
  parameters := [
    { name := "values", type := "number|array", description := "Numbers or arrays to compare",
      variadic := true }]
  returnType := "number"
  examples := [
    ⟨"MAX(5, 2, 8, 1)", .int 8⟩]
  implementation := ofList maximum

def absFunction : Definition where
  name := "ABS"
  description := "Returns the absolute value"
  category := .math
  parameters := [
    { name := "number", type := "number", description := "The number" }]
  returnType := "number"
  examples := [
    ⟨"ABS(-5)", .int 5⟩]
  implementation := ofOne absolute

def roundFunction : Definition where
  name := "ROUND"
  description := "Rounds half away from zero to a number of decimal places"
  category := .math
  parameters := [
    { name := "number", type := "number", description := "Number to round" },
    { name := "digits", type := "number",
      description := "Decimal places (negative rounds to tens, hundreds...)", required := false,
      default := .int 0 }]
  returnType := "number"
  examples := [
    ⟨"ROUND(3.7)", .int 4⟩,
    ⟨"ROUND(3.14159, 2)", .float 3.14⟩,
    ⟨"ROUND(2.5)", .int 3⟩]
  implementation := ofTwo round

def floorFunction : Definition where
  name := "FLOOR"
  description := "Rounds down to the nearest integer"
  category := .math
  parameters := [
    { name := "number", type := "number", description := "Number to round down" }]
  returnType := "number"
  examples := [
    ⟨"FLOOR(3.7)", .int 3⟩]
  implementation := ofOne floor

def ceilFunction : Definition where
  name := "CEIL"
  description := "Rounds up to the nearest integer"
  category := .math
  parameters := [
    { name := "number", type := "number", description := "Number to round up" }]
  returnType := "number"
  examples := [
    ⟨"CEIL(3.2)", .int 4⟩]
  implementation := ofOne ceil

def powerFunction : Definition where
  name := "POWER"
  description := "Raises a number to a power"
  category := .math
  parameters := [
    { name := "base", type := "number", description := "Base number" },
    { name := "exponent", type := "number", description := "Exponent" }]
  returnType := "number"
  examples := [
    ⟨"POWER(2, 10)", .int 1024⟩]
  implementation := ofTwo power

def sqrtFunction : Definition where
  name := "SQRT"
  description := "Returns the square root of a non-negative number"
  category := .math
  parameters := [
    { name := "number", type := "number", description := "The number" }]
  returnType := "number"
  examples := [
    ⟨"SQRT(16)", .int 4⟩]
  implementation := ofOne squareRoot

def modFunction : Definition where
  name := "MOD"
  description := "Returns the remainder of a division (sign of the divisor)"
  category := .math
  parameters := [
    { name := "dividend", type := "number", description := "Number to divide" },
    { name := "divisor", type := "number", description := "Number to divide by" }]
  returnType := "number"
  examples := [
    ⟨"MOD(10, 3)", .int 1⟩]
  implementation := ofTwo modulo

def countFunction : Definition where
  name := "COUNT"
  description := "Counts non-null values; arrays are flattened"
  category := .math
  parameters := [
    { name := "values", type := "any", description := "Values to count", variadic := true }]
  returnType := "number"
  examples := [
    ⟨"COUNT(1, null, \"a\", [2, 3])", .int 4⟩]
  implementation := ofTotal count

def sumifFunction : Definition where
  name := "SUMIF"
  description := "Sums values whose parallel condition equals a match value"
  category := .math
  parameters := [
    { name := "values", type := "array", description := "Values to sum" },
    { name := "conditions", type := "array", description := "Parallel conditions" },
    { name := "matchValue", type := "any", description := "Value to match in conditions" }]
  returnType := "number"
  examples := [
    ⟨"SUMIF([100, 50, 25], [\"approved\", \"rejected\", \"approved\"], \"approved\")",
      .int 125⟩]
  implementation := ofThree sumIf

def numberFunction : Definition where
  name := "NUMBER"
  description := "Converts a numeric string or boolean to a number"
  category := .math
  parameters := [
    { name := "value", type := "any", description := "Value to convert" }]
  returnType := "number"
  examples := [
    ⟨"NUMBER(\"123\")", .int 123⟩,
    ⟨"NUMBER(\"4.5\")", .float 4.5⟩]
  implementation := ofOne number

def functions : List Definition := [
  sumFunction, averageFunction, minFunction, maxFunction, absFunction, roundFunction,
  floorFunction, ceilFunction, powerFunction, sqrtFunction, modFunction, countFunction,
  sumifFunction, numberFunction]

end Formula.Math
