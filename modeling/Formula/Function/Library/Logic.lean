import Formula.Function.Logic

/-!
The built-in functions that choose and test with their documentation.
-/

namespace Formula.Logic

open Implementation

def ifFunction : Definition where
  name := "IF"
  description := "Returns one value if a condition is true and another if false"
  category := .logic
  parameters := [
    { name := "condition", type := "any", description := "Condition to test" },
    { name := "trueValue", type := "any", description := "Value if true" },
    { name := "falseValue", type := "any", description := "Value if false", required := false }]
  returnType := "any"
  examples := [
    ⟨"IF(5 > 3, \"yes\", \"no\")", .text "yes"⟩,
    ⟨"IF(false, \"yes\")", .null⟩]
  implementation := ofThree choose

def ifsFunction : Definition where
  name := "IFS"
  description := "Returns the value of the first true condition"
  category := .logic
  parameters := [
    { name := "pairs", type := "any", description := "Condition/value pairs", variadic := true }]
  returnType := "any"
  examples := [
    ⟨"IFS(85 >= 90, \"A\", 85 >= 80, \"B\", true, \"C\")", .text "B"⟩]
  implementation := ofList choosePairs

def switchFunction : Definition where
  name := "SWITCH"
  description := "Matches a value against cases, with an optional default"
  category := .logic
  parameters := [
    { name := "expression", type := "any", description := "Value to match" },
    { name := "cases", type := "any",
      description := "Case/result pairs, then an optional default", variadic := true }]
  returnType := "any"
  examples := [
    ⟨"SWITCH(\"I\", \"A\", \"Active\", \"I\", \"Inactive\", \"Unknown\")", .text "Inactive"⟩,
    ⟨"SWITCH(\"X\", \"A\", \"Active\", \"Unknown\")", .text "Unknown"⟩]
  implementation := ofTotal switch

def andFunction : Definition where
  name := "AND"
  description := "Returns true if every argument is truthy"
  category := .logic
  parameters := [
    { name := "values", type := "any", description := "Values to test", variadic := true }]
  returnType := "boolean"
  examples := [
    ⟨"AND(1 > 0, 2 > 0)", .bool true⟩]
  implementation := ofList fun args => (all args).map .bool

def orFunction : Definition where
  name := "OR"
  description := "Returns true if any argument is truthy"
  category := .logic
  parameters := [
    { name := "values", type := "any", description := "Values to test", variadic := true }]
  returnType := "boolean"
  examples := [
    ⟨"OR(1 > 2, 2 > 1)", .bool true⟩]
  implementation := ofList fun args => (any args).map .bool

def notFunction : Definition where
  name := "NOT"
  description := "Returns the boolean opposite of a value"
  category := .logic
  parameters := [
    { name := "value", type := "any", description := "Value to negate" }]
  returnType := "boolean"
  examples := [
    ⟨"NOT(true)", .bool false⟩]
  implementation := ofOne not

def isblankFunction : Definition where
  name := "ISBLANK"
  description := "Returns true for null or empty text"
  category := .logic
  parameters := [
    { name := "value", type := "any", description := "Value to test" }]
  returnType := "boolean"
  examples := [
    ⟨"ISBLANK(\"\")", .bool true⟩,
    ⟨"ISBLANK(0)", .bool false⟩]
  implementation := fun _ args => .ok (.bool (argument args 0).isBlank)

def coalesceFunction : Definition where
  name := "COALESCE"
  description := "Returns the first non-null argument"
  category := .logic
  parameters := [
    { name := "values", type := "any", description := "Values to check", variadic := true }]
  returnType := "any"
  examples := [
    ⟨"COALESCE(null, \"\", \"default\")", .text ""⟩]
  implementation := ofTotal coalesce

def booleanFunction : Definition where
  name := "BOOLEAN"
  description := "Converts a value to a boolean using formula truthiness"
  category := .logic
  parameters := [
    { name := "value", type := "any", description := "Value to convert" }]
  returnType := "boolean"
  examples := [
    ⟨"BOOLEAN(1)", .bool true⟩,
    ⟨"BOOLEAN(\"\")", .bool false⟩]
  implementation := ofOne fun v => v.truth.map .bool

def functions : List Definition := [
  ifFunction, ifsFunction, switchFunction, andFunction, orFunction, notFunction, isblankFunction,
  coalesceFunction, booleanFunction]

end Formula.Logic
