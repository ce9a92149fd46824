import Formula.Function.Lookups

/-!
The built-in functions that look things up with their documentation.
-/

namespace Formula.Lookups

open Implementation

def lookupFunction : Definition where
  name := "LOOKUP"
  description := "Returns a field of the first dataset record whose key field matches"
  category := .lookup
  parameters := [
    { name := "datasetName", type := "string", description := "Dataset name" },
    { name := "keyField", type := "string", description := "Field to match" },
    { name := "keyValue", type := "any", description := "Value to find" },
    { name := "returnField", type := "string", description := "Field to return" }]
  returnType := "any"
  examples := [
    ⟨"LOOKUP(\"employees\", \"id\", 2, \"name\")", .text "Grace"⟩,
    ⟨"LOOKUP(\"employees\", \"id\", 99, \"name\")", .null⟩]
  implementation := lookupRecord

def vlookupFunction : Definition where
  name := "VLOOKUP"
  description := "Finds a row of a table by its first column and returns another column"
  category := .lookup
  parameters := [
    { name := "value", type := "any", description := "Value to find in the first column" },
    { name := "table", type := "array", description := "Array of rows" },
    { name := "column", type := "number", description := "Column to return (1-based)" },
    { name := "exact", type := "boolean", description := "Exact match only", required := false,
      default := .bool true }]
  returnType := "any"
  examples := [
    ⟨"VLOOKUP(\"b\", [[\"a\", 1], [\"b\", 2]], 2)", .int 2⟩,
    ⟨"VLOOKUP(75, [[0, \"F\"], [60, \"D\"], [70, \"C\"], [80, \"B\"]], 2, false)", .text "C"⟩]
  implementation := fun _ args =>
    tableLookup (argument args 0) (argument args 1) (argument args 2) (argument args 3)

def functions : List Definition := [
  lookupFunction, vlookupFunction]

end Formula.Lookups
