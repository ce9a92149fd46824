import Formula.Function.Arrays

/-!
The built-in functions of arrays with their documentation.
-/

namespace Formula.Arrays

open Implementation

def firstFunction : Definition where
  name := "FIRST"
  description := "Returns the first element of an array"
  category := .array
  parameters := [
    { name := "array", type := "array", description := "The array" }]
  returnType := "any"
  examples := [
    ⟨"FIRST([1, 2, 3])", .int 1⟩]
  implementation := fun _ args => .ok (first (argument args 0))

def lastFunction : Definition where
  name := "LAST"
  description := "Returns the last element of an array"
  category := .array
  parameters := [
    { name := "array", type := "array", description := "The array" }]
  returnType := "any"
  examples := [
    ⟨"LAST([1, 2, 3])", .int 3⟩]
  implementation := fun _ args => .ok (last (argument args 0))

def indexFunction : Definition where
  name := "INDEX"
  description := "Returns the element at a 0-based index, null if out of range"
  category := .array
  parameters := [
    { name := "array", type := "array", description := "The array" },
    { name := "index", type := "number", description := "Index (0-based)" }]
  returnType := "any"
  examples := [
    ⟨"INDEX([\"a\", \"b\", \"c\"], 1)", .text "b"⟩,
    ⟨"INDEX([1, 2], 5)", .null⟩]
  implementation := ofTwo index

def lengthFunction : Definition where
  name := "LENGTH"
  description := "Returns the number of elements in an array (or characters in text)"
  category := .array
  parameters := [
    { name := "array", type := "array|string|object", description := "The array" }]
  returnType := "number"
  examples := [
    ⟨"LENGTH([1, 2, 3])", .int 3⟩]
  implementation := fun _ args => .ok (length (argument args 0))

def containsFunction : Definition where
  name := "CONTAINS"
  description := "Tests whether an array holds a value (or text holds a substring)"
  category := .array
  parameters := [
    { name := "array", type := "array|string", description := "Array or text to search" },
    { name := "value", type := "any", description := "Value to find" }]
  returnType := "boolean"
  examples := [
    ⟨"CONTAINS([\"urgent\", \"billing\"], \"urgent\")", .bool true⟩,
    ⟨"CONTAINS([1, 2], \"1\")", .bool false⟩]
  implementation := ofTwo contains

def uniqueFunction : Definition where
  name := "UNIQUE"
  description := "Removes repeated values, keeping first occurrences"
  category := .array
  parameters := [
    { name := "array", type := "array", description := "The array" }]
  returnType := "array"
  examples := [
    ⟨"UNIQUE([1, 2, 2, 3, 1])", .array [.int 1, .int 2, .int 3]⟩]
  implementation := fun _ args => .ok (unique (argument args 0))

def sortFunction : Definition where
  name := "SORT"
  description := "Sorts numbers, text or dates; nulls go last"
  category := .array
  parameters := [
    { name := "array", type := "array", description := "Array to sort" },
    { name := "descending", type := "boolean", description := "Sort descending",
      required := false, default := .bool false }]
  returnType := "array"
  examples := [
    ⟨"SORT([3, 1, 2])", .array [.int 1, .int 2, .int 3]⟩,
    ⟨"SORT([\"b\", \"c\", \"a\"], true)", .array [.text "c", .text "b", .text "a"]⟩]
  implementation := fun _ args => sort (argument args 0) (argument args 1)

def filterFunction : Definition where
  name := "FILTER"
  description := "Keeps the elements equal to a value"
  category := .array
  parameters := [
    { name := "array", type := "array", description := "Array to filter" },
    { name := "value", type := "any", description := "Value to keep" }]
  returnType := "array"
  examples := [
    ⟨"FILTER([\"active\", \"closed\", \"active\"], \"active\")",
      .array [.text "active", .text "active"]⟩]
  implementation := fun _ args => .ok (filter (argument args 0) (argument args 1))

def countifFunction : Definition where
  name := "COUNTIF"
  description := "Counts the elements equal to a value"
  category := .array
  parameters := [
    { name := "array", type := "array", description := "Array to search" },
    { name := "value", type := "any", description := "Value to count" }]
  returnType := "number"
  examples := [
    ⟨"COUNTIF([\"done\", \"open\", \"done\"], \"done\")", .int 2⟩]
  implementation := fun _ args => .ok (countIf (argument args 0) (argument args 1))

def functions : List Definition := [
  firstFunction, lastFunction, indexFunction, lengthFunction, containsFunction, uniqueFunction,
  sortFunction, filterFunction, countifFunction]

end Formula.Arrays
