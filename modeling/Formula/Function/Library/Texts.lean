import Formula.Function.Texts

/-!
The built-in functions of texts with their documentation.
-/

namespace Formula.Texts

open Implementation

def concatFunction : Definition where
  name := "CONCAT"
  description := "Joins the text of all arguments"
  category := .text
  parameters := [
    { name := "values", type := "any", description := "Values to join", variadic := true }]
  returnType := "string"
  examples := [
    ⟨"CONCAT(\"Hello\", \" \", \"World\")", .text "Hello World"⟩]
  implementation := ofList concat

def concatenateFunction : Definition where
  name := "CONCATENATE"
  description := "Alias of CONCAT"
  category := .text
  parameters := [
    { name := "values", type := "any", description := "Values to join", variadic := true }]
  returnType := "string"
  examples := [
    ⟨"CONCATENATE(\"Order #\", 42)", .text "Order #42"⟩]
  implementation := ofList concat

def upperFunction : Definition where
  name := "UPPER"
  description := "Converts text to uppercase"
  category := .text
  parameters := [
    { name := "text", type := "string", description := "Text to convert" }]
  returnType := "string"
  examples := [
    ⟨"UPPER(\"hello\")", .text "HELLO"⟩]
  implementation := ofOne upper

def lowerFunction : Definition where
  name := "LOWER"
  description := "Converts text to lowercase"
  category := .text
  parameters := [
    { name := "text", type := "string", description := "Text to convert" }]
  returnType := "string"
  examples := [
    ⟨"LOWER(\"HELLO\")", .text "hello"⟩]
  implementation := ofOne lower

def trimFunction : Definition where
  name := "TRIM"
  description := "Removes whitespace from both ends of text"
  category := .text
  parameters := [
    { name := "text", type := "string", description := "Text to trim" }]
  returnType := "string"
  examples := [
    ⟨"TRIM(\"  hi  \")", .text "hi"⟩]
  implementation := ofOne trim

def leftFunction : Definition where
  name := "LEFT"
  description := "Returns the first characters of text"
  category := .text
  parameters := [
    { name := "text", type := "string", description := "Source text" },
    { name := "count", type := "number", description := "Number of characters",
      required := false, default := .int 1 }]
  returnType := "string"
  examples := [
    ⟨"LEFT(\"Hello\", 2)", .text "He"⟩]
  implementation := ofTwo left

def rightFunction : Definition where
  name := "RIGHT"
  description := "Returns the last characters of text"
  category := .text
  parameters := [
    { name := "text", type := "string", description := "Source text" },
    { name := "count", type := "number", description := "Number of characters",
      required := false, default := .int 1 }]
  returnType := "string"
  examples := [
    ⟨"RIGHT(\"Hello\", 3)", .text "llo"⟩]
  implementation := ofTwo right

def midFunction : Definition where
  name := "MID"
  description := "Returns characters from the middle of text"
  category := .text
  parameters := [
    { name := "text", type := "string", description := "Source text" },
    { name := "start", type := "number", description := "Starting position (1-based)" },
    { name := "count", type := "number", description := "Number of characters" }]
  returnType := "string"
  examples := [
    ⟨"MID(\"Hello\", 2, 3)", .text "ell"⟩]
  implementation := ofThree mid

def lenFunction : Definition where
  name := "LEN"
  description := "Returns the number of characters in the text form of a value"
  category := .text
  parameters := [
    { name := "text", type := "any", description := "Text to measure" }]
  returnType := "number"
  examples := [
    ⟨"LEN(\"Hello\")", .int 5⟩]
  implementation := ofOne length

def findFunction : Definition where
  name := "FIND"
  description := "Returns the 1-based position of text within text, 0 if absent"
  category := .text
  parameters := [
    { name := "search", type := "string", description := "Text to find" },
    { name := "within", type := "string", description := "Text to search within" },
    { name := "start", type := "number", description := "Starting position (1-based)",
      required := false, default := .int 1 }]
  returnType := "number"
  examples := [
    ⟨"FIND(\"l\", \"Hello\")", .int 3⟩,
    ⟨"FIND(\"z\", \"Hello\")", .int 0⟩]
  implementation := ofThree find

def replaceFunction : Definition where
  name := "REPLACE"
  description := "Replaces every occurrence of a text with another"
  category := .text
  parameters := [
    { name := "text", type := "string", description := "Source text" },
    { name := "search", type := "string", description := "Text to find" },
    { name := "replacement", type := "string", description := "Replacement text" }]
  returnType := "string"
  examples := [
    ⟨"REPLACE(\"a-b-c\", \"-\", \"+\")", .text "a+b+c"⟩]
  implementation := ofThree replace

def splitFunction : Definition where
  name := "SPLIT"
  description := "Splits text into an array on a delimiter"
  category := .text
  parameters := [
    { name := "text", type := "string", description := "Text to split" },
    { name := "delimiter", type := "string", description := "Delimiter" }]
  returnType := "array"
  examples := [
    ⟨"SPLIT(\"a,b,c\", \",\")", .array [.text "a", .text "b", .text "c"]⟩]
  implementation := fun _ args => .ok (split (argument args 0) (argument args 1))

def joinFunction : Definition where
  name := "JOIN"
  description := "Joins array elements into text"
  category := .text
  parameters := [
    { name := "array", type := "array", description := "Array to join" },
    { name := "delimiter", type := "string", description := "Delimiter", required := false,
      default := .text "," }]
  returnType := "string"
  examples := [
    ⟨"JOIN([\"a\", \"b\", \"c\"], \"-\")", .text "a-b-c"⟩,
    ⟨"JOIN([1, 2, 3])", .text "1,2,3"⟩]
  implementation := ofTwo join

def properFunction : Definition where
  name := "PROPER"
  description := "Capitalizes the first letter of each word"
  category := .text
  parameters := [
    { name := "text", type := "string", description := "Text to convert" }]
  returnType := "string"
  examples := [
    ⟨"PROPER(\"hello world\")", .text "Hello World"⟩]
  implementation := ofOne proper

def textFunction : Definition where
  name := "TEXT"
  description := "Formats a number (#,##0.00) or a date (YYYY-MM-DD HH:mm:ss) as text"
  category := .text
  parameters := [
    { name := "value", type := "any", description := "Value to format" },
    { name := "format", type := "string", description := "Format string" }]
  returnType := "string"
  examples := [
    ⟨"TEXT(1234.5, \"#,##0.00\")", .text "1,234.50"⟩,
    ⟨"TEXT(DATE(2024, 1, 15), \"YYYY-MM-DD\")", .text "2024-01-15"⟩]
  implementation := ofTwo format

def stringFunction : Definition where
  name := "STRING"
  description := "Converts a value to its text form"
  category := .text
  parameters := [
    { name := "value", type := "any", description := "Value to convert" }]
  returnType := "string"
  examples := [
    ⟨"STRING(123)", .text "123"⟩,
    ⟨"STRING(true)", .text "true"⟩]
  implementation := ofOne fun v => v.toText.map .text

def startswithFunction : Definition where
  name := "STARTSWITH"
  description := "Tests whether text starts with a prefix"
  category := .text
  parameters := [
    { name := "text", type := "string", description := "Text to test" },
    { name := "prefix", type := "string", description := "Prefix to check for" }]
  returnType := "boolean"
  examples := [
    ⟨"STARTSWITH(\"PRD-001\", \"PRD-\")", .bool true⟩]
  implementation := ofTwo startsWith

def endswithFunction : Definition where
  name := "ENDSWITH"
  description := "Tests whether text ends with a suffix"
  category := .text
  parameters := [
    { name := "text", type := "string", description := "Text to test" },
    { name := "suffix", type := "string", description := "Suffix to check for" }]
  returnType := "boolean"
  examples := [
    ⟨"ENDSWITH(\"ada@example.com\", \"@example.com\")", .bool true⟩]
  implementation := ofTwo endsWith

def jsonParseFunction : Definition where
  name := "JSON_PARSE"
  description := "Parses JSON text; invalid JSON yields null"
  category := .text
  parameters := [
    { name := "text", type := "string", description := "JSON text" }]
  returnType := "any"
  examples := [
    ⟨"JSON_PARSE('\x7b\"a\": 1\x7d')", .object [("a", .int 1)]⟩,
    ⟨"JSON_PARSE(\"not json\")", .null⟩]
  implementation := fun _ args => parseJson (argument args 0)

def jsonStringifyFunction : Definition where
  name := "JSON_STRINGIFY"
  description := "Converts a value to compact JSON text"
  category := .text
  parameters := [
    { name := "value", type := "any", description := "Value to convert" }]
  returnType := "string"
  examples := [
    ⟨"JSON_STRINGIFY(\x7ba: 1\x7d)", .text "\x7b\"a\":1\x7d"⟩]
  implementation := ofOne writeJson

def functions : List Definition := [
  concatFunction, concatenateFunction, upperFunction, lowerFunction, trimFunction, leftFunction,
  rightFunction, midFunction, lenFunction, findFunction, replaceFunction, splitFunction,
  joinFunction, properFunction, textFunction, stringFunction, startswithFunction,
  endswithFunction, jsonParseFunction, jsonStringifyFunction]

end Formula.Texts
