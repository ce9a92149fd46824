import Formula.Function.Registry

/-!
Completing the name that is being typed: the functions, fields, variables and names of the context
that go on from the part of a name before the cursor.
-/

namespace Formula

namespace Suggestion

inductive Kind where
  | function
  | field
  | variable
deriving DecidableEq, Repr

def Kind.name : Kind → String
  | .function => "function"
  | .field => "field"
  | .variable => "variable"

end Suggestion

/-- A name with the text that completes it. -/
structure Suggestion where
  kind : Suggestion.Kind
  label : String
  insertText : String
  description : Option String := none
  category : Option String := none
deriving DecidableEq, Repr

namespace Suggestion

/-! ### The part of a name before the cursor -/

def dropNewline (reversed : List Char) : List Char :=
  match reversed with
  | '\n' :: rest => rest
  | cs => cs

/-- The name at the end of a text, given from its end, with a dollar sign before it. A name starts
with no digit, and a dollar sign stands right before the first character of a name. -/
def nameAtEnd (reversed : List Char) : List Char :=
  let before := dropNewline reversed
  let word := (before.takeWhile Text.isWord).reverse
  let name := word.dropWhile Text.isDigit
  if !name.isEmpty && name.length == word.length &&
      (before.dropWhile Text.isWord).head? == some '$' then
    '$' :: name
  else name

/-- The part of a name before a position, in lower case. Positions outside the formula are its
nearer end. -/
def partialName (formula : String) (position : Int) : List Char :=
  let before := formula.toList.take position.toNat
  (Text.lowerName (String.ofList (nameAtEnd before.reverse))).toList

/-! ### What completes it -/

/-- Whether a name goes on from a part of a name, whatever its case. -/
def completes (typed : List Char) (name : String) : Bool :=
  typed.isPrefixOf (Text.lowerName name).toList

def ofFunction (d : Definition) : Suggestion where
  kind := .function
  label := d.name
  insertText := d.name ++ "("
  description := some d.description
  category := some d.category.name

def ofField (name : String) : Suggestion where
  kind := .field
  label := name
  insertText := name

/-- A variable is written with a dollar sign. -/
def variableLabel (name : String) : String :=
  if name.toList.head? == some '$' then name else "$" ++ name

def ofVariable (name : String) : Suggestion where
  kind := .variable
  label := variableLabel name
  insertText := variableLabel name
  description := some ("Variable " ++ variableLabel name)

def ofContextName (name description : String) : Suggestion where
  kind := .variable
  label := name
  insertText := name
  description := some description

/-- The names of the context that are no functions as well. -/
def contextSuggestions : List Suggestion := [
  ofContextName "system" "System values: now, today, timezone, locale",
  ofContextName "user" "The current user: id, email, name, groups, roles, metadata"]

/-- By label without regard to case, then by kind. -/
def isAtMost (a b : Suggestion) : Bool :=
  let (x, y) := (Text.foldName a.label, Text.foldName b.label)
  if x = y then a.kind.name ≤ b.kind.name else x ≤ y

/-- All that completes a part of a name. A variable is found by its name and by its label. -/
def completions (registry : Registry) (fields vars : List String) (typed : List Char) :
    List Suggestion :=
  ((registry.list.filter fun d => completes typed d.name).map ofFunction) ++
    ((fields.filter (completes typed)).map ofField) ++
    ((vars.filter fun name =>
      completes typed (variableLabel name) || completes typed name).map ofVariable) ++
    contextSuggestions.filter fun s => completes typed s.label

end Suggestion

def Registry.suggest (registry : Registry) (formula : String) (position : Int)
    (fields vars : List String) : List Suggestion :=
  let typed := Suggestion.partialName formula position
  (Suggestion.completions registry fields vars typed).mergeSort Suggestion.isAtMost

end Formula
