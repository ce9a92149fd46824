import Formula.Context
import Formula.Error

/-!
Functions that formulas can call: their documentation, the arguments that they accept, and what they
do.
-/

namespace Formula

inductive Category where
  | math
  | text
  | logic
  | date
  | array
  | lookup
deriving DecidableEq, Repr

def Category.name : Category → String
  | .math => "math"
  | .text => "text"
  | .logic => "logic"
  | .date => "date"
  | .array => "array"
  | .lookup => "lookup"

def Category.all : List Category := [.math, .text, .logic, .date, .array, .lookup]

def Category.ofName? (name : String) : Option Category := Category.all.find? (·.name == name)

/-- A parameter of a function. Its type is the name of a value type, `any`, or several with bars
between them. -/
structure Parameter where
  name : String
  type : String
  description : String := ""
  required : Bool := true
  default : Value := .null
  /-- The parameter takes this and all further arguments. -/
  variadic : Bool := false

def Parameter.types (p : Parameter) : List String := p.type.splitOn "|"

/-- Null is accepted always, and a text wherever a date is. -/
def Parameter.accepts (p : Parameter) (v : Value) : Bool :=
  v.isNull || p.types.contains "any" || p.types.contains v.typeName ||
    (v.typeName == "string" && p.types.contains "date")

/-- A formula with the value that it has. -/
structure Example where
  formula : String
  result : Value

/-- Why a function gives no value. -/
inductive CallFailure where
  | fault (f : Fault)
  /-- An error of the formula, which keeps its own wording. -/
  | cause (c : RuntimeCause)
  /-- A text nested more deeply than the host can follow. -/
  | host
  /-- A bound that something exceeds, which keeps its own wording and place. -/
  | limit (message : String) (position : Option Nat)
  /-- The function broke down. -/
  | crash (message : String)

structure Definition where
  name : String
  description : String := ""
  category : Category
  parameters : List Parameter := []
  returnType : String
  examples : List Example := []
  implementation : Context → List Value → Except CallFailure Value

namespace Definition

def minArgs (d : Definition) : Nat := (d.parameters.filter (·.required)).length

def maxArgs (d : Definition) : Option Nat :=
  if d.parameters.getLast?.any (·.variadic) then none else some d.parameters.length

/-- The name with its parameters, of which the optional ones stand in brackets. -/
def signature (d : Definition) : String :=
  let part := fun (p : Parameter) =>
    let text := if p.variadic then p.name ++ "..." else p.name
    if p.required then text else "[" ++ text ++ "]"
  d.name ++ "(" ++ ", ".intercalate (d.parameters.map part) ++ ")"

/-- How many arguments are expected, in words. -/
def expectedCount (d : Definition) : String :=
  match d.maxArgs with
  | none => s!"at least {d.minArgs}"
  | some max => if d.minArgs = max then toString max else s!"{d.minArgs} to {max}"

def acceptsCount (d : Definition) (count : Nat) : Bool :=
  decide (d.minArgs ≤ count) && (d.maxArgs.all fun max => decide (count ≤ max))

/-- The first argument that its parameter does not accept; the last parameter takes all further
arguments. -/
def misfit? : List Parameter → List Value → Option (Parameter × Value)
  | p :: parameters, v :: args =>
      if p.accepts v then misfit? (if parameters.isEmpty then [p] else parameters) args
      else some (p, v)
  | _, _ => none

/-- Checks the number of arguments, then their types. -/
def checkArguments (d : Definition) (args : List Value) : Except RuntimeCause Unit :=
  if d.acceptsCount args.length then
    match misfit? d.parameters args with
    | some (p, v) => .error (.argumentType d.name p.name p.type v.typeName)
    | none => .ok ()
  else .error (.argumentCount d.name d.expectedCount args.length)

/-- Calls a function with arguments that it accepts. A number that comes out must be in range. -/
def call (d : Definition) (context : Context) (args : List Value) : Except Stop Value :=
  let result := do
    let v ← d.implementation context args
    v.check.mapError .fault
  match result with
  | .ok v => .ok v
  | .error (.fault f) => .error (.failed (.runtime ⟨.call d.name f, none, some d.name⟩))
  | .error (.cause c) => .error (.failed (.runtime ⟨c, none, none⟩))
  | .error .host => .error (.failed (.limit .host none))
  | .error (.limit message position) => .error (.failed (.limit (.reported message) position))
  | .error (.crash message) => .error (.broken (.crash message))

def parameterDoc (p : Parameter) : Value :=
  .object [
    ("name", .text p.name),
    ("type", .text p.type),
    ("description", .text p.description),
    ("required", .bool p.required),
    ("default", p.default),
    ("variadic", .bool p.variadic)]

def doc (d : Definition) : Value :=
  .object [
    ("name", .text d.name),
    ("description", .text d.description),
    ("category", .text d.category.name),
    ("signature", .text d.signature),
    ("parameters", .array (d.parameters.map parameterDoc)),
    ("returnType", .text d.returnType),
    ("examples", .array (d.examples.map fun e =>
      .object [("formula", .text e.formula), ("result", e.result)]))]

end Definition

end Formula
