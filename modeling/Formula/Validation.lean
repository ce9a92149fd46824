import Formula.Engine
import Formula.Expr.References

/-!
Checking formulas without evaluating them: whether they parse, and whether the names that they refer
to are known.
-/

namespace Formula

inductive Issue where
  | unreadable (error : ErrorInfo)
  | unknownField (name : String) (position : Nat)
  | unknownFunction (name : String) (position : Nat)
deriving DecidableEq, Repr

namespace Issue

def type : Issue → String
  | .unreadable _ => "syntax"
  | .unknownField .. => "unknown_field"
  | .unknownFunction .. => "unknown_function"

def message : Issue → Text
  | .unreadable error => error.message
  | .unknownField name _ => s!"Unknown field: {name}"
  | .unknownFunction name _ => s!"Unknown function: {name}"

def position? : Issue → Option Nat
  | .unreadable error => error.position
  | .unknownField _ position | .unknownFunction _ position => some position

def position (issue : Issue) : Nat := issue.position?.getD 0

end Issue

/-- The issues of a formula in the order of the source, and the names that it refers to. -/
structure Validation where
  issues : List Issue
  references : References
deriving DecidableEq, Repr

namespace Validation

def isValid (v : Validation) : Bool := v.issues.isEmpty

def fields (v : Validation) : List String := v.references.fields.map Prod.fst

def functions (v : Validation) : List String := v.references.functions.map Prod.fst

end Validation

/-- Names with a dollar sign and those that a context answers itself need not be known. -/
def isKnownField (known : List String) (name : String) : Bool :=
  known.contains name || name.toList.head? == some '$' ||
    contextNames.contains (Text.lowerName name)

namespace References

def fieldIssues (r : References) (known : List String) : List Issue :=
  (r.fields.filter fun field => !isKnownField known field.1).map fun field =>
    .unknownField field.1 field.2

def functionIssues (r : References) (registry : Registry) : List Issue :=
  (r.functions.filter fun function => !registry.contains function.1).map fun function =>
    .unknownFunction function.1 function.2

/-- All issues by position. Without a list of known fields every field is known. -/
def issues (r : References) (registry : Registry) (known : Option (List String)) : List Issue :=
  let unknownFields := (known.map r.fieldIssues).getD []
  (unknownFields ++ r.functionIssues registry).mergeSort fun a b => a.position ≤ b.position

end References

/-- What does not parse has one issue. That includes a formula nested more deeply than the host can
follow: the issue stands for a failure of the host, which has no answer. -/
def Engine.validate (engine : Engine) (formula : String) (known : Option (List String)) :
    Validation :=
  match engine.parse formula with
  | .error e => ⟨[.unreadable e], ⟨[], []⟩⟩
  | .ok parsed =>
      let references := parsed.expr.references
      ⟨references.issues engine.registry known, references⟩

end Formula
