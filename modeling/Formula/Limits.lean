import Formula.Number.Numeral
import Formula.Text.Quoted

/-!
Bounds on formulas: their length, the nesting of their parts, and the depth and size of their trees.
-/

namespace Formula

structure Limits where
  maxLength : Nat := 10000
  maxNesting : Nat := 32
  maxDepth : Nat := 200
  maxNodes : Nat := 2000
  positive : 0 < maxLength ∧ 0 < maxNesting ∧ 0 < maxDepth ∧ 0 < maxNodes := by decide
deriving DecidableEq

inductive LimitsError where
  | notPositive (name : String)
  | unreadable (name text : String)

def LimitsError.message : LimitsError → String
  | .notPositive name => s!"{name} must be a positive integer"
  | .unreadable name text => s!"{name} must be a positive integer, got {Text.quote text}"

namespace Limits

def default : Limits := {}

instance : Inhabited Limits := ⟨default⟩

def names : List String :=
  ["max_formula_length", "max_nesting_depth", "max_ast_depth", "max_node_count"]

def variableNames : List String :=
  ["FLOWFORGE_MAX_FORMULA_LENGTH", "FLOWFORGE_MAX_NESTING_DEPTH", "FLOWFORGE_MAX_AST_DEPTH",
    "FLOWFORGE_MAX_NODE_COUNT"]

/-- Bounds from integers, which must be positive. The first that is not is reported. -/
def ofInts (length nesting depth nodes : Int) : Except LimitsError Limits :=
  if h : 0 < length ∧ 0 < nesting ∧ 0 < depth ∧ 0 < nodes then
    .ok {
      maxLength := length.toNat
      maxNesting := nesting.toNat
      maxDepth := depth.toNat
      maxNodes := nodes.toNat
      positive := by omega }
  else
    let named := names.zip [length, nesting, depth, nodes]
    .error (.notPositive (((named.find? fun bound => bound.2 ≤ 0).map Prod.fst).getD ""))

/-- Bounds from named integers; those that are not named have their defaults. -/
def ofNamed (values : List (String × Int)) : Except LimitsError Limits :=
  let value := fun (name : String) (default : Nat) => (values.lookup name).getD default
  ofInts (value "max_formula_length" default.maxLength)
    (value "max_nesting_depth" default.maxNesting) (value "max_ast_depth" default.maxDepth)
    (value "max_node_count" default.maxNodes)

/-- The value of an environment variable, which is a positive integer if it is not blank. -/
def readVariable (environment : List (String × String)) (name : String) (default : Nat) :
    Except LimitsError Int :=
  match environment.lookup name with
  | none => .ok default
  | some text =>
      if (Text.trim text).isEmpty then .ok default
      else
        match Numeral.readInteger text with
        | .ok n => if n < 1 then .error (.unreadable name text) else .ok n
        | .error _ => .error (.unreadable name text)

/-- Bounds from environment variables; those that are unset or blank have their defaults. -/
def ofEnvironment (environment : List (String × String)) : Except LimitsError Limits := do
  let length ← readVariable environment "FLOWFORGE_MAX_FORMULA_LENGTH" default.maxLength
  let nesting ← readVariable environment "FLOWFORGE_MAX_NESTING_DEPTH" default.maxNesting
  let depth ← readVariable environment "FLOWFORGE_MAX_AST_DEPTH" default.maxDepth
  let nodes ← readVariable environment "FLOWFORGE_MAX_NODE_COUNT" default.maxNodes
  ofInts length nesting depth nodes

end Limits

end Formula
