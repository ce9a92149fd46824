import Formula.Evaluation.Basic
import Formula.Expr.Bounded
import Formula.Function.Library

/-!
An engine evaluates formulas with the functions of a registry, within limits, on a host. What is
wrong with a formula is part of the outcome; a defect is none of the formula's errors and stops the
engine.
-/

namespace Formula

structure Engine where
  registry : Registry := .builtin
  limits : Limits := .default
  host : Host

/-- What comes out of a formula. -/
inductive Outcome where
  | value (v : Value)
  | error (e : ErrorInfo)

namespace Outcome

def value? : Outcome → Option Value
  | .value v => some v
  | .error _ => none

def error? : Outcome → Option ErrorInfo
  | .value _ => none
  | .error e => some e

/-- The fields that later formulas see: a value is the field of its name, an error changes
nothing. -/
def extend (name : String) (fields : Record String Value) : Outcome → Record String Value
  | .value v => fields.put name v
  | .error _ => fields

end Outcome

namespace Engine

def parse (engine : Engine) (formula : String) : Except ErrorInfo Expr.Measured :=
  (Expr.parseWithin engine.host engine.limits formula).mapError FormulaError.info

def evaluateTree (engine : Engine) (tree : Expr) (context : Context) : Except Defect Outcome :=
  match tree.value context engine.registry engine.limits.maxDepth engine.host with
  | .ok v => .ok (.value v)
  | .error (.failed e) => .ok (.error e.info)
  | .error (.broken d) => .error d

def evaluate (engine : Engine) (formula : String) (context : Context) : Except Defect Outcome :=
  match engine.parse formula with
  | .ok parsed => engine.evaluateTree parsed.expr context
  | .error e => .ok (.error e)

/-- Evaluates formulas one after the other, each of which sees the values of those before it. -/
def evaluateEach (engine : Engine) (context : Context) :
    Record String String → Record String Value → Except Defect (Record String Outcome)
  | [], _ => .ok []
  | (id, formula) :: rest, fields => do
      let outcome ← engine.evaluate formula (context.scope fields)
      return (id, outcome) :: (← evaluateEach engine context rest (outcome.extend id fields))

/-- Evaluates named formulas in their order. A name that comes again keeps its first place and has
its last formula. -/
def evaluateBatch (engine : Engine) (formulas : List (String × String)) (context : Context) :
    Except Defect (Record String Outcome) :=
  engine.evaluateEach context (Record.ofList formulas) context.fields

end Engine

end Formula
