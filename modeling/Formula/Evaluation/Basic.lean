import Formula.Evaluation.Operators
import Formula.Function.Registry
import Formula.Host

/-!
Evaluating trees. Every node takes one level of a budget, which bounds the depth of the evaluation.
An error has the place of the innermost node that failed.
-/

namespace Formula

/-- What an evaluation has at hand. -/
structure Environment where
  context : Context
  registry : Registry
  /-- The bound on the depth that errors name. -/
  maxDepth : Int
  host : Host

namespace Environment

/-- The bound that a node is too deep for, or the host's where that comes first. -/
def tooDeep (env : Environment) (position : Nat) : Stop :=
  if env.maxDepth ≤ env.host.depth then
    .failed (.limit (.evaluationDepth env.maxDepth) (some position))
  else .failed (.limit .host none)

/-- Evaluates a node at a position with a level less for its parts. -/
def enter (env : Environment) (levels position : Nat) (body : Nat → Except Stop Value) :
    Except Stop Value :=
  match levels with
  | 0 => .error (env.tooDeep position)
  | deeper + 1 => (body deeper).mapError (Stop.locate position)

end Environment

/-- Calls the function of a name, if there is one, on arguments that are evaluated then. -/
def Registry.call (r : Registry) (context : Context) (callee : String) (position : Nat)
    (arguments : Except Stop (List Value)) : Except Stop Value :=
  match r.find? callee with
  | none =>
      .error (.failed (.runtime
        ⟨.unknownFunction callee, some position, some (Text.upperName callee)⟩))
  | some d => do
      let args ← arguments
      match d.checkArguments args with
      | .error cause => .error (.failed (.runtime ⟨cause, some position, some d.name⟩))
      | .ok () => (d.call context args).mapError (Stop.locate position)

namespace Expr

mutual

/-- The value of a tree, whose parts may be `levels` deep. -/
def evaluate (env : Environment) : Expr → Nat → Except Stop Value
  | .unknown, _ => .error (.cause .unknownNode)
  | .literal kind raw position, levels =>
      env.enter levels position fun _ =>
        (literalValue kind raw).mapError fun f => .broken (.fault f)
  | .identifier name position, levels =>
      env.enter levels position fun _ =>
        (env.context.resolve name).mapError fun f => .broken (.fault f)
  | .member base name position, levels =>
      env.enter levels position fun deeper => do
        let v ← evaluate env base deeper
        v.property name
  | .index base key position, levels =>
      env.enter levels position fun deeper => do
        let v ← evaluate env base deeper
        let k ← evaluate env key deeper
        v.at_ k
  | .array elements position, levels =>
      env.enter levels position fun deeper => do
        return .array (← evaluateAll env elements deeper)
  | .object properties position, levels =>
      env.enter levels position fun deeper => do
        return .object (Record.ofList (← evaluateProperties env properties deeper))
  | .unary op operand position, levels =>
      env.enter levels position fun deeper => do
        let v ← evaluate env operand deeper
        op.evaluate v
  | .binary op left right position, levels =>
      env.enter levels position fun deeper => do
        let a ← evaluate env left deeper
        let b ← evaluate env right deeper
        op.evaluate a b
  | .logical op left right position, levels =>
      env.enter levels position fun deeper => do
        let a ← (← evaluate env left deeper).decide
        match op with
        | .and =>
            if a then return .bool (← (← evaluate env right deeper).decide)
            else return .bool false
        | .or =>
            if a then return .bool true
            else return .bool (← (← evaluate env right deeper).decide)
        | .other symbol => .error (.cause (.unknownLogicalOperator symbol))
  | .conditional test consequent alternate position, levels =>
      env.enter levels position fun deeper => do
        if ← (← evaluate env test deeper).decide then evaluate env consequent deeper
        else evaluate env alternate deeper
  | .call callee arguments position, levels =>
      env.enter levels position fun deeper =>
        env.registry.call env.context callee position (evaluateAll env arguments deeper)

def evaluateAll (env : Environment) : List Expr → Nat → Except Stop (List Value)
  | [], _ => .ok []
  | e :: rest, levels => do
      let v ← evaluate env e levels
      return v :: (← evaluateAll env rest levels)

def evaluateProperties (env : Environment) :
    List (String × Expr) → Nat → Except Stop (List (Text × Value))
  | [], _ => .ok []
  | (name, e) :: rest, levels => do
      let v ← evaluate env e levels
      return (name, v) :: (← evaluateProperties env rest levels)

end

/-- The value of a tree within a bound on the depth. -/
def value (e : Expr) (context : Context) (registry : Registry) (maxDepth : Int) (host : Host) :
    Except Stop Value :=
  e.evaluate ⟨context, registry, maxDepth, host⟩ (min maxDepth.toNat host.depth)

end Expr

end Formula
