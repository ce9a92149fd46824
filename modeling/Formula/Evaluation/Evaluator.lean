import Formula.Evaluation.Basic

/-!
Evaluators that are kept for one tree after the other. An evaluator counts the nodes that it is in
and refuses the one that is too many. It counts a node out again however it leaves the node: with a
value, with an error of the formula, or with a defect.
-/

namespace Formula

/-- A part of an evaluation: what it comes to, and the nodes that are counted before and after. -/
abbrev Counting := ExceptT Stop (StateM Nat)

namespace Counting

/-- As many nodes may be counted at once as the bound allows and the host can follow. -/
def admits (env : Environment) (count : Nat) : Bool :=
  decide ((count : Int) ≤ env.maxDepth) && decide (count ≤ env.host.depth)

/-- Counts a node at a position in while it is evaluated. -/
def enter (env : Environment) (position : Nat) (body : Counting Value) : Counting Value := do
  modify (· + 1)
  if admits env (← get) then
    try body
    catch stop => throw (stop.locate position)
    finally modify (· - 1)
  else
    modify (· - 1)
    throw (env.tooDeep position)

/-- A fault outside every operator and call is a defect. -/
def unguarded (v : Except Fault Value) : Counting Value :=
  liftM (v.mapError fun f => Stop.broken (.fault f))

mutual

/-- The value of a tree. A node of no known type is never counted, and the arguments of a function
that is not known are not evaluated. -/
def evaluate (env : Environment) : Expr → Counting Value
  | .unknown => throw (.cause .unknownNode)
  | .literal kind raw position =>
      enter env position (unguarded (Expr.literalValue kind raw))
  | .identifier name position =>
      enter env position (unguarded (env.context.resolve name))
  | .member base name position =>
      enter env position do
        let v ← evaluate env base
        v.property name
  | .index base key position =>
      enter env position do
        let v ← evaluate env base
        let k ← evaluate env key
        v.at_ k
  | .array elements position =>
      enter env position do return .array (← evaluateAll env elements)
  | .object properties position =>
      enter env position do
        return .object (Record.ofList (← evaluateProperties env properties))
  | .unary op operand position =>
      enter env position do
        let v ← evaluate env operand
        op.evaluate v
  | .binary op left right position =>
      enter env position do
        let a ← evaluate env left
        let b ← evaluate env right
        op.evaluate a b
  | .logical op left right position =>
      enter env position do
        let a ← (← evaluate env left).decide
        match op with
        | .and =>
            if a then return .bool (← (← evaluate env right).decide) else return .bool false
        | .or =>
            if a then return .bool true else return .bool (← (← evaluate env right).decide)
        | .other symbol => throw (.cause (.unknownLogicalOperator symbol))
  | .conditional test consequent alternate position =>
      enter env position do
        if ← (← evaluate env test).decide then evaluate env consequent
        else evaluate env alternate
  | .call callee arguments position =>
      enter env position do
        if env.registry.contains callee then
          let args ← evaluateAll env arguments
          env.registry.call env.context callee position (.ok args)
        else env.registry.call env.context callee position (.ok [])

def evaluateAll (env : Environment) : List Expr → Counting (List Value)
  | [] => return []
  | e :: rest => do
      let v ← evaluate env e
      return v :: (← evaluateAll env rest)

def evaluateProperties (env : Environment) :
    List (String × Expr) → Counting (List (Text × Value))
  | [] => return []
  | (name, e) :: rest => do
      let v ← evaluate env e
      return (name, v) :: (← evaluateProperties env rest)

end

end Counting

/-- An evaluator between two nodes, or between two trees. -/
structure Evaluator where
  env : Environment
  /-- The nodes that are counted. -/
  count : Nat := 0

namespace Evaluator

def new (context : Context) (registry : Registry) (maxDepth : Int) (host : Host) : Evaluator where
  env := ⟨context, registry, maxDepth, host⟩

/-- What a tree comes to, and the evaluator afterwards. -/
def evaluate (evaluator : Evaluator) (e : Expr) : Except Stop Value × Evaluator :=
  let (outcome, count) := (Counting.evaluate evaluator.env e).run.run evaluator.count
  (outcome, { evaluator with count })

/-- Evaluates trees one after the other, each with the evaluator that the one before left. -/
def evaluateEach (evaluator : Evaluator) : List Expr → List (Except Stop Value) × Evaluator
  | [] => ([], evaluator)
  | e :: rest =>
      let (outcome, next) := evaluator.evaluate e
      let (outcomes, last) := next.evaluateEach rest
      (outcome :: outcomes, last)

end Evaluator

end Formula
