import Formula.Error
import Formula.Expr.Basic
import Formula.Json.Writing

/-!
What the operators do to values. Errors have no place yet; the evaluator adds the place of the node.
-/

namespace Formula

/-- An error of the formula whose place is not known yet. -/
def Stop.cause (c : RuntimeCause) : Stop := .failed (.runtime ⟨c, none, none⟩)

/-- Gives a runtime error the place of a node, unless it has a place. -/
def Stop.locate (position : Nat) : Stop → Stop
  | .failed (.runtime e) => .failed (.runtime { e with position := e.position.or (some position) })
  | stop => stop

namespace Value

/-- The truth of a value in an operator; a value without one stops the evaluation. -/
def decide (v : Value) : Except Stop Bool := v.truth.mapError fun f => .broken (.fault f)

def operandText (v : Value) : Except Stop Text := v.toText.mapError fun f => .cause (.noText f)

/-- The property of an object, of every object of an array, or the length of an array or a text. -/
def property (v : Value) (name : String) : Except Stop Value :=
  match v with
  | .null => .ok .null
  | .object fields => .ok ((Record.get? (Text.ofString name) fields).getD .null)
  | .array items =>
      if name = "length" then .ok (.ofNat items.length)
      else
        .ok (.array (items.map fun item =>
          match item with
          | .object fields => (Record.get? (Text.ofString name) fields).getD .null
          | _ => .null))
  | .text t =>
      if name = "length" then .ok (.ofNat t.length) else .error (.cause (.noProperty name "string"))
  | v => .error (.cause (.noProperty name v.typeName))

def toIndex (key : Value) : Except Stop Int :=
  let whole? := match key with
    | .number x => x.wholeValue?
    | _ => none
  match whole? with
  | some n => .ok n
  | none => do .error (.cause (.indexNotWhole (← key.operandText)))

/-- The item at an index from zero; nothing is outside. -/
def itemAt (items : List Value) (index : Int) : Value :=
  match index with
  | .ofNat n => (items[n]?).getD .null
  | .negSucc _ => .null

/-- The characters of a text, each a text. -/
def characters (t : Text) : List Value := t.points.map fun point => .text (.singleton point)

/-- The field of an object that a key's text names, or the item of an array or a text. -/
def at_ (v key : Value) : Except Stop Value :=
  match v, key with
  | .null, _ | _, .null => .ok .null
  | .object fields, key => do return (Record.get? (← key.operandText) fields).getD .null
  | .array items, key => do return itemAt items (← key.toIndex)
  | .text t, key => do return itemAt (characters t) (← key.toIndex)
  | v, _ => .error (.cause (.notIndexable v.typeName))

def order (a b : Value) : Except Stop Ordering := (a.compare b).mapError fun e => .cause (.order e)

end Value

inductive Arithmetic where
  | add
  | subtract
  | multiply
  | divide
  | modulo
  | power
deriving DecidableEq, Repr

namespace Arithmetic

def symbol : Arithmetic → String
  | .add => "+"
  | .subtract => "-"
  | .multiply => "*"
  | .divide => "/"
  | .modulo => "%"
  | .power => "**"

/-- The operation on numbers, of which the second is not zero where it divides. -/
def apply (op : Arithmetic) (a b : Number) : Except Fault Number :=
  match op with
  | .add => do (← a.add b).check
  | .subtract => do (← a.subtract b).check
  | .multiply => a.multiply b
  | .divide => a.divide b
  | .modulo => do (← a.remainder b).check
  | .power => a.power b

def zeroDivision? : Arithmetic → Option RuntimeCause
  | .divide => some .divisionByZero
  | .modulo => some .moduloByZero
  | _ => none

def divisorIsZero : Value → Bool
  | .number x => x.isZero
  | _ => false

/-- Division by zero is an error whatever is divided. Null operands give null, and other operands
must be numbers. -/
def evaluate (op : Arithmetic) (left right : Value) : Except Stop Value :=
  match op.zeroDivision?, divisorIsZero right with
  | some cause, true => .error (.cause cause)
  | _, _ =>
      match left, right with
      | .null, _ | _, .null => .ok .null
      | .number a, .number b =>
          match op.apply a b with
          | .ok x => .ok (.number x)
          | .error f => .error (.cause (.arithmetic op.symbol f))
      | left, right => .error (.cause (.cannotApply op.symbol left.typeName right.typeName))

end Arithmetic

def concatenate (left right : Value) : Except Stop Value := do
  let leftText ← left.operandText
  let rightText ← right.operandText
  return .text (leftText ++ rightText)

def isText : Value → Bool
  | .text _ => true
  | _ => false

/-- What a binary operator makes of its operands. A sum with a text is a concatenation. -/
def BinaryOp.evaluate (op : BinaryOp) (left right : Value) : Except Stop Value :=
  match op with
  | .equal => .ok (.bool (left.equals right))
  | .notEqual => .ok (.bool (!left.equals right))
  | .less => do return .bool ((← left.order right) == .lt)
  | .lessOrEqual => do return .bool ((← left.order right) != .gt)
  | .greater => do return .bool ((← left.order right) == .gt)
  | .greaterOrEqual => do return .bool ((← left.order right) != .lt)
  | .concat => concatenate left right
  | .add => if isText left || isText right then concatenate left right
      else Arithmetic.add.evaluate left right
  | .subtract => Arithmetic.subtract.evaluate left right
  | .multiply => Arithmetic.multiply.evaluate left right
  | .divide => Arithmetic.divide.evaluate left right
  | .modulo => Arithmetic.modulo.evaluate left right
  | .power => Arithmetic.power.evaluate left right
  | .other symbol => .error (.cause (.unknownOperator symbol))

def UnaryOp.evaluate (op : UnaryOp) (operand : Value) : Except Stop Value :=
  match op, operand with
  | .not, v => do return .bool (!(← v.decide))
  | .negate, .null => .ok .null
  | .negate, .number x => .ok (.number x.negate)
  | .negate, v => .error (.cause (.cannotNegate v.typeName))
  | .other symbol, _ => .error (.cause (.unknownUnaryOperator symbol))

end Formula
