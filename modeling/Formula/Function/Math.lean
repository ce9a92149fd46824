import Formula.Function.Calling
import Formula.Number.Numeral
import Formula.Text.Blank

/-!
Sums, rounding, roots and the reading of numbers.
-/

namespace Formula.Math

/-- The numbers among arguments, arrays flattened and nulls left out. -/
def numbers (args : List Value) : Except Fault (List Number) :=
  (Value.flatten args).mapM fun v =>
    match v with
    | .number x => .ok x
    | v => .error (.expectedNumbers v.typeName)

def total (xs : List Number) : Except Fault Number := xs.foldlM Number.add (.int 0)

def sum (args : List Value) : Except Fault Value := do
  return .number (← total (← numbers args))

/-- A quotient that is a float also where it comes out even. -/
def divideExactly (x : Number) (count : Nat) : Except Fault Float :=
  match x with
  | .int n => Number.quotient n count
  | .float y => .ok (y / Float.ofNat count)

/-- The mean, zero for no numbers. -/
def average (args : List Value) : Except Fault Value := do
  let xs ← numbers args
  if xs.isEmpty then return .int 0
  else return .float (← divideExactly (← total xs) xs.length)

/-- The first of the numbers that no later one stands before, in the order given. -/
def extreme (before : Ordering) (args : List Value) : Except Fault Value := do
  match ← numbers args with
  | [] => return .int 0
  | x :: xs =>
      return .number (xs.foldl (fun best y => if y.compare? best = some before then y else best) x)

def minimum (args : List Value) : Except Fault Value := extreme .lt args

def maximum (args : List Value) : Except Fault Value := extreme .gt args

/-- A function of a number that leaves null as it is. -/
def onNumber (f : Number → Except Fault Value) (v : Value) : Except Fault Value :=
  match v.number? with
  | some x => f x
  | none => .ok .null

def absolute : Value → Except Fault Value := onNumber fun x => .ok (.number x.abs)

/-- Half goes away from zero. Without decimal places the result is an integer. -/
def round (v digits : Value) : Except Fault Value :=
  onNumber (fun x => do
    let places ← digits.toWhole "digits" 0
    let rounded ← x.roundTo places
    if places ≤ 0 then return .int rounded.toInt else return .float rounded.toFloat) v

def floor : Value → Except Fault Value := onNumber fun x => x.floor.map .int

def ceil : Value → Except Fault Value := onNumber fun x => x.ceil.map .int

def power (base exponent : Value) : Except Fault Value :=
  onNumber (fun x => onNumber (fun y => (x.power y).map .number) exponent) base

def squareRoot : Value → Except Fault Value := onNumber fun x => x.squareRoot.map .number

/-- The remainder with the sign of the divisor, which must not be zero. -/
def modulo (dividend divisor : Value) : Except Fault Value :=
  onNumber (fun y =>
    if y.isZero then .error .divisionByZero
    else onNumber (fun x => (x.remainder y).map .number) dividend) divisor

def count (args : List Value) : Value := .ofNat (Value.flatten args).length

/-- The sum of the values whose conditions equal a value. -/
def sumIf (values conditions wanted : Value) : Except Fault Value := do
  let matching := (values.items.zip conditions.items).filterMap fun (v, condition) =>
    if condition.equals wanted then v.number? else none
  return .number (← total matching)

/-- The number that a text or a boolean stands for. -/
def number (v : Value) : Except Fault Value :=
  match v with
  | .null | .number _ => .ok v
  | .bool b => .ok (.int (if b then 1 else 0))
  | .text t =>
      let text := t.trim
      match Numeral.readInteger text with
      | .ok n => .ok (.int n)
      | .error _ => (Numeral.readFloat text).map .float
  | v => .error (.cannotConvert v.typeName)

end Formula.Math
