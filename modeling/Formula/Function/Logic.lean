import Formula.Function.Calling

/-!
Choices between values, and truth.
-/

namespace Formula.Logic

/-- Both values are there already; the condition chooses. -/
def choose (condition whenTrue whenFalse : Value) : Except Fault Value := do
  if ← condition.truth then return whenTrue else return whenFalse

/-- The value after the first condition that is true. -/
def firstTrue : List Value → Except Fault Value
  | condition :: v :: rest => do if ← condition.truth then return v else firstTrue rest
  | _ => .ok .null

/-- Conditions and values by turns. -/
def choosePairs (args : List Value) : Except Fault Value :=
  if args.length % 2 = 1 then .error .oddPairs else firstTrue args

/-- The result after the first case that equals a value, else the default that may come last. -/
def switchCases (v : Value) : List Value → Value
  | [] => .null
  | [default] => default
  | case :: result :: rest => if v.equals case then result else switchCases v rest

def switch : List Value → Value
  | [] => .null
  | v :: cases => switchCases v cases

/-- All are true; what comes after the first that is not is not looked at. -/
def all : List Value → Except Fault Bool
  | [] => .ok true
  | v :: rest => do if ← v.truth then all rest else return false

/-- One is true; what comes after the first that is is not looked at. -/
def any : List Value → Except Fault Bool
  | [] => .ok false
  | v :: rest => do if ← v.truth then return true else any rest

def not (v : Value) : Except Fault Value := v.truth.map fun b => .bool !b

/-- The first argument that is not null. -/
def coalesce (args : List Value) : Value := (args.find? (!·.isNull)).getD .null

end Formula.Logic
