import Formula.Calendar.Moment
import Formula.Number.Basic
import Formula.Record

/-!
The values of formulas: their types, truth, equality and order.
-/

namespace Formula

inductive Value where
  | null
  | bool (b : Bool)
  | number (x : Number)
  | text (s : Text)
  | date (s : Stamp)
  | array (items : List Value)
  | object (fields : List (Text × Value))
  /-- A host value of none of these types, known by its text. -/
  | foreign (text : String)

instance : Inhabited Value := ⟨.null⟩

namespace Value

def int (n : Int) : Value := .number (.int n)

def float (x : Float) : Value := .number (.float x)

def ofNat (n : Nat) : Value := .int n

def typeName : Value → String
  | .null => "null"
  | .bool _ => "boolean"
  | .number _ => "number"
  | .text _ => "string"
  | .date _ => "date"
  | .array _ => "array"
  | .object _ => "object"
  | .foreign _ => "Opaque"

def isNull : Value → Bool
  | .null => true
  | _ => false

def isNumber : Value → Bool
  | .number _ => true
  | _ => false

def isDate : Value → Bool
  | .date _ => true
  | _ => false

def isArray : Value → Bool
  | .array _ => true
  | _ => false

def isObject : Value → Bool
  | .object _ => true
  | _ => false

/-- Null and the empty text. -/
def isBlank : Value → Bool
  | .null => true
  | .text s => s.isEmpty
  | _ => false

/-- Null, false, zero, what is no number, and whatever is empty are false. The truth of a nonzero
integer is found by way of a float, which it must fit. -/
def truth : Value → Except Fault Bool
  | .null => .ok false
  | .bool b => .ok b
  | .number (.int n) =>
      if n = 0 then .ok false else (Number.int n).toFloat.map fun _ => true
  | .number (.float x) => .ok (!(Number.float x).isZero && !x.isNaN)
  | .text s => .ok (!s.isEmpty)
  | .array items => .ok (!items.isEmpty)
  | .object fields => .ok (!fields.isEmpty)
  | .date _ | .foreign _ => .ok true

/-! ### Equality -/

mutual

/-- Equality without conversions: numbers by their exact values, dates as their order has it, arrays
and objects by their contents. A foreign value equals nothing. -/
def equals : Value → Value → Bool
  | .null, .null => true
  | .bool a, .bool b => a == b
  | .number a, .number b => a.equals b
  | .text a, .text b => a == b
  | .date a, .date b => a.equals b
  | .array as, .array bs => equalItems as bs
  | .object as, .object bs => as.length == bs.length && equalFields as bs
  | _, _ => false

def equalItems : List Value → List Value → Bool
  | [], [] => true
  | a :: as, b :: bs => equals a b && equalItems as bs
  | _, _ => false

/-- Every field has an equal in the other object. -/
def equalFields : List (Text × Value) → List (Text × Value) → Bool
  | [], _ => true
  | (name, a) :: rest, bs =>
      (match Record.get? name bs with
        | some b => equals a b
        | none => false) && equalFields rest bs

end

/-! ### Order -/

inductive OrderError where
  | incomparable (left right : String)
  | mixedClocks

def OrderError.message : OrderError → String
  | .incomparable left right => s!"Cannot compare {left} with {right}"
  | .mixedClocks => "Cannot compare dates with and without a timezone"

/-- Null comes before everything else. Apart from it only numbers, texts and dates have an order,
each among themselves. What is no number is level with every number. -/
def compare : Value → Value → Except OrderError Ordering
  | .null, .null => .ok .eq
  | .null, _ => .ok .lt
  | _, .null => .ok .gt
  | .number a, .number b => .ok ((a.compare? b).getD .eq)
  | .text a, .text b => .ok (Ord.compare a b)
  | .date a, .date b =>
      match a.compare? b with
      | some order => .ok order
      | none => .error .mixedClocks
  | a, b => .error (.incomparable a.typeName b.typeName)

/-- Null passes, and so does everything that is no number. -/
def check : Value → Except Fault Value
  | .number x => x.check.map .number
  | v => .ok v

/-- The elements of array arguments and the other arguments, without nulls. -/
def flatten (args : List Value) : List Value :=
  args.flatMap fun arg =>
    match arg with
    | .array items => items.filter (!·.isNull)
    | .null => []
    | v => [v]

end Value

end Formula
