import Formula.Function.Definition

/-!
From lists of arguments to functions of a fixed number of values. A missing argument is null.
-/

namespace Formula

def argument (args : List Value) (index : Nat) : Value := (args[index]?).getD .null

namespace Value

def number? : Value → Option Number
  | .number x => some x
  | _ => none

def text? : Value → Option Text
  | .text s => some s
  | _ => none

def items? : Value → Option (List Value)
  | .array items => some items
  | _ => none

/-- The items of an array, none for anything else. -/
def items (v : Value) : List Value := v.items?.getD []

def textOrEmpty (v : Value) : Text := v.text?.getD ""

end Value

/-- The integer that an argument must be, under the name that errors give it. -/
def Number.toWhole (name : String) (x : Number) : Except Fault Int :=
  match x with
  | .int n => .ok n
  | .float y =>
      match x.wholeValue? with
      | some n => .ok n
      | none => .error (.notWhole name (floatText y))

/-- The integer that an argument must be, with a default for null. -/
def Value.toWhole (name : String) (default : Int) (v : Value) : Except Fault Int :=
  match v.number? with
  | some x => x.toWhole name
  | none => .ok default

/-- What a function does in any context. -/
abbrev Implementation := Context → List Value → Except CallFailure Value

namespace Implementation

def ofList (f : List Value → Except Fault Value) : Implementation :=
  fun _ args => (f args).mapError .fault

def ofOne (f : Value → Except Fault Value) : Implementation :=
  fun _ args => (f (argument args 0)).mapError .fault

def ofTwo (f : Value → Value → Except Fault Value) : Implementation :=
  fun _ args => (f (argument args 0) (argument args 1)).mapError .fault

def ofThree (f : Value → Value → Value → Except Fault Value) : Implementation :=
  fun _ args => (f (argument args 0) (argument args 1) (argument args 2)).mapError .fault

def ofTotal (f : List Value → Value) : Implementation := fun _ args => .ok (f args)

end Implementation

end Formula
