import Formula.Expr.Export
import Formula.Highlight
import Formula.Suggestion
import Formula.Validation

/-!
Results as the objects that answers are made of.
-/

namespace Formula

def Value.ofText? : Option String → Value
  | some s => .text s
  | none => .null

def Value.ofPosition? : Option Nat → Value
  | some n => .ofNat n
  | none => .null

def Value.ofTexts (texts : List String) : Value := .array (texts.map fun s => .text (.ofString s))

def ErrorInfo.toValue (e : ErrorInfo) : Value :=
  .object [
    ("message", .text e.message),
    ("kind", .text e.kind),
    ("position", .ofPosition? e.position),
    ("functionName", .ofText? e.function)]

def Outcome.toValue (o : Outcome) : Value :=
  let v := o.value?.getD .null
  .object [
    ("success", .bool o.value?.isSome),
    ("value", v),
    ("valueType", .text v.typeName),
    ("error", (o.error?.map ErrorInfo.toValue).getD .null)]

def Expr.resultValue (result : Except ErrorInfo Expr.Measured) : Except Fault Value :=
  let entries := fun (tree error : Value) (nodes depth : Nat) (success : Bool) =>
    .object [
      ("success", .bool success),
      ("ast", tree),
      ("error", error),
      ("nodeCount", .ofNat nodes),
      ("depth", .ofNat depth)]
  match result with
  | .ok parsed => return entries (← parsed.expr.toValue) .null parsed.nodes parsed.depth true
  | .error e => .ok (entries .null e.toValue 0 0 false)

def Issue.toValue (issue : Issue) : Value :=
  .object [
    ("type", .text issue.type),
    ("message", .text issue.message),
    ("position", .ofPosition? issue.position?)]

def Validation.toValue (v : Validation) : Value :=
  .object [
    ("valid", .bool v.isValid),
    ("errors", .array (v.issues.map Issue.toValue)),
    ("referencedFields", .ofTexts v.fields),
    ("referencedFunctions", .ofTexts v.functions)]

def Highlight.Span.toValue (s : Highlight.Span) : Value :=
  .object [
    ("type", .text s.category.name),
    ("value", .text s.text),
    ("start", .ofNat s.start),
    ("end", .ofNat s.stop)]

def Suggestion.toValue (s : Suggestion) : Value :=
  .object [
    ("type", .text s.kind.name),
    ("label", .text s.label),
    ("insertText", .text s.insertText),
    ("description", .ofText? s.description),
    ("category", .ofText? s.category)]

namespace Api

/-! ### What can be sent -/

/-- The distance from universal time in hours and minutes, `Z` for none. It is rounded to seconds
first, half away from zero; the seconds are left out. -/
def offsetText (o : Calendar.Offset) : String :=
  let seconds := (o.micros.natAbs + 500000) / 1000000
  let minutes := seconds / 60
  let twoDigits := fun n => String.ofList (padZeros 2 (digitChars n))
  let sign := if o.micros < 0 then "-" else "+"
  if seconds = 0 then "Z"
  else sign ++ twoDigits (minutes / 60) ++ ":" ++ twoDigits (minutes % 60)

/-- Dates are sent as texts. -/
def stampText : Stamp → String
  | .day d => d.text
  | .moment m => ({ m with zone := none }).text ++ (m.offset.map offsetText).getD ""

mutual

/-- A value as it is sent: dates as texts, and null for what is no finite number. -/
def sent : Value → Value
  | .date s => .text (stampText s)
  | .number (.float x) => if x.isFinite then .float x else .null
  | .array items => .array (sentItems items)
  | .object fields => .object (sentFields fields)
  | v => v

def sentItems : List Value → List Value
  | [] => []
  | v :: rest => sent v :: sentItems rest

def sentFields : List (Text × Value) → List (Text × Value)
  | [] => []
  | (name, v) :: rest => (name, sent v) :: sentFields rest

end

mutual

/-- The number of values from a value down to the deepest one in it. -/
def depth : Value → Nat
  | .array items => depthOfItems items + 1
  | .object fields => depthOfFields fields + 1
  | _ => 1

def depthOfItems : List Value → Nat
  | [] => 0
  | v :: rest => max (depth v) (depthOfItems rest)

def depthOfFields : List (Text × Value) → Nat
  | [] => 0
  | (_, v) :: rest => max (depth v) (depthOfFields rest)

end

mutual

def isWhole : Value → Bool
  | .text t => t.isWhole
  | .array items => areWholeItems items
  | .object fields => areWholeFields fields
  | _ => true

def areWholeItems : List Value → Bool
  | [] => true
  | v :: rest => isWhole v && areWholeItems rest

def areWholeFields : List (Text × Value) → Bool
  | [] => true
  | (name, v) :: rest => name.isWhole && isWhole v && areWholeFields rest

end

/-- Values nested more deeply are not sent. -/
def maxDepth : Nat := 256

def canBeSent (v : Value) : Bool := depth v ≤ maxDepth && isWhole v

end Api

end Formula
