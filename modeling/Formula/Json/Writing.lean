import Formula.Text.Quoted
import Formula.Value.Basic

/-!
Compact JSON text of values, and the text of values in formulas. Dates and foreign values are JSON
strings of their text.
-/

namespace Formula

namespace Json

def escapeChar (c : Char) : List Char :=
  if c == '"' then ['\\', '"']
  else if c == '\\' then ['\\', '\\']
  else if c == '\n' then ['\\', 'n']
  else if c == '\r' then ['\\', 'r']
  else if c == '\t' then ['\\', 't']
  else if c.toNat = 8 then ['\\', 'b']
  else if c.toNat = 12 then ['\\', 'f']
  else if c.toNat < 32 then '\\' :: 'u' :: Text.hex 4 c.toNat
  else [c]

/-- Halves of surrogate pairs stand for themselves. -/
def escapePoint : CodePoint → List CodePoint
  | .char c => (escapeChar c).map .char
  | .half index => [.half index]

def writeString (t : Text) : Text :=
  Text.ofString "\"" ++ ⟨t.points.flatMap escapePoint⟩ ++ "\""

/-- Infinities and what is no number have names of their own. -/
def floatChars (x : Float) : List Char :=
  match Binary.ofFloat x with
  | .nan => "NaN".toList
  | .infinite negative => Decimal.signChars negative ++ "Infinity".toList
  | .finite .. => Formula.floatChars x

def writeNumber : Number → Except Fault Text
  | .int n => (Number.integerText n).map .ofString
  | .float x => .ok (.ofChars (floatChars x))

mutual

def write : Value → Except Fault Text
  | .null => .ok "null"
  | .bool b => .ok (if b then "true" else "false")
  | .number x => writeNumber x
  | .text t => .ok (writeString t)
  | .date s => .ok (writeString s.text)
  | .foreign s => .ok (writeString s)
  | .array items => do return Text.ofString "[" ++ (← writeItems items) ++ "]"
  | .object fields => do return Text.ofString "\x7b" ++ (← writeFields fields) ++ "\x7d"

def writeItems : List Value → Except Fault Text
  | [] => .ok ""
  | [v] => write v
  | v :: w :: rest => do return (← write v) ++ Text.ofString "," ++ (← writeItems (w :: rest))

def writeFields : List (Text × Value) → Except Fault Text
  | [] => .ok ""
  | [(name, v)] => do return writeString name ++ ":" ++ (← write v)
  | (name, v) :: field :: rest => do
      return writeString name ++ ":" ++ (← write v) ++ "," ++ (← writeFields (field :: rest))

end

end Json

/-- The text of a value in formulas: nothing for null, JSON for arrays and objects. -/
def Value.toText : Value → Except Fault Text
  | .null => .ok ""
  | .bool b => .ok (if b then "true" else "false")
  | .number x => x.text.map .ofString
  | .text t => .ok t
  | .date s => .ok s.text
  | .foreign s => .ok s
  | v => Json.write v

end Formula
