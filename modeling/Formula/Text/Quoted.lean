import Formula.Text.Basic
import Formula.Text.Printable

/-!
Text in quotes, as messages show it: in single quotes, or in double quotes when it holds a single
and no double quote. What cannot be shown is written with a backslash.
-/

namespace Formula.Text

/-- The quote that needs the fewest backslashes, the single quote where both are alike. -/
def quoteFor (t : Text) : Char :=
  if t.points.contains (.char '\'') && !t.points.contains (.char '"') then '"' else '\''

def hexDigit (n : Nat) : Char := (Nat.digitChar (n % 16))

/-- The lowest `width` hexadecimal digits of a number. -/
def hex (width n : Nat) : List Char :=
  (List.range width).reverse.map fun place => hexDigit (n / Nat.pow 16 place)

def quoteChar (quote c : Char) : List Char :=
  if c == quote || c == '\\' then ['\\', c]
  else if c == '\t' then ['\\', 't']
  else if c == '\n' then ['\\', 'n']
  else if c == '\r' then ['\\', 'r']
  else if isPrintable c then [c]
  else if c.toNat < 0x100 then '\\' :: 'x' :: hex 2 c.toNat
  else if c.toNat < 0x10000 then '\\' :: 'u' :: hex 4 c.toNat
  else '\\' :: 'U' :: hex 8 c.toNat

/-- A half of a surrogate pair is never shown as it is. -/
def quotePoint (quote : Char) : CodePoint → List Char
  | .char c => quoteChar quote c
  | .half index => '\\' :: 'u' :: hex 4 (CodePoint.half index).code

def quote (t : Text) : String :=
  let mark := quoteFor t
  String.ofList (mark :: t.points.flatMap (quotePoint mark) ++ [mark])

end Formula.Text
