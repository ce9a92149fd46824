import Formula.Function.Calling
import Formula.Json.Reading
import Formula.Json.Writing
import Formula.Text.Blank
import Formula.Text.Case
import Formula.Text.Search

/-!
Texts: parts and search, joining and splitting, case, and formats of numbers and dates. Places of
characters are counted from one.
-/

namespace Formula.Texts

def joinTexts (values : List Value) : Except Fault Text := do
  let texts ← values.mapM Value.toText
  return Text.join texts

def concat (args : List Value) : Except Fault Value := (joinTexts args).map .text

def upper (v : Value) : Except Fault Value := v.toText.map fun t => .text t.upper

def lower (v : Value) : Except Fault Value := v.toText.map fun t => .text t.lower

def trim (v : Value) : Except Fault Value := v.toText.map fun t => .text t.trim

def proper (v : Value) : Except Fault Value := v.toText.map fun t => .text t.capitalizeWords

def countOf (v : Value) (default : Int) : Except Fault Nat := do
  match ← v.toWhole "count" default with
  | .ofNat n => return n
  | .negSucc _ => .error .negativeCount

/-- The place of a character, as the number of characters before it. -/
def startOf (v : Value) : Except Fault Nat := do
  match ← v.toWhole "start" 1 with
  | .ofNat (n + 1) => return n
  | _ => .error .startTooSmall

def ofPoints (points : List CodePoint) : Value := .text ⟨points⟩

def left (v count : Value) : Except Fault Value := do
  let t ← v.toText
  let n ← countOf count 1
  return ofPoints (t.points.take n)

def right (v count : Value) : Except Fault Value := do
  let n ← countOf count 1
  let t ← v.toText
  return ofPoints (t.points.drop (t.length - n))

def mid (v start count : Value) : Except Fault Value := do
  let before ← startOf start
  let n ← countOf count 0
  let t ← v.toText
  return ofPoints ((t.points.drop before).take n)

def length (v : Value) : Except Fault Value := v.toText.map fun t => .ofNat t.length

/-- The place of a text in another at a place or later, zero for none. -/
def find (needle text start : Value) : Except Fault Value := do
  let before ← startOf start
  let t ← text.toText
  let n ← needle.toText
  return .ofNat (((Text.findFrom? n.points t.points before).map (· + 1)).getD 0)

/-- Every occurrence of a text replaced by another; nothing is found in place of an empty text. -/
def replace (v search replacement : Value) : Except Fault Value := do
  let t ← v.toText
  let r ← replacement.toText
  match search.textOrEmpty.points with
  | [] => return .text t
  | first :: others => return ofPoints (Text.replaceAll first others r.points t.points)

/-- The pieces of a text between delimiters; its characters for an empty delimiter. -/
def split (v delimiter : Value) : Value :=
  match v.text? with
  | none => .array []
  | some t =>
      match delimiter.textOrEmpty.points with
      | [] => .array (t.points.map fun point => .text (.singleton point))
      | first :: others => .array ((Text.splitOn first others t.points).map ofPoints)

def join (v delimiter : Value) : Except Fault Value :=
  match v.items? with
  | none => .ok (.text "")
  | some items => do
      let pieces ← items.mapM Value.toText
      return ofPoints
        (Text.joinWith (delimiter.text?.getD ",").points (pieces.map Text.points))

def startsWith (v start : Value) : Except Fault Value :=
  match v.text? with
  | none => .ok (.bool false)
  | some t => start.toText.map fun p => .bool (p.points.isPrefixOf t.points)

def endsWith (v ending : Value) : Except Fault Value :=
  match v.text? with
  | none => .ok (.bool false)
  | some t => ending.toText.map fun p => .bool (p.points.isSuffixOf t.points)

/-! ### Formats -/

/-- A format of numbers: whether thousands are grouped, and the number of decimal places. -/
structure NumberFormat where
  grouped : Bool
  places : Nat
deriving DecidableEq, Repr

def isFormatDigit (point : CodePoint) : Bool :=
  point.satisfies fun c => c == '#' || c == '0' || c == ','

/-- As many places as there are zeros behind a point, none without one. -/
def placesOf? : List CodePoint → Option Nat
  | [] => some 0
  | .char '.' :: zeros =>
      if !zeros.isEmpty && zeros.all (· == .char '0') then some zeros.length else none
  | _ => none

/-- Number signs, zeros and commas, and perhaps a point with zeros after it. -/
def NumberFormat.read? (format : List CodePoint) : Option NumberFormat :=
  let whole := format.takeWhile isFormatDigit
  if whole.isEmpty then none
  else (placesOf? (format.dropWhile isFormatDigit)).map (⟨whole.contains (.char ','), ·⟩)

def NumberFormat.write (f : NumberFormat) (x : Number) : Except Fault (List Char) :=
  (x.roundTo f.places).map fun d => d.writeFixed f.places f.grouped

/-- A number as a part of a date, with zeros in front. -/
def datePart (width n : Nat) : List CodePoint := (padZeros width (digitChars n)).map .char

/-- Years, months, days, hours, minutes and seconds by their letters; the rest stands as it is. -/
def formatDate (s : Stamp) : List CodePoint → List CodePoint
  | .char 'Y' :: .char 'Y' :: .char 'Y' :: .char 'Y' :: rest =>
      datePart 4 s.date.year ++ formatDate s rest
  | .char 'M' :: .char 'M' :: rest => datePart 2 s.date.month ++ formatDate s rest
  | .char 'D' :: .char 'D' :: rest => datePart 2 s.date.day ++ formatDate s rest
  | .char 'H' :: .char 'H' :: rest => datePart 2 s.hour ++ formatDate s rest
  | .char 'm' :: .char 'm' :: rest => datePart 2 s.minute ++ formatDate s rest
  | .char 's' :: .char 's' :: rest => datePart 2 s.second ++ formatDate s rest
  | point :: rest => point :: formatDate s rest
  | [] => []

/-- A number or a date in a format. What the format does not fit has its own text. -/
def format (v pattern : Value) : Except Fault Value :=
  let letters := pattern.textOrEmpty.points
  match v, NumberFormat.read? letters with
  | .number x, some f => (f.write x).map fun cs => .text (.ofChars cs)
  | .date s, _ =>
      if letters.isEmpty then v.toText.map .text else .ok (ofPoints (formatDate s letters))
  | v, _ => v.toText.map .text

/-! ### JSON -/

/-- The value of a JSON text; null for any other text. -/
def parseJson (v : Value) : Except CallFailure Value :=
  match v.text? with
  | none => .ok .null
  | some t =>
      match Json.read t with
      | .ok value => .ok value
      | .error .invalid => .ok .null
      | .error .tooDeep => .error .host
      | .error (.fault f) => .error (.fault f)

def writeJson (v : Value) : Except Fault Value := (Json.write v).map .text

end Formula.Texts
