import Formula.Number.Numeral
import Formula.Value.Basic

/-!
Reading JSON text. A reader takes a value from the front of the text and returns the rest, which is
shorter. Arrays and objects may be nested up to a bound, which is reported apart from a text that
is no JSON.
-/

namespace Formula.Json

inductive ReadError where
  | invalid
  | tooDeep
  | fault (f : Fault)

/-- What was read from the front of a text, and the rest of it. -/
structure Read (α : Type) (cs : List CodePoint) where
  value : α
  rest : List CodePoint
  shorter : rest.length < cs.length

abbrev Reader (α : Type) := (cs : List CodePoint) → Except ReadError (Read α cs)

def isBlank (c : Char) : Bool := c == ' ' || c == '\t' || c == '\n' || c == '\r'

def isDigit (point : CodePoint) : Bool := point.satisfies Char.isDigit

def skipBlanks (cs : List CodePoint) : List CodePoint := cs.dropWhile (CodePoint.satisfies isBlank)

theorem length_skipBlanks_le (cs : List CodePoint) : (skipBlanks cs).length ≤ cs.length :=
  (List.dropWhile_sublist (CodePoint.satisfies isBlank)).length_le

/-- The same result seen from a longer text. -/
def Read.widen {α : Type} {cs ds : List CodePoint} (r : Read α ds) (h : ds.length ≤ cs.length) :
    Read α cs :=
  ⟨r.value, r.rest, Nat.lt_of_lt_of_le r.shorter h⟩

def Read.map {α β : Type} {cs : List CodePoint} (f : α → β) (r : Read α cs) : Read β cs :=
  ⟨f r.value, r.rest, r.shorter⟩

/-! ### Strings -/

def hexValue? (c : Char) : Option Nat :=
  if '0' ≤ c ∧ c ≤ '9' then some (c.toNat - '0'.toNat)
  else if 'a' ≤ c ∧ c ≤ 'f' then some (c.toNat - 'a'.toNat + 10)
  else if 'A' ≤ c ∧ c ≤ 'F' then some (c.toNat - 'A'.toNat + 10)
  else none

def hexNumber? (a b c d : CodePoint) : Option Nat := do
  let a ← hexValue? (← a.char?)
  let b ← hexValue? (← b.char?)
  let c ← hexValue? (← c.char?)
  let d ← hexValue? (← d.char?)
  return ((a * 16 + b) * 16 + c) * 16 + d

/-- The character that a backslash and a letter stand for. -/
def shortEscape? : CodePoint → Option Char
  | .char '"' => some '"'
  | .char '\\' => some '\\'
  | .char '/' => some '/'
  | .char 'b' => some (Char.ofNat 8)
  | .char 'f' => some (Char.ofNat 12)
  | .char 'n' => some '\n'
  | .char 'r' => some '\r'
  | .char 't' => some '\t'
  | _ => none

def isHighHalf (n : Nat) : Bool := 0xD800 ≤ n && n ≤ 0xDBFF

def isLowHalf (n : Nat) : Bool := 0xDC00 ≤ n && n ≤ 0xDFFF

/-- The character of a surrogate pair. -/
def joinHalves (high low : Nat) : Char :=
  Char.ofNat (0x10000 + (high - 0xD800) * 0x400 + (low - 0xDC00))

/-- The low half of a surrogate pair, as an escape at the front of a text. -/
def lowHalf? : List CodePoint → Option (Nat × List CodePoint)
  | .char '\\' :: .char 'u' :: a :: b :: c :: d :: rest =>
      match hexNumber? a b c d with
      | some n => if isLowHalf n then some (n, rest) else none
      | none => none
  | _ => none

theorem length_lowHalf? {cs rest : List CodePoint} {n : Nat}
    (h : lowHalf? cs = some (n, rest)) :
    rest.length < cs.length := by
  unfold lowHalf? at h
  split at h
  · split at h
    · split at h
      · simp only [Option.some.injEq, Prod.mk.injEq] at h
        obtain ⟨_, rfl⟩ := h
        simp only [List.length_cons]
        omega
      · simp at h
    · simp at h
  · simp at h

/-- The text of a string up to its closing quote, what was read so far being `done` backwards. Two
escapes of halves that belong together are one character; other halves stand alone. -/
def readString (done : List CodePoint) (cs : List CodePoint) : Except ReadError (Read Text cs) :=
  match cs with
  | [] => .error .invalid
  | .char '"' :: rest => .ok ⟨⟨done.reverse⟩, rest, by simp⟩
  | .char '\\' :: .char 'u' :: a :: b :: c :: d :: rest =>
      match hexNumber? a b c d with
      | none => .error .invalid
      | some n =>
          match h : if isHighHalf n then lowHalf? rest else none with
          | some (low, after) =>
              have shorter : after.length < rest.length := by
                split at h
                · exact length_lowHalf? h
                · simp at h
              (readString (.char (joinHalves n low) :: done) after).map
                (·.widen (by simp only [List.length_cons]; omega))
          | none =>
              (readString (.ofCode n :: done) rest).map
                (·.widen (by simp only [List.length_cons]; omega))
  | .char '\\' :: e :: rest =>
      match shortEscape? e with
      | some c =>
          (readString (.char c :: done) rest).map
            (·.widen (by simp only [List.length_cons]; omega))
      | none => .error .invalid
  | point :: rest =>
      if point.code < 32 || point == .char '\\' then .error .invalid
      else (readString (point :: done) rest).map (·.widen (by simp))
termination_by cs.length
decreasing_by
  all_goals simp_wf
  all_goals omega

/-! ### Numbers -/

def fractionPart : List CodePoint → List CodePoint
  | .char '.' :: rest =>
      let digits := rest.takeWhile isDigit
      if digits.isEmpty then [] else .char '.' :: digits
  | _ => []

def isExponentMark (point : CodePoint) : Bool := point == .char 'e' || point == .char 'E'

def isSign (point : CodePoint) : Bool := point == .char '+' || point == .char '-'

def exponentPart : List CodePoint → List CodePoint
  | mark :: rest =>
      if isExponentMark mark then
        let sign := rest.takeWhile isSign
        let digits := (rest.drop sign.length).takeWhile isDigit
        if sign.length ≤ 1 && !digits.isEmpty then mark :: sign ++ digits else []
      else []
  | [] => []

/-- The whole part of a number: a zero, or digits that start with none. -/
def wholePart : List CodePoint → List CodePoint
  | .char '0' :: _ => [.char '0']
  | cs => cs.takeWhile isDigit

def minusPart : List CodePoint → List CodePoint
  | .char '-' :: _ => [.char '-']
  | _ => []

/-- The number at the front of a text, apart in its integer part and what makes it a float. -/
def numberParts (cs : List CodePoint) : List CodePoint × List CodePoint :=
  let sign := minusPart cs
  let whole := wholePart (cs.drop sign.length)
  let afterWhole := cs.drop (sign.length + whole.length)
  let fraction := fractionPart afterWhole
  let exponent := exponentPart (afterWhole.drop fraction.length)
  if whole.isEmpty then ([], []) else (sign ++ whole, fraction ++ exponent)

def readNumber (cs : List CodePoint) : Except ReadError (Read Value cs) :=
  let (integer, rest) := numberParts cs
  let length := integer.length + rest.length
  let text : Text := ⟨integer ++ rest⟩
  let number :=
    if rest.isEmpty then (Numeral.readInteger text).map Value.int
    else (Numeral.readFloat text).map Value.float
  if h : 0 < length ∧ (cs.take length).length = length then
    match number with
    | .ok v =>
        .ok ⟨v, cs.drop length, by simp only [List.length_take, List.length_drop] at *; omega⟩
    | .error f => .error (.fault f)
  else .error .invalid

/-! ### Words -/

/-- The words that stand for values, names of special floats included. -/
def words : List (Text × Value) := [
  ("null", .null),
  ("true", .bool true),
  ("false", .bool false),
  ("NaN", .float Number.nan),
  ("Infinity", .float (Binary.assemble false Binary.infinityBits)),
  ("-Infinity", .float (Binary.assemble true Binary.infinityBits))]

def word? (cs : List CodePoint) : Option (Value × Nat) :=
  (words.find? fun word => word.1.points.isPrefixOf cs).map fun word => (word.2, word.1.length)

def readWord? (cs : List CodePoint) : Option (Read Value cs) :=
  match word? cs with
  | some (v, length) =>
      if h : 0 < length ∧ (cs.take length).length = length then
        some ⟨v, cs.drop length, by simp only [List.length_take, List.length_drop] at *; omega⟩
      else none
  | none => none

/-! ### Arrays and objects -/

/-- The rest of an array after an element: a comma and more elements, or the closing bracket. -/
def readItems (nested : Reader Value) (done : List Value) (cs : List CodePoint) :
    Except ReadError (Read Value cs) := do
  let element ← nested (skipBlanks cs)
  have := element.shorter
  have := length_skipBlanks_le cs
  have := length_skipBlanks_le element.rest
  match h : skipBlanks element.rest with
  | .char ']' :: rest =>
      return ⟨.array (element.value :: done).reverse, rest, by
        simp only [h, List.length_cons] at *
        omega⟩
  | .char ',' :: rest =>
      have shorter : rest.length < cs.length := by
        simp only [h, List.length_cons] at *
        omega
      let all ← readItems nested (element.value :: done) rest
      return all.widen (Nat.le_of_lt shorter)
  | _ => .error .invalid
termination_by cs.length

/-- A name in quotes, a colon and a value. -/
def readField (nested : Reader Value) (cs : List CodePoint) :
    Except ReadError (Read (Text × Value) cs) :=
  match cs with
  | .char '"' :: afterQuote => do
      let name ← readString [] afterQuote
      have := name.shorter
      have := length_skipBlanks_le name.rest
      match h : skipBlanks name.rest with
      | .char ':' :: afterColon =>
          let value ← nested (skipBlanks afterColon)
          have := value.shorter
          have := length_skipBlanks_le afterColon
          return ⟨(name.value, value.value), value.rest, by
            simp only [h, List.length_cons] at *
            omega⟩
      | _ => .error .invalid
  | _ => .error .invalid

/-- The rest of an object after its brace or a comma. A repeated name keeps its first place and
takes its last value. -/
def readFields (nested : Reader Value) (done : List (Text × Value)) (cs : List CodePoint) :
    Except ReadError (Read Value cs) := do
  let field ← readField nested (skipBlanks cs)
  have := field.shorter
  have := length_skipBlanks_le cs
  have := length_skipBlanks_le field.rest
  let fields := Record.put field.value.1 field.value.2 done
  match h : skipBlanks field.rest with
  | .char '\x7d' :: rest =>
      return ⟨.object fields, rest, by
        simp only [h, List.length_cons] at *
        omega⟩
  | .char ',' :: rest =>
      have shorter : rest.length < cs.length := by
        simp only [h, List.length_cons] at *
        omega
      let all ← readFields nested fields rest
      return all.widen (Nat.le_of_lt shorter)
  | _ => .error .invalid
termination_by cs.length

def readArray (nested : Reader Value) (cs : List CodePoint) : Except ReadError (Read Value cs) :=
  match h : skipBlanks cs with
  | .char ']' :: rest =>
      .ok ⟨.array [], rest, by
        have := length_skipBlanks_le cs
        simp only [h, List.length_cons] at this
        omega⟩
  | _ => readItems nested [] cs

def readObject (nested : Reader Value) (cs : List CodePoint) : Except ReadError (Read Value cs) :=
  match h : skipBlanks cs with
  | .char '\x7d' :: rest =>
      .ok ⟨.object [], rest, by
        have := length_skipBlanks_le cs
        simp only [h, List.length_cons] at this
        omega⟩
  | _ => readFields nested [] cs

/-- A value whose parts are read by `nested`. -/
def readValueWith (nested : Reader Value) (cs : List CodePoint) :
    Except ReadError (Read Value cs) :=
  match cs with
  | .char '"' :: rest => (readString [] rest).map fun t => (t.map Value.text).widen (by simp)
  | .char '[' :: rest => (readArray nested rest).map (·.widen (by simp))
  | .char '\x7b' :: rest => (readObject nested rest).map (·.widen (by simp))
  | cs =>
      match readWord? cs with
      | some word => .ok word
      | none => readNumber cs

/-- Reads a value that holds arrays and objects up to a depth. -/
def readValue : (depth : Nat) → Reader Value
  | 0 => fun _ => .error .tooDeep
  | depth + 1 => readValueWith (readValue depth)

/-- Values nested deeper than this are not read: where the host's reader, which recurses, gives
up. -/
def maxDepth : Nat := 900

/-- Reads a text that is a value with blanks around it. -/
def read (text : Text) : Except ReadError Value := do
  let r ← readValue maxDepth (skipBlanks text.points)
  if (skipBlanks r.rest).isEmpty then return r.value else .error .invalid

end Formula.Json
