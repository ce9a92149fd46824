import Formula.Text.Blank
import Formula.Text.Word
import Formula.Token.Basic

/-!
Splitting a source into tokens. Each token is the longest its kind allows, blanks between tokens are
skipped, and the first error ends the scan.
-/

namespace Formula

open Formula.Text

/-- A place in a source, and what follows it. -/
structure Cursor where
  position : Nat
  line : Nat
  column : Nat
  rest : List Char
deriving DecidableEq, Repr

namespace Cursor

def start (source : List Char) : Cursor := ⟨0, 1, 1, source⟩

/-- A newline starts a line, any other character takes a column. -/
def advance (c : Cursor) : Cursor :=
  match c.rest with
  | [] => c
  | '\n' :: rest => ⟨c.position + 1, c.line + 1, 1, rest⟩
  | _ :: rest => ⟨c.position + 1, c.line, c.column + 1, rest⟩

def advanceBy : Nat → Cursor → Cursor
  | 0, c => c
  | n + 1, c => advanceBy n c.advance

def skipBlanks (c : Cursor) : Cursor := advanceBy (c.rest.takeWhile isBlank).length c

theorem rest_advance (c : Cursor) : c.advance.rest = c.rest.drop 1 := by
  unfold advance
  split <;> simp_all

theorem rest_advanceBy (n : Nat) (c : Cursor) : (c.advanceBy n).rest = c.rest.drop n := by
  induction n generalizing c with
  | zero => rfl
  | succ n ih => simp [advanceBy, ih, rest_advance]

end Cursor

namespace Token

/-! ### The longest token of each kind at the front of a text -/

/-- A point with digits after it. -/
def fractionAt : List Char → List Char
  | '.' :: rest =>
      let digits := rest.takeWhile isDigit
      if digits.isEmpty then [] else '.' :: digits
  | _ => []

/-- The digits of a number and those of its fraction. -/
def mantissaAt (cs : List Char) : List Char :=
  let whole := cs.takeWhile isDigit
  whole ++ fractionAt (cs.drop whole.length)

def signAt : List Char → List Char
  | '+' :: _ => ['+']
  | '-' :: _ => ['-']
  | _ => []

def isExponentMark (c : Char) : Bool := c == 'e' || c == 'E'

/-- An exponent mark, perhaps a sign, and digits. -/
def exponentAt : List Char → List Char
  | [] => []
  | e :: rest =>
      let sign := signAt rest
      let digits := (rest.drop sign.length).takeWhile isDigit
      if isExponentMark e && !digits.isEmpty then e :: sign ++ digits else []

def numberAt (cs : List Char) : List Char :=
  let mantissa := mantissaAt cs
  if mantissa.isEmpty then [] else mantissa ++ exponentAt (cs.drop mantissa.length)

/-- The rest of a string after its opening quote, the closing quote included. A backslash takes the
next character with it; a newline ends no string. -/
def stringTailAt? (quote : Char) : List Char → Option (List Char)
  | [] => none
  | '\\' :: c :: rest =>
      if c = '\n' then none else (stringTailAt? quote rest).map fun tail => '\\' :: c :: tail
  | c :: rest =>
      if c = quote then some [c]
      else if c = '\\' ∨ c = '\n' then none
      else (stringTailAt? quote rest).map (c :: ·)

def isQuote (c : Char) : Bool := c == '"' || c == '\''

def stringAt : List Char → List Char
  | [] => []
  | c :: rest =>
      if isQuote c then
        match stringTailAt? c rest with
        | some tail => c :: tail
        | none => []
      else []

def symbolAt? (cs : List Char) : Option (List Char × Kind) :=
  symbols.find? fun symbol => symbol.1.isPrefixOf cs

def nameAt : List Char → List Char
  | [] => []
  | c :: rest => if isNameStart c then c :: rest.takeWhile isWord else []

/-- A name, perhaps with a dollar sign in front. -/
def identifierAt : List Char → List Char
  | '$' :: rest =>
      let name := nameAt rest
      if name.isEmpty then [] else '$' :: name
  | cs => nameAt cs

def lexemeAt? (cs : List Char) : Option (List Char × Kind) :=
  if !(numberAt cs).isEmpty then some (numberAt cs, .number)
  else
    match symbolAt? cs with
    | some symbol => some symbol
    | none =>
        if !(stringAt cs).isEmpty then some (stringAt cs, .string)
        else if !(identifierAt cs).isEmpty then some (identifierAt cs, .identifier)
        else none

/-! ### Errors -/

inductive ScanCause where
  | strictEquality (operator : List Char)
  | openExponent
  | unterminatedString
  | unexpectedCharacter (c : Char)
deriving DecidableEq, Repr

def ScanCause.message : ScanCause → String
  | .strictEquality operator =>
      let wanted := operator.take 2
      s!"Operator '{String.ofList operator}' is not supported; use '{String.ofList wanted}'"
  | .openExponent => "Invalid number: expected digit after exponent"
  | .unterminatedString => "Unterminated string"
  | .unexpectedCharacter c => s!"Unexpected character '{c}'"

structure ScanError where
  cause : ScanCause
  position : Nat
  line : Nat
  column : Nat
deriving DecidableEq, Repr

/-- An error some characters after a cursor, on the same line. -/
def ScanError.after (cause : ScanCause) (c : Cursor) (offset : Nat) : ScanError :=
  ⟨cause, c.position + offset, c.line, c.column + offset⟩

/-- Operators of three characters that other languages have. -/
def strictEqualities : List (List Char) := [['=', '=', '='], ['!', '=', '=']]

/-- A number whose exponent mark has no digits after it. -/
def openExponentAt? (cs : List Char) : Option Nat :=
  let mantissa := mantissaAt cs
  let rest := cs.drop mantissa.length
  if !mantissa.isEmpty && rest.head?.any isExponentMark && (exponentAt rest).isEmpty then
    some (mantissa.length + 1)
  else none

/-- What looks like a token but is none, and where the error is. -/
def misreading? (cs : List Char) : Option (ScanCause × Nat) :=
  match strictEqualities.find? (·.isPrefixOf cs) with
  | some operator => some (.strictEquality operator, 0)
  | none => (openExponentAt? cs).map (.openExponent, ·)

def unexpected (c : Char) : ScanCause :=
  if isQuote c then .unterminatedString else .unexpectedCharacter c

/-! ### Scanning -/

/-- The token at a cursor, which stands before no blank. Nothing is left at the end. -/
def tokenAt (c : Cursor) : Except ScanError (Option Token) :=
  match c.rest with
  | [] => .ok none
  | first :: _ =>
      match misreading? c.rest with
      | some (cause, offset) => .error (.after cause c offset)
      | none =>
          match lexemeAt? c.rest with
          | some (lexeme, kind) => .ok (some ⟨kind, lexeme, c.position, c.line, c.column⟩)
          | none => .error (.after (unexpected first) c 0)

/-- The tokens of a source up to its end or the first error, and the place where the scan ended. -/
structure Scanned where
  tokens : List Token
  stop : Cursor
  error : Option ScanError

theorem length_rest_skipBlanks_le (c : Cursor) : c.skipBlanks.rest.length ≤ c.rest.length := by
  simp [Cursor.skipBlanks, Cursor.rest_advanceBy]

def scanFrom (c : Cursor) : Scanned :=
  let here := c.skipBlanks
  match tokenAt here with
  | .error e => ⟨[], here, some e⟩
  | .ok none => ⟨[], here, none⟩
  | .ok (some token) =>
      if h : token.lexeme ≠ [] ∧ here.rest ≠ [] then
        have : (here.advanceBy token.lexeme.length).rest.length < c.rest.length := by
          have : here.rest.length ≤ c.rest.length := length_rest_skipBlanks_le c
          have := List.length_pos_iff.mpr h.1
          have := List.length_pos_iff.mpr h.2
          simp only [Cursor.rest_advanceBy, List.length_drop]
          omega
        let after := scanFrom (here.advanceBy token.lexeme.length)
        { after with tokens := token :: after.tokens }
      else ⟨[], here, none⟩
termination_by c.rest.length

def scan (source : String) : Scanned := scanFrom (.start source.toList)

def tokens (source : String) : Except ScanError (List Token × Nat) :=
  let scanned := scan source
  match scanned.error with
  | some e => .error e
  | none => .ok (scanned.tokens, scanned.stop.position)

end Token

end Formula
