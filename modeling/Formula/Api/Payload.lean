import Formula.Calendar.Timestamp

/-!
Reading the bodies of requests. A value of the wrong type, or a missing one that has no default,
makes the whole body unreadable; unknown keys are ignored.
-/

namespace Formula.Api

/-- What a value means to a request, if it means anything. -/
abbrev Reader (α : Type) := Value → Option α

namespace Reader

variable {α : Type}

def any : Reader Value := some

def text : Reader String
  | .text t => t.toString?
  | _ => none

def nullable (read : Reader α) : Reader (Option α)
  | .null => some none
  | v => (read v).map some

def list (read : Reader α) : Reader (List α)
  | .array items => items.mapM read
  | _ => none

def record (read : Reader α) : Reader (Record String α)
  | .object fields => fields.mapM fun field => do return (← field.1.toString?, ← read field.2)
  | _ => none

def fields : Reader (Record Text Value)
  | .object fields => some fields
  | _ => none

def object : Reader Value := fun v => (fields v).map .object

def required (key : String) (read : Reader α) : Reader α
  | .object fields => (Record.get? (Text.ofString key) fields).bind read
  | _ => none

def optional (key : String) (default : α) (read : Reader α) : Reader α
  | .object fields =>
      match Record.get? (Text.ofString key) fields with
      | some v => read v
      | none => some default
  | _ => none

/-! ### Integers -/

/-- A decimal integer with at most a minus sign before its digits, of which the first is a zero only
if it is the only one. -/
def plainInteger? (cs : List Char) : Option Int :=
  let digits := if cs.head? = some '-' then cs.drop 1 else cs
  let padded := digits.head? = some '0' && 1 < digits.length
  if digits.isEmpty || padded || maxIntegerDigits < digits.length || !digits.all Char.isDigit then
    none
  else
    some (Binary.signed (digits.length < cs.length) (positional (Numeral.digitValues digits)))

/-- What follows zeros, with single underscores between them; one zero stays before a point or the
end. -/
def afterZeros? (previous : Char) : List Char → Option (List Char)
  | [] => some [previous]
  | c :: rest =>
      if c == '0' || (c == '_' && previous == '0') then afterZeros? c rest
      else if c == '-' || c.isDigit then some (c :: rest)
      else if c == '.' then some (previous :: c :: rest)
      else none

def dropZeros? : List Char → Option (List Char)
  | [] => none
  | c :: rest =>
      if c == '0' then afterZeros? c rest
      else if c == '-' || c.isDigit then some (c :: rest)
      else none

/-- What stands before a point that zeros and nothing else follow. -/
def dropZeroFraction (cs : List Char) : List Char :=
  let zeros := (cs.dropWhile (· != '.')).drop 1
  if !zeros.isEmpty && zeros.all (· == '0') then cs.takeWhile (· != '.') else cs

/-- Every underscore stands between two other characters. -/
def underscoresInside (previous : Char) : List Char → Bool
  | [] => previous != '_'
  | c :: rest => !(c == '_' && previous == '_') && underscoresInside c rest

def dropUnderscores (cs : List Char) : List Char :=
  if underscoresInside '_' cs then cs.filter (· != '_') else cs

/-- An integer in a text: as it is, or with blanks around it, and within them a plus sign, zeros in
front, a fraction of zeros, or underscores. -/
def integerText? (s : String) : Option Int :=
  (plainInteger? s.toList).orElse fun _ => do
    let trimmed := Text.trimEnds Numeral.isPadding s.toList
    let unsigned := if trimmed.head? = some '+' then trimmed.drop 1 else trimmed
    plainInteger? (dropUnderscores (dropZeroFraction (← dropZeros? unsigned)))

/-- Integers, and all that stands for one: truth values, whole floats that are not too large, and
texts. -/
def integer : Reader Int
  | .bool b => some (if b then 1 else 0)
  | .number (.int n) => some n
  | .number x => x.wholeValue?.filter fun n => n.natAbs < twoTo 63
  | .text t => t.toString?.bind integerText?
  | _ => none

def clock (host : Host) : Reader Clock
  | .text t => t.toString?.bind (Calendar.Timestamp.ofText? host)
  | .number x => Calendar.Timestamp.ofNumber? host x
  | _ => none

/-! ### Contexts -/

/-- The context of a request, which has a clock of its own only if it names a time. What it says of
the user changes the anonymous one. -/
def context (host : Host) (clock : Clock) : Reader Context := fun body => do
  let fields ← optional "fields" [] (record any) body
  let vars ← optional "variables" [] (record any) body
  let datasets ← optional "datasets" [] (record (list object)) body
  let now ← optional "now" none (nullable (Reader.clock host)) body
  let user ← optional "user" none (nullable Reader.fields) body
  let timezone ← optional "timezone" none (nullable text) body
  let locale ← optional "locale" none (nullable text) body
  return {
    fields, vars, datasets, timezone
    clock := now.getD clock
    user := Record.update anonymousUser (user.getD [])
    locale := locale.getD "en-US" }

/-- The context in a body, or one that knows nothing but the time. -/
def contextOrEmpty (host : Host) (clock : Clock) : Reader Context := fun body => do
  let given ← optional "context" none (nullable (context host clock)) body
  return given.getD { clock }

end Reader

end Formula.Api
