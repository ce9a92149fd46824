import Formula.Text.Case
import Formula.Token.Scan

/-!
Highlighting sources: every token is a span with a category, and what cannot be split into tokens is
one last span.
-/

namespace Formula

namespace Highlight

inductive Category where
  | literal
  | field
  | function
  | operator
  | punctuation
  /-- The rest of a source from the first character that starts no token. -/
  | error
deriving DecidableEq, Repr

def Category.name : Category → String
  | .literal => "literal"
  | .field => "field"
  | .function => "function"
  | .operator => "operator"
  | .punctuation => "punctuation"
  | .error => "error"

/-- Characters of a source from `start` up to `stop`. -/
structure Span where
  category : Category
  text : String
  start : Nat
  stop : Nat
deriving DecidableEq, Repr

/-- The names that are literals, in any case. -/
def literalWords : List String := ["true", "false", "null"]

/-- The category of a token before another one. A name before a parenthesis is a function. -/
def categoryOf (token : Token) (following : Option Token.Kind) : Category :=
  match token.kind with
  | .identifier =>
      if literalWords.contains (Text.lowerName token.value) then .literal
      else if following == some .openParen then .function
      else .field
  | .number | .string => .literal
  | kind => if kind.isOperator then .operator else .punctuation

def spanOf (token : Token) (following : Option Token.Kind) : Span where
  category := categoryOf token following
  text := String.ofList token.lexeme
  start := token.position
  stop := token.position + token.lexeme.length

def spansOf : List Token → List Span
  | [] => []
  | token :: rest => spanOf token (rest.head?.map (·.kind)) :: spansOf rest

/-- The rest of a source at a cursor. -/
def errorSpan (c : Cursor) : Span where
  category := .error
  text := String.ofList c.rest
  start := c.position
  stop := c.position + c.rest.length

end Highlight

def highlight (source : String) : List Highlight.Span :=
  let scanned := Token.scan source
  let spans := Highlight.spansOf scanned.tokens
  match scanned.error with
  | some _ => spans ++ [Highlight.errorSpan scanned.stop]
  | none => spans

end Formula
