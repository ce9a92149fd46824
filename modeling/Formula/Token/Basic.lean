/-!
The tokens of formulas.
-/

namespace Formula

namespace Token

inductive Kind where
  | number
  | string
  /-- Names, the words `true`, `false` and `null` among them. -/
  | identifier
  | plus
  | minus
  | multiply
  | divide
  | modulo
  | power
  | equal
  | notEqual
  | less
  | greater
  | lessOrEqual
  | greaterOrEqual
  | and
  | or
  | not
  | concat
  | openParen
  | closeParen
  | openBracket
  | closeBracket
  | openBrace
  | closeBrace
  | comma
  | dot
  | colon
  | question
deriving DecidableEq, Repr

/-- The tokens that are always written alike, a longer one before those it starts with. -/
def symbols : List (List Char × Kind) := [
  (['*', '*'], .power),
  (['=', '='], .equal),
  (['!', '='], .notEqual),
  (['<', '='], .lessOrEqual),
  (['>', '='], .greaterOrEqual),
  (['&', '&'], .and),
  (['|', '|'], .or),
  (['<'], .less),
  (['>'], .greater),
  (['!'], .not),
  (['&'], .concat),
  (['+'], .plus),
  (['-'], .minus),
  (['*'], .multiply),
  (['/'], .divide),
  (['%'], .modulo),
  (['('], .openParen),
  ([')'], .closeParen),
  (['['], .openBracket),
  ([']'], .closeBracket),
  (['\x7b'], .openBrace),
  (['\x7d'], .closeBrace),
  ([','], .comma),
  (['.'], .dot),
  ([':'], .colon),
  (['?'], .question)]

/-- Operators that stand between two operands. -/
def Kind.isBinaryOperator : Kind → Bool
  | .plus | .minus | .multiply | .divide | .modulo | .power | .equal | .notEqual | .less
  | .greater | .lessOrEqual | .greaterOrEqual | .and | .or | .concat => true
  | _ => false

def Kind.isOperator (kind : Kind) : Bool := kind == .not || kind.isBinaryOperator

/-- The character that a backslash and a character stand for inside a string. -/
def unescapeChar : Char → Char
  | 'n' => '\n'
  | 't' => '\t'
  | 'r' => '\r'
  | c => c

def unescape : List Char → List Char
  | '\\' :: c :: rest => unescapeChar c :: unescape rest
  | c :: rest => c :: unescape rest
  | [] => []

end Token

/-- A token with its source text and its place: the position counts characters, lines and columns
start at 1. -/
structure Token where
  kind : Token.Kind
  lexeme : List Char
  position : Nat
  line : Nat
  column : Nat
deriving DecidableEq, Repr

/-- The source text of a token; of a string, what it stands for. -/
def Token.value (t : Token) : String :=
  match t.kind with
  | .string => String.ofList (Token.unescape (t.lexeme.drop 1).dropLast)
  | _ => String.ofList t.lexeme

end Formula
