import Formula.Number.Numeral
import Formula.Text.Case
import Formula.Value.Basic

/-!
The trees of formulas. Trees built by hand may hold operators that no formula can be written with,
and nodes of no known type.
-/

namespace Formula

inductive LiteralKind where
  | number
  | string
  | boolean
  | null
deriving DecidableEq, Repr

inductive UnaryOp where
  | not
  | negate
  | other (symbol : String)
deriving DecidableEq, Repr

inductive LogicalOp where
  | and
  | or
  | other (symbol : String)
deriving DecidableEq, Repr

inductive BinaryOp where
  | equal
  | notEqual
  | less
  | lessOrEqual
  | greater
  | greaterOrEqual
  | concat
  | add
  | subtract
  | multiply
  | divide
  | modulo
  | power
  | other (symbol : String)
deriving DecidableEq, Repr

def LiteralKind.name : LiteralKind → String
  | .number => "number"
  | .string => "string"
  | .boolean => "boolean"
  | .null => "null"

def UnaryOp.symbol : UnaryOp → String
  | .not => "!"
  | .negate => "-"
  | .other symbol => symbol

def LogicalOp.symbol : LogicalOp → String
  | .and => "&&"
  | .or => "||"
  | .other symbol => symbol

def BinaryOp.symbol : BinaryOp → String
  | .equal => "=="
  | .notEqual => "!="
  | .less => "<"
  | .lessOrEqual => "<="
  | .greater => ">"
  | .greaterOrEqual => ">="
  | .concat => "&"
  | .add => "+"
  | .subtract => "-"
  | .multiply => "*"
  | .divide => "/"
  | .modulo => "%"
  | .power => "**"
  | .other symbol => symbol

def UnaryOp.ofSymbol (symbol : String) : UnaryOp :=
  ([.not, .negate].find? (UnaryOp.symbol · == symbol)).getD (.other symbol)

def LogicalOp.ofSymbol (symbol : String) : LogicalOp :=
  ([.and, .or].find? (LogicalOp.symbol · == symbol)).getD (.other symbol)

def BinaryOp.all : List BinaryOp :=
  [.equal, .notEqual, .less, .lessOrEqual, .greater, .greaterOrEqual, .concat, .add, .subtract,
    .multiply, .divide, .modulo, .power]

def BinaryOp.ofSymbol (symbol : String) : BinaryOp :=
  (BinaryOp.all.find? (BinaryOp.symbol · == symbol)).getD (.other symbol)

/-- A formula as a tree. Positions count characters of the source. -/
inductive Expr where
  | literal (kind : LiteralKind) (raw : String) (position : Nat)
  | identifier (name : String) (position : Nat)
  | member (base : Expr) (property : String) (position : Nat)
  | index (base key : Expr) (position : Nat)
  | array (elements : List Expr) (position : Nat)
  | object (properties : List (String × Expr)) (position : Nat)
  | unary (op : UnaryOp) (operand : Expr) (position : Nat)
  | binary (op : BinaryOp) (left right : Expr) (position : Nat)
  | logical (op : LogicalOp) (left right : Expr) (position : Nat)
  | conditional (test consequent alternate : Expr) (position : Nat)
  | call (callee : String) (arguments : List Expr) (position : Nat)
  | unknown

namespace Expr

instance : Inhabited Expr := ⟨.unknown⟩

def position? : Expr → Option Nat
  | .literal _ _ p | .identifier _ p | .member _ _ p | .index _ _ p | .array _ p | .object _ p
  | .unary _ _ p | .binary _ _ _ p | .logical _ _ _ p | .conditional _ _ _ p | .call _ _ p => some p
  | .unknown => none

def position (e : Expr) : Nat := e.position?.getD 0

/-- The direct parts of a tree, in the order of their evaluation. -/
def children : Expr → List Expr
  | .literal .. | .identifier .. | .unknown => []
  | .member base _ _ => [base]
  | .index base key _ => [base, key]
  | .array elements _ => elements
  | .object properties _ => properties.map Prod.snd
  | .unary _ operand _ => [operand]
  | .binary _ left right _ | .logical _ left right _ => [left, right]
  | .conditional test consequent alternate _ => [test, consequent, alternate]
  | .call _ arguments _ => arguments

/-- The value of a literal. Numbers keep their source text and are read when they are needed. -/
def literalValue (kind : LiteralKind) (raw : String) : Except Fault Value :=
  match kind with
  | .number =>
      if Numeral.isFloatNumeral raw then (Numeral.readFloat raw).map .float
      else (Numeral.readInteger raw).map .int
  | .boolean => .ok (.bool (Text.lowerName raw == "true"))
  | .null => .ok .null
  | .string => .ok (.text raw)

end Expr

end Formula
