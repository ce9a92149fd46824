import Formula.Fault
import Formula.Token.Scan
import Formula.Value.Basic

/-!
What can be wrong with a formula, and how it is described. Whatever else stops an evaluation is a
defect: no error of the formula, but of what it was given.
-/

namespace Formula

/-- How a token sequence fails to be a formula. -/
inductive GrammarCause where
  | empty
  | unexpectedEnd
  | unexpectedToken (value : String)
  | unexpectedOperator (value previous : String)
  | notCallable
  | noColonInConditional
  | noPropertyName
  | noIndexEnd
  | noGroupEnd
  | noArgumentsEnd
  | noArrayEnd
  | noObjectEnd
  | noKey
  | noColonAfterKey
deriving DecidableEq, Repr

def GrammarCause.message : GrammarCause → String
  | .empty => "Empty expression"
  | .unexpectedEnd => "Unexpected end of expression"
  | .unexpectedToken value => s!"Unexpected token '{value}'"
  | .unexpectedOperator value previous => s!"Unexpected operator '{value}' after '{previous}'"
  | .notCallable => "Only named functions can be called"
  | .noColonInConditional => "Expected ':' in ternary expression"
  | .noPropertyName => "Expected property name after '.'"
  | .noIndexEnd => "Expected ']' after index"
  | .noGroupEnd => "Expected ')' after expression"
  | .noArgumentsEnd => "Expected ')' after arguments"
  | .noArrayEnd => "Expected ']' after array elements"
  | .noObjectEnd => "Expected '\x7d' after object properties"
  | .noKey => "Expected string or identifier as object key"
  | .noColonAfterKey => "Expected ':' after object key"

/-- The bound that a formula exceeds. -/
inductive LimitCause where
  | length (bound : Nat)
  | nesting (bound : Int)
  | depth (bound : Nat)
  | nodes (bound : Nat)
  | evaluationDepth (bound : Int)
  /-- The formula or a JSON text in it is nested more deeply than the host can follow. -/
  | host
  /-- A bound that a registered function reports in its own words. -/
  | reported (message : String)
deriving DecidableEq, Repr

def LimitCause.message : LimitCause → String
  | .length bound => s!"Formula exceeds maximum length of {bound} characters"
  | .nesting bound => s!"Expression nesting exceeds maximum depth of {bound}"
  | .depth bound => s!"Formula exceeds maximum depth of {bound}"
  | .nodes bound => s!"Formula exceeds maximum size of {bound} nodes"
  | .evaluationDepth bound => s!"Evaluation exceeds maximum depth of {bound}"
  | .host => "Formula is nested too deeply"
  | .reported message => message

/-- How the evaluation of a node fails. -/
inductive RuntimeCause where
  | unknownNode
  | unknownFunction (name : String)
  | unknownOperator (symbol : String)
  | unknownUnaryOperator (symbol : String)
  | unknownLogicalOperator (symbol : String)
  | noProperty (name type : String)
  | indexNotWhole (text : Text)
  | notIndexable (type : String)
  | cannotNegate (type : String)
  | divisionByZero
  | moduloByZero
  | cannotApply (symbol left right : String)
  | arithmetic (symbol : String) (fault : Fault)
  | noText (fault : Fault)
  | order (error : Value.OrderError)
  | argumentCount (function expected : String) (count : Nat)
  | argumentType (function parameter expected actual : String)
  | call (function : String) (fault : Fault)
  /-- An error that a registered function reports in its own words. -/
  | reported (message : String)

def RuntimeCause.message : RuntimeCause → Text
  | .unknownNode => "Unknown node type: ASTNode"
  | .unknownFunction name => s!"Unknown function: {name}"
  | .unknownOperator symbol => s!"Unknown operator: {symbol}"
  | .unknownUnaryOperator symbol => s!"Unknown unary operator: {symbol}"
  | .unknownLogicalOperator symbol => s!"Unknown logical operator: {symbol}"
  | .noProperty name type => s!"Cannot read property '{name}' of {type}"
  | .indexNotWhole text => s!"Index must be a whole number, got {Text.quote text}"
  | .notIndexable type => s!"Cannot index into {type}"
  | .cannotNegate type => s!"Cannot negate {type}"
  | .divisionByZero => "Division by zero"
  | .moduloByZero => "Modulo by zero"
  | .cannotApply symbol left right => s!"Cannot apply '{symbol}' to {left} and {right}"
  | .arithmetic symbol fault =>
      Text.ofString s!"Arithmetic error in '{symbol}': " ++ fault.message
  | .noText fault => Text.ofString "Cannot convert value to text: " ++ fault.message
  | .order error => error.message
  | .argumentCount function expected count =>
      s!"{function} expects {expected} argument(s), got {count}"
  | .argumentType function parameter expected actual =>
      s!"{function}: argument '{parameter}' must be {expected}, got {actual}"
  | .call function fault => Text.ofString s!"{function}: " ++ fault.message
  | .reported message => message

/-- A runtime error with the place of the innermost node that failed, and the function whose call
it was. -/
structure RuntimeError where
  cause : RuntimeCause
  position : Option Nat
  function : Option String

inductive FormulaError where
  | scan (error : Token.ScanError)
  | grammar (cause : GrammarCause) (position : Nat)
  | limit (cause : LimitCause) (position : Option Nat)
  | runtime (error : RuntimeError)

/-- The description of an error: its wording, its kind, and where it is. -/
structure ErrorInfo where
  message : Text
  kind : String
  position : Option Nat
  function : Option String
deriving DecidableEq, Repr

def FormulaError.info : FormulaError → ErrorInfo
  | .scan e => ⟨e.cause.message, "lex", some e.position, none⟩
  | .grammar cause position => ⟨cause.message, "syntax", some position, none⟩
  | .limit cause position => ⟨cause.message, "limit", position, none⟩
  | .runtime e => ⟨e.cause.message, "runtime", e.position, e.function⟩

/-- The wording with the place of errors in the source text. -/
def FormulaError.fullMessage : FormulaError → Text
  | .scan e => s!"{e.cause.message} at line {e.line}, column {e.column}"
  | .grammar cause position => s!"{cause.message} at position {position}"
  | e => e.info.message

def ErrorInfo.circular (name : String) : ErrorInfo :=
  ⟨s!"Circular reference involving '{name}'", "dependency", none, none⟩

/-- What stops an evaluation without being an error of the formula: a fault outside every operator
and call, or a registered function that breaks down. -/
inductive Defect where
  | fault (f : Fault)
  | crash (message : String)

/-- Why there is no value. -/
inductive Stop where
  | failed (e : FormulaError)
  | broken (d : Defect)

end Formula
