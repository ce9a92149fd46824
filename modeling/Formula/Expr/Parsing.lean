import Formula.Expr.Basic
import Formula.Token.Stream

/-!
Parsing tokens into trees. From the loosest binding to the tightest: the conditional, `||`, `&&`,
equality, order, addition, multiplication, power, the signs, and what follows a primary expression.
Conditionals, powers and signs nest; each nesting uses up one level of the parser that is given.
-/

namespace Formula

namespace Expr

/-! ### Operators of each level -/

def logicalOr? : Token.Kind → Option LogicalOp
  | .or => some .or
  | _ => none

def logicalAnd? : Token.Kind → Option LogicalOp
  | .and => some .and
  | _ => none

def equality? : Token.Kind → Option BinaryOp
  | .equal => some .equal
  | .notEqual => some .notEqual
  | _ => none

def relational? : Token.Kind → Option BinaryOp
  | .less => some .less
  | .lessOrEqual => some .lessOrEqual
  | .greater => some .greater
  | .greaterOrEqual => some .greaterOrEqual
  | _ => none

def additive? : Token.Kind → Option BinaryOp
  | .plus => some .add
  | .minus => some .subtract
  | .concat => some .concat
  | _ => none

def multiplicative? : Token.Kind → Option BinaryOp
  | .multiply => some .multiply
  | .divide => some .divide
  | .modulo => some .modulo
  | _ => none

def sign? : Token.Kind → Option UnaryOp
  | .not => some .not
  | .minus => some .negate
  | _ => none

/-- The words that are literals, in any case. -/
def keyword? (name : String) : Option LiteralKind :=
  match Text.lowerName name with
  | "true" | "false" => some .boolean
  | "null" => some .null
  | _ => none

/-! ### Chains and lists -/

/-- Operators of one level with an operand each, joined from the left. -/
def chain {ω : Type} (operator? : Token.Kind → Option ω) (operand : Parser Expr)
    (join : ω → Expr → Expr → Nat → Expr) (left : Expr) (s : Stream) :
    Except ParseError (Continued Expr s) :=
  match _next : s.ahead with
  | [] => .ok (.unchanged left s)
  | token :: _ =>
      match operator? token.kind with
      | none => .ok (.unchanged left s)
      | some op => do
          let right ← operand s.advance
          let joined := join op left right.value token.position
          let all ← chain operator? operand join joined right.rest
          return (right.followedBy all).toContinued.widen s.size_advance_le
termination_by s.size
decreasing_by exact Nat.lt_trans right.shorter (Stream.size_advance_lt _next)

/-- An operand, and a chain of operators of one level after it. -/
def level {ω : Type} (operator? : Token.Kind → Option ω) (join : ω → Expr → Expr → Nat → Expr)
    (operand : Parser Expr) : Parser Expr := fun s => do
  let first ← operand s
  return first.followedBy (← chain operator? operand join first.value first.rest)

/-- Commas with an item after each. -/
def moreItems {α : Type} (item : Parser α) (done : List α) (s : Stream) :
    Except ParseError (Continued (List α) s) :=
  match _next : s.ahead with
  | [] => .ok (.unchanged done.reverse s)
  | token :: _ =>
      if token.kind = .comma then do
        let next ← item s.advance
        let all ← moreItems item (next.value :: done) next.rest
        return (next.followedBy all).toContinued.widen s.size_advance_le
      else .ok (.unchanged done.reverse s)
termination_by s.size
decreasing_by exact Nat.lt_trans next.shorter (Stream.size_advance_lt _next)

/-- Items between commas up to a closing token, perhaps none. -/
def items {α : Type} (item : Parser α) (close : Token.Kind) (cause : GrammarCause) :
    Parser (List α) := fun s =>
  if s.kind? = some close then do
    return (← expect close cause s).map fun _ => []
  else do
    let first ← item s
    let all := first.followedBy (← moreItems item [first.value] first.rest)
    return all.andThen ((← expect close cause all.rest).map fun _ => all.value)

/-! ### Primary expressions -/

def unexpected (s : Stream) : GrammarCause :=
  match s.ahead with
  | [] => .unexpectedEnd
  | token :: _ =>
      match s.previous with
      | some previous =>
          if token.kind.isBinaryOperator && previous.kind.isOperator then
            .unexpectedOperator token.value previous.value
          else .unexpectedToken token.value
      | none => .unexpectedToken token.value

def property (expression : Parser Expr) : Parser (String × Expr) := fun s =>
  match s.ahead with
  | [] => .error (.grammar .noKey s.position)
  | token :: _ =>
      if token.kind = .string ∨ token.kind = .identifier then do
        let colon ← expect .colon .noColonAfterKey s.advance
        let value ← expression colon.rest
        let pair := (colon.andThen value).map fun e => (token.value, e)
        return pair.widen s.size_advance_le
      else .error (.grammar .noKey s.position)

def ofName (name : String) (position : Nat) : Expr :=
  match keyword? name with
  | some kind => .literal kind name position
  | none => .identifier name position

def group (expression : Parser Expr) : Parser Expr := fun s => do
  let inner ← expression s
  return inner.andThen ((← expect .closeParen .noGroupEnd inner.rest).map fun _ => inner.value)

def primary (expression : Parser Expr) : Parser Expr := fun s =>
  match h : s.ahead with
  | [] => .error (.grammar (unexpected s) s.position)
  | token :: _ =>
      let here := fun (e : Expr) => Parsed.mk e s.advance (Stream.size_advance_lt h)
      match token.kind with
      | .number => .ok (here (.literal .number token.value token.position))
      | .string => .ok (here (.literal .string token.value token.position))
      | .identifier => .ok (here (ofName token.value token.position))
      | .openParen => do return (← group expression s.advance).widen s.size_advance_le
      | .openBracket => do
          let elements ← items expression .closeBracket .noArrayEnd s.advance
          return (elements.map (.array · token.position)).widen s.size_advance_le
      | .openBrace => do
          let properties ← items (property expression) .closeBrace .noObjectEnd s.advance
          return (properties.map (.object · token.position)).widen s.size_advance_le
      | _ => .error (.grammar (unexpected s) s.position)

/-! ### What follows a primary expression -/

def memberSuffix (e : Expr) : Parser Expr := fun s => do
  let name ← expect .identifier .noPropertyName s
  return name.map fun token => .member e token.value e.position

def indexSuffix (expression : Parser Expr) (e : Expr) : Parser Expr := fun s => do
  let key ← expression s
  let close ← expect .closeBracket .noIndexEnd key.rest
  return key.andThen (close.map fun _ => .index e key.value e.position)

/-- The arguments after an opening parenthesis; only names can be called. -/
def callSuffix (expression : Parser Expr) (e : Expr) (open_ : Nat) : Parser Expr := fun s =>
  match e with
  | .identifier name position => do
      let arguments ← items expression .closeParen .noArgumentsEnd s
      return arguments.map (.call name · position)
  | _ => .error (.grammar .notCallable open_)

/-- The suffix that starts with a token of some kind. -/
def suffix? (expression : Parser Expr) (e : Expr) (token : Token) : Option (Parser Expr) :=
  match token.kind with
  | .dot => some (memberSuffix e)
  | .openBracket => some (indexSuffix expression e)
  | .openParen => some (callSuffix expression e token.position)
  | _ => none

def suffixes (expression : Parser Expr) (e : Expr) (s : Stream) :
    Except ParseError (Continued Expr s) :=
  match _next : s.ahead with
  | [] => .ok (.unchanged e s)
  | token :: _ =>
      match suffix? expression e token with
      | none => .ok (.unchanged e s)
      | some suffix => do
          let next ← suffix s.advance
          let all ← suffixes expression next.value next.rest
          return (next.followedBy all).toContinued.widen s.size_advance_le
termination_by s.size
decreasing_by exact Nat.lt_trans next.shorter (Stream.size_advance_lt _next)

def postfixed (expression : Parser Expr) : Parser Expr := fun s => do
  let first ← primary expression s
  return first.followedBy (← suffixes expression first.value first.rest)

/-! ### Levels of nesting -/

/-- The parsers that are left for what is nested in an expression. -/
structure Layer where
  expression : Parser Expr
  power : Parser Expr
  unary : Parser Expr

/-- The parsers below the deepest nesting. -/
def exhausted : Layer :=
  let refuse : Parser Expr := fun s => .error (.nesting s.position)
  ⟨refuse, refuse, refuse⟩

/-- Chains of the logical and binary operators around powers. -/
def disjunction (power : Parser Expr) : Parser Expr :=
  level logicalOr? .logical <|
    level logicalAnd? .logical <|
      level equality? .binary <|
        level relational? .binary <|
          level additive? .binary <|
            level multiplicative? .binary power

/-- A conditional, or just its test. -/
def conditionalWith (deeper : Layer) : Parser Expr := fun s => do
  let test ← disjunction deeper.power s
  match test.rest.ahead with
  | [] => return test
  | token :: _ =>
      if token.kind = .question then
        let consequent ← deeper.expression test.rest.advance
        let colon ← expect .colon .noColonInConditional consequent.rest
        let alternate ← deeper.expression colon.rest
        let branches := (consequent.andThen (colon.andThen alternate)).map fun e =>
          .conditional test.value consequent.value e test.value.position
        return branches.widen test.size_advance_rest_le
      else return test

/-- Signs before a postfixed expression. -/
def unaryWith (deeper : Parser Expr) (expression : Parser Expr) : Parser Expr := fun s =>
  match s.ahead with
  | [] => postfixed expression s
  | token :: _ =>
      match sign? token.kind with
      | none => postfixed expression s
      | some op => do
          let operand ← deeper s.advance
          return (operand.map (.unary op · token.position)).widen s.size_advance_le

/-- A power, which binds its exponent from the right. -/
def powerWith (deeper : Parser Expr) (unary : Parser Expr) : Parser Expr := fun s => do
  let base ← unary s
  match base.rest.ahead with
  | [] => return base
  | token :: _ =>
      if token.kind = .power then
        let exponent ← deeper base.rest.advance
        let power := exponent.map fun e => .binary .power base.value e token.position
        return power.widen base.size_advance_rest_le
      else return base

/-- One more level of nesting on top of the deeper ones. -/
def Layer.above (deeper : Layer) : Layer :=
  let expression := conditionalWith deeper
  let unary := unaryWith deeper.unary expression
  ⟨expression, powerWith deeper.power unary, unary⟩

/-- The parsers with so many levels of nesting left. -/
def layer : Nat → Layer
  | 0 => exhausted.above
  | levels + 1 => (layer levels).above

/-- Parses all tokens of a source of length `stop`. -/
def ofTokens (tokens : List Token) (stop maxNesting : Nat) : Except ParseError Expr := do
  if tokens.isEmpty then .error (.grammar .empty 0)
  else
    let parsed ← (layer maxNesting).expression ⟨none, tokens, stop⟩
    match parsed.rest.ahead with
    | [] => return parsed.value
    | token :: _ => .error (.grammar (.unexpectedToken token.value) token.position)

end Expr

end Formula
