import Formula.Expr.Parsing

/-!
The grammar of formulas: which sequences of tokens derive which trees. A derivation says nothing of
how deeply a formula may be nested.
-/

namespace Formula

/-- How tokens of a kind can be written. -/
def Token.Kind.spelling : Token.Kind → List Char
  | .number => ['0']
  | .string => ['"', '"']
  | .identifier => ['x']
  | kind => ((Token.symbols.find? (·.2 = kind)).map Prod.fst).getD []

def Token.sample (kind : Token.Kind) : Token := ⟨kind, kind.spelling, 0, 1, 1⟩

namespace Expr

/-- How tightly the operators of an expression bind, from the loosest to the tightest. -/
inductive Level where
  | conditional
  | disjunction
  | conjunction
  | equality
  | relational
  | additive
  | multiplicative
  | power
  | unary
  | postfixed
  | primary
deriving DecidableEq, Repr

namespace Level

def tighter? : Level → Option Level
  | .conditional => some .disjunction
  | .disjunction => some .conjunction
  | .conjunction => some .equality
  | .equality => some .relational
  | .relational => some .additive
  | .additive => some .multiplicative
  | .multiplicative => some .power
  | .power => some .unary
  | .unary => some .postfixed
  | .postfixed => some .primary
  | .primary => none

/-- What an operator of a level that is associated from the left makes of its operands. -/
def join? : Level → Token.Kind → Option (Expr → Expr → Nat → Expr)
  | .disjunction, .or => some (.logical .or)
  | .conjunction, .and => some (.logical .and)
  | .equality, .equal => some (.binary .equal)
  | .equality, .notEqual => some (.binary .notEqual)
  | .relational, .less => some (.binary .less)
  | .relational, .lessOrEqual => some (.binary .lessOrEqual)
  | .relational, .greater => some (.binary .greater)
  | .relational, .greaterOrEqual => some (.binary .greaterOrEqual)
  | .additive, .plus => some (.binary .add)
  | .additive, .minus => some (.binary .subtract)
  | .additive, .concat => some (.binary .concat)
  | .multiplicative, .multiply => some (.binary .multiply)
  | .multiplicative, .divide => some (.binary .divide)
  | .multiplicative, .modulo => some (.binary .modulo)
  | _, _ => none

end Level

/-- What a sequence of tokens can be derived as. -/
inductive Phrase where
  | expression (level : Level) (e : Expr)
  | property (pair : String × Expr)
  | elements (es : List Expr)
  | properties (pairs : List (String × Expr))

inductive Derives : List Token → Phrase → Prop where
  /-- What binds more tightly stands in the place of what binds less tightly. -/
  | tighter {level next : Level} {ts : List Token} {e : Expr} (below : level.tighter? = some next)
      (whole : Derives ts (.expression next e)) : Derives ts (.expression level e)
  | conditional {test consequent alternate : List Token} {question colon : Token} {a b c : Expr}
      (first : Derives test (.expression .disjunction a)) (asks : question.kind = .question)
      (second : Derives consequent (.expression .conditional b)) (parts : colon.kind = .colon)
      (third : Derives alternate (.expression .conditional c)) :
      Derives (test ++ question :: (consequent ++ colon :: alternate))
        (.expression .conditional (.conditional a b c a.position))
  | chain {level next : Level} {join : Expr → Expr → Nat → Expr} {left right : List Token}
      {operator : Token} {a b : Expr} (first : Derives left (.expression level a))
      (joins : level.join? operator.kind = some join) (below : level.tighter? = some next)
      (second : Derives right (.expression next b)) :
      Derives (left ++ operator :: right) (.expression level (join a b operator.position))
  | power {base exponent : List Token} {operator : Token} {a b : Expr}
      (first : Derives base (.expression .unary a)) (raises : operator.kind = .power)
      (second : Derives exponent (.expression .power b)) :
      Derives (base ++ operator :: exponent)
        (.expression .power (.binary .power a b operator.position))
  | not {operator : Token} {operand : List Token} {a : Expr} (negates : operator.kind = .not)
      (only : Derives operand (.expression .unary a)) :
      Derives (operator :: operand) (.expression .unary (.unary .not a operator.position))
  | negate {operator : Token} {operand : List Token} {a : Expr} (negates : operator.kind = .minus)
      (only : Derives operand (.expression .unary a)) :
      Derives (operator :: operand) (.expression .unary (.unary .negate a operator.position))
  | member {base : List Token} {dot name : Token} {a : Expr}
      (first : Derives base (.expression .postfixed a)) (selects : dot.kind = .dot)
      (names : name.kind = .identifier) :
      Derives (base ++ [dot, name]) (.expression .postfixed (.member a name.value a.position))
  | index {base key : List Token} {opens closes : Token} {a b : Expr}
      (first : Derives base (.expression .postfixed a)) (opening : opens.kind = .openBracket)
      (second : Derives key (.expression .conditional b)) (closing : closes.kind = .closeBracket) :
      Derives (base ++ opens :: (key ++ [closes]))
        (.expression .postfixed (.index a b a.position))
  /-- Only a name can be called. -/
  | call {callee arguments : List Token} {opens closes : Token} {name : String} {position : Nat}
      {es : List Expr} (first : Derives callee (.expression .postfixed (.identifier name position)))
      (opening : opens.kind = .openParen) (inner : Derives arguments (.elements es))
      (closing : closes.kind = .closeParen) :
      Derives (callee ++ opens :: (arguments ++ [closes]))
        (.expression .postfixed (.call name es position))
  | number {token : Token} (number : token.kind = .number) :
      Derives [token] (.expression .primary (.literal .number token.value token.position))
  | string {token : Token} (string : token.kind = .string) :
      Derives [token] (.expression .primary (.literal .string token.value token.position))
  | keyword {token : Token} {kind : LiteralKind} (word : token.kind = .identifier)
      (literal : keyword? token.value = some kind) :
      Derives [token] (.expression .primary (.literal kind token.value token.position))
  | name {token : Token} (word : token.kind = .identifier) (plain : keyword? token.value = none) :
      Derives [token] (.expression .primary (.identifier token.value token.position))
  | group {inside : List Token} {opens closes : Token} {a : Expr} (opening : opens.kind = .openParen)
      (inner : Derives inside (.expression .conditional a)) (closing : closes.kind = .closeParen) :
      Derives (opens :: (inside ++ [closes])) (.expression .primary a)
  | array {inside : List Token} {opens closes : Token} {es : List Expr}
      (opening : opens.kind = .openBracket) (inner : Derives inside (.elements es))
      (closing : closes.kind = .closeBracket) :
      Derives (opens :: (inside ++ [closes])) (.expression .primary (.array es opens.position))
  | object {inside : List Token} {opens closes : Token} {pairs : List (String × Expr)}
      (opening : opens.kind = .openBrace) (inner : Derives inside (.properties pairs))
      (closing : closes.kind = .closeBrace) :
      Derives (opens :: (inside ++ [closes])) (.expression .primary (.object pairs opens.position))
  | property {key colon : Token} {value : List Token} {a : Expr}
      (named : key.kind = .string ∨ key.kind = .identifier) (parts : colon.kind = .colon)
      (only : Derives value (.expression .conditional a)) :
      Derives (key :: colon :: value) (.property (key.value, a))
  | noElements : Derives [] (.elements [])
  | oneElement {ts : List Token} {a : Expr} (only : Derives ts (.expression .conditional a)) :
      Derives ts (.elements [a])
  | moreElements {front last : List Token} {comma : Token} {es : List Expr} {a : Expr}
      (before : Derives front (.elements es)) (some : es ≠ []) (parts : comma.kind = .comma)
      (next : Derives last (.expression .conditional a)) :
      Derives (front ++ comma :: last) (.elements (es ++ [a]))
  | noProperties : Derives [] (.properties [])
  | oneProperty {ts : List Token} {pair : String × Expr} (only : Derives ts (.property pair)) :
      Derives ts (.properties [pair])
  | moreProperties {front last : List Token} {comma : Token} {pairs : List (String × Expr)}
      {pair : String × Expr} (before : Derives front (.properties pairs)) (some : pairs ≠ [])
      (parts : comma.kind = .comma) (next : Derives last (.property pair)) :
      Derives (front ++ comma :: last) (.properties (pairs ++ [pair]))

theorem Derives.ofPrimary {ts : List Token} {e : Expr} (whole : Derives ts (.expression .primary e))
    (level : Level) : Derives ts (.expression level e) := by
  have postfixed : Derives ts (.expression .postfixed e) := .tighter rfl whole
  have unary : Derives ts (.expression .unary e) := .tighter rfl postfixed
  have power : Derives ts (.expression .power e) := .tighter rfl unary
  have multiplicative : Derives ts (.expression .multiplicative e) := .tighter rfl power
  have additive : Derives ts (.expression .additive e) := .tighter rfl multiplicative
  have relational : Derives ts (.expression .relational e) := .tighter rfl additive
  have equality : Derives ts (.expression .equality e) := .tighter rfl relational
  have conjunction : Derives ts (.expression .conjunction e) := .tighter rfl equality
  have disjunction : Derives ts (.expression .disjunction e) := .tighter rfl conjunction
  have conditional : Derives ts (.expression .conditional e) := .tighter rfl disjunction
  cases level <;> assumption

theorem derives_sample (level : Level) :
    ∃ e, Derives [Token.sample .number] (.expression level e) :=
  ⟨_, (Derives.number rfl).ofPrimary level⟩

theorem derives_ofName {token : Token} (word : token.kind = .identifier) :
    Derives [token] (.expression .primary (ofName token.value token.position)) := by
  unfold ofName
  split
  · rename_i literal
    exact .keyword word literal
  · rename_i plain
    exact .name word plain

theorem derives_sign {operator : Token} {op : UnaryOp} {operand : List Token} {e : Expr}
    (sign : sign? operator.kind = some op) (only : Derives operand (.expression .unary e)) :
    Derives (operator :: operand) (.expression .unary (.unary op e operator.position)) := by
  unfold sign? at sign
  split at sign
  · rename_i kind
    cases sign
    exact .not kind only
  · rename_i kind
    cases sign
    exact .negate kind only
  · cases sign

/-! ### Names -/

/-- A word that is no literal, bare or in parentheses. -/
inductive Named (name : String) (position : Nat) : List Token → Prop where
  | bare {token : Token} (word : token.kind = .identifier) (plain : keyword? token.value = none)
      (same : token.value = name) (there : token.position = position) : Named name position [token]
  | grouped {inside : List Token} {opens closes : Token} (opening : opens.kind = .openParen)
      (inner : Named name position inside) (closing : closes.kind = .closeParen) :
      Named name position (opens :: (inside ++ [closes]))

theorem Named.derives {name : String} {position : Nat} {ts : List Token}
    (named : Named name position ts) (level : Level) :
    Derives ts (.expression level (.identifier name position)) := by
  induction named generalizing level with
  | bare word plain same there =>
      subst same there
      exact (Derives.name word plain).ofPrimary level
  | grouped opening inner closing ih =>
      exact (Derives.group opening (ih .conditional) closing).ofPrimary level

/-- An operator of a level makes a binary or a logical expression, as it is written. -/
theorem join?_cases {level : Level} {kind : Token.Kind} {join : Expr → Expr → Nat → Expr}
    (joins : level.join? kind = some join) :
    (∃ op : BinaryOp, join = .binary op ∧ (op.symbol.toList, kind) ∈ Token.symbols) ∨
      ∃ op : LogicalOp, join = .logical op ∧ (op.symbol.toList, kind) ∈ Token.symbols := by
  cases level <;> cases kind <;> cases joins <;>
    first
    | exact .inl ⟨_, rfl, by decide⟩
    | exact .inr ⟨_, rfl, by decide⟩

theorem join_ne_identifier {level : Level} {kind : Token.Kind} {join : Expr → Expr → Nat → Expr}
    (joins : level.join? kind = some join) (a b : Expr) (place : Nat) (name : String)
    (position : Nat) : join a b place ≠ .identifier name position := by
  intro same
  rcases join?_cases joins with ⟨op, rfl, -⟩ | ⟨op, rfl, -⟩ <;> cases same

theorem Derives.named {ts : List Token} {phrase : Phrase} (derives : Derives ts phrase)
    {level : Level} {name : String} {position : Nat}
    (identifier : phrase = .expression level (.identifier name position)) :
    Named name position ts := by
  induction derives generalizing level with
  | tighter below whole ih =>
      cases identifier
      exact ih rfl
  | chain first joins below second =>
      injection identifier with _ same
      exact absurd same (join_ne_identifier joins _ _ _ name position)
  | name word plain =>
      cases identifier
      exact .bare word plain rfl rfl
  | group opening inner closing ih =>
      cases identifier
      exact .grouped opening (ih rfl) closing
  | _ => cases identifier

/-- What is derived as a name is a name, bare or in parentheses. -/
theorem derives_identifier_iff {ts : List Token} {level : Level} {name : String} {position : Nat} :
    Derives ts (.expression level (.identifier name position)) ↔ Named name position ts :=
  ⟨fun derives => derives.named rfl, fun named => named.derives level⟩

end Expr

end Formula
