import Formula.Proofs.Expr.Grammar
import Formula.Proofs.Expr.Running

/-!
The parsers of a layer by the levels of binding. A level that is associated from the left reads an
operand and goes on after it.
-/

namespace Formula.Expr

def Layer.parser (l : Layer) : Level → Parser Expr :=
  let multiplicative := level multiplicative? .binary l.power
  let additive := level additive? .binary multiplicative
  let relational := level relational? .binary additive
  let equality := level equality? .binary relational
  let conjunction := level logicalAnd? .logical equality
  fun
  | .conditional => l.expression
  | .disjunction => level logicalOr? .logical conjunction
  | .conjunction => conjunction
  | .equality => equality
  | .relational => relational
  | .additive => additive
  | .multiplicative => multiplicative
  | .power => l.power
  | .unary => l.unary
  | .postfixed => postfixed l.expression
  | .primary => primary l.expression

/-- How the parser of a level goes on after an operand. -/
def Layer.after (l : Layer) (level : Level) (e : Expr) (s : Stream) :
    Except ParseError (Expr × Stream) :=
  match level with
  | .disjunction => continued (chain logicalOr? (l.parser .conjunction) .logical e s)
  | .conjunction => continued (chain logicalAnd? (l.parser .equality) .logical e s)
  | .equality => continued (chain equality? (l.parser .relational) .binary e s)
  | .relational => continued (chain relational? (l.parser .additive) .binary e s)
  | .additive => continued (chain additive? (l.parser .multiplicative) .binary e s)
  | .multiplicative => continued (chain multiplicative? (l.parser .power) .binary e s)
  | .postfixed => continued (suffixes l.expression e s)
  | .conditional | .power | .unary | .primary => .ok (e, s)

namespace Level

/-- The levels whose operators are associated from the left. -/
def isChain : Level → Bool
  | .disjunction | .conjunction | .equality | .relational | .additive | .multiplicative => true
  | _ => false

theorem join?_disjunction (kind : Token.Kind) :
    join? .disjunction kind = (logicalOr? kind).map .logical := by cases kind <;> rfl

theorem join?_conjunction (kind : Token.Kind) :
    join? .conjunction kind = (logicalAnd? kind).map .logical := by cases kind <;> rfl

theorem join?_equality (kind : Token.Kind) :
    join? .equality kind = (equality? kind).map .binary := by cases kind <;> rfl

theorem join?_relational (kind : Token.Kind) :
    join? .relational kind = (relational? kind).map .binary := by cases kind <;> rfl

theorem join?_additive (kind : Token.Kind) :
    join? .additive kind = (additive? kind).map .binary := by cases kind <;> rfl

theorem join?_multiplicative (kind : Token.Kind) :
    join? .multiplicative kind = (multiplicative? kind).map .binary := by cases kind <;> rfl

end Level

variable {l : Layer} {level next : Level}

theorem run_parser_chain (chains : level.isChain = true) (below : level.tighter? = some next)
    (s : Stream) :
    run (l.parser level) s = run (l.parser next) s >>= fun x => l.after level x.1 x.2 := by
  cases level with
  | disjunction | conjunction | equality | relational | additive | multiplicative =>
      cases below
      exact run_level s
  | _ => cases chains

theorem after_stops (chains : level.isChain = true) (e : Expr) {s : Stream}
    (none : ∀ token, s.ahead.head? = some token → level.join? token.kind = none) :
    l.after level e s = .ok (e, s) := by
  have unjoined : ∀ {ω : Type} {operator? : Token.Kind → Option ω} {f : ω → Expr → Expr → Nat → Expr},
      (∀ kind, level.join? kind = (operator? kind).map f) →
        ∀ token, s.ahead.head? = some token → operator? token.kind = .none := by
    intro ω operator? f table token found
    exact Option.map_eq_none_iff.mp ((table token.kind).symm.trans (none token found))
  cases level with
  | disjunction => exact chain_stops e (unjoined Level.join?_disjunction)
  | conjunction => exact chain_stops e (unjoined Level.join?_conjunction)
  | equality => exact chain_stops e (unjoined Level.join?_equality)
  | relational => exact chain_stops e (unjoined Level.join?_relational)
  | additive => exact chain_stops e (unjoined Level.join?_additive)
  | multiplicative => exact chain_stops e (unjoined Level.join?_multiplicative)
  | _ => cases chains

theorem after_goes_on {token : Token} {join : Expr → Expr → Nat → Expr}
    (joins : level.join? token.kind = some join) (below : level.tighter? = some next) (e : Expr)
    (previous : Option Token) (rest : List Token) (stop : Nat) :
    l.after level e ⟨previous, token :: rest, stop⟩ =
      run (l.parser next) ⟨some token, rest, stop⟩ >>= fun x =>
        l.after level (join e x.1 token.position) x.2 := by
  have operator : ∀ {ω : Type} {operator? : Token.Kind → Option ω} {f : ω → Expr → Expr → Nat → Expr},
      (∀ kind, level.join? kind = (operator? kind).map f) →
        ∃ op, operator? token.kind = some op ∧ f op = join := fun table =>
    Option.map_eq_some_iff.mp ((table token.kind).symm.trans joins)
  cases level with
  | disjunction =>
      cases below
      obtain ⟨op, found, rfl⟩ := operator Level.join?_disjunction
      exact chain_goes_on e found
  | conjunction =>
      cases below
      obtain ⟨op, found, rfl⟩ := operator Level.join?_conjunction
      exact chain_goes_on e found
  | equality =>
      cases below
      obtain ⟨op, found, rfl⟩ := operator Level.join?_equality
      exact chain_goes_on e found
  | relational =>
      cases below
      obtain ⟨op, found, rfl⟩ := operator Level.join?_relational
      exact chain_goes_on e found
  | additive =>
      cases below
      obtain ⟨op, found, rfl⟩ := operator Level.join?_additive
      exact chain_goes_on e found
  | multiplicative =>
      cases below
      obtain ⟨op, found, rfl⟩ := operator Level.join?_multiplicative
      exact chain_goes_on e found
  | _ => cases joins

end Formula.Expr
