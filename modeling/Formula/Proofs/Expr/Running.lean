import Formula.Expr.Parsing
import Formula.Proofs.Except

/-!
What the parsers return, without the bounds on what is left: the value and the rest of the stream.
Each parser has an equation for each kind of token that it may find next.
-/

namespace Formula

namespace Expr

variable {α ω : Type}

def run (p : Parser α) (s : Stream) : Except ParseError (α × Stream) :=
  (p s).map fun r => (r.value, r.rest)

theorem size_lt_of_run {p : Parser α} {s r : Stream} {v : α} (returned : run p s = .ok (v, r)) :
    r.size < s.size := by
  unfold run at returned
  cases parsed : p s with
  | error e =>
      rw [parsed] at returned
      cases returned
  | ok result =>
      rw [parsed] at returned
      cases returned
      exact result.shorter

def continued {s : Stream} (x : Except ParseError (Continued α s)) :
    Except ParseError (α × Stream) :=
  x.map fun r => (r.value, r.rest)

section

variable {token : Token} {rest : List Token} {previous : Option Token} {stop : Nat} {s : Stream}

/-! ### Single tokens -/

theorem run_expect_found {kind : Token.Kind} (cause : GrammarCause) (same : token.kind = kind) :
    run (expect kind cause) ⟨previous, token :: rest, stop⟩ =
      .ok (token, ⟨some token, rest, stop⟩) := by
  simp only [run, expect, if_pos same]
  rfl

theorem run_expect_missing {kind : Token.Kind} (cause : GrammarCause)
    (other : ∀ token, s.ahead.head? = some token → token.kind ≠ kind) :
    run (expect kind cause) s = .error (.grammar cause s.position) := by
  obtain ⟨previous, ahead, stop⟩ := s
  cases ahead with
  | nil => rfl
  | cons token rest =>
      simp only [run, expect, if_neg (other token rfl)]
      rfl

/-- Something, and a token of some kind after it. -/
def closedBy (close : Token.Kind) (cause : GrammarCause) (x : Except ParseError (α × Stream)) :
    Except ParseError (α × Stream) := do
  let v ← x
  let last ← run (expect close cause) v.2
  return (v.1, last.2)

theorem closedBy_ok {close : Token.Kind} (cause : GrammarCause) (v : α)
    (closes : token.kind = close) :
    closedBy close cause (.ok (v, ⟨previous, token :: rest, stop⟩)) =
      .ok (v, ⟨some token, rest, stop⟩) := by
  have found : run (expect close cause) ⟨previous, token :: rest, stop⟩ =
      .ok (token, ⟨some token, rest, stop⟩) := run_expect_found cause closes
  simp only [closedBy, bind, Except.bind, found]
  rfl

/-! ### Chains and lists -/

section

variable {operator? : Token.Kind → Option ω} {join : ω → Expr → Expr → Nat → Expr}
  {operand : Parser Expr}

theorem run_level (s : Stream) :
    run (level operator? join operand) s =
      run operand s >>= fun x => continued (chain operator? operand join x.1 x.2) := by
  simp only [run, level]
  cases operand s with
  | error e => rfl
  | ok first =>
      simp only [Except.map, bind, Except.bind, continued]
      cases chain operator? operand join first.value first.rest <;> rfl

theorem chain_stops (left : Expr)
    (none : ∀ token, s.ahead.head? = some token → operator? token.kind = none) :
    continued (chain operator? operand join left s) = .ok (left, s) := by
  obtain ⟨previous, ahead, stop⟩ := s
  rw [chain]
  cases ahead with
  | nil => rfl
  | cons token rest =>
      simp only [none token rfl]
      rfl

theorem chain_goes_on (left : Expr) {op : ω} (some : operator? token.kind = some op) :
    continued (chain operator? operand join left ⟨previous, token :: rest, stop⟩) =
      run operand ⟨token, rest, stop⟩ >>= fun x =>
        continued (chain operator? operand join (join op left x.1 token.position) x.2) := by
  rw [chain]
  simp only [some, continued, run, Stream.advance]
  cases operand ⟨token, rest, stop⟩ with
  | error e => rfl
  | ok right =>
      simp only [Except.map, bind, Except.bind]
      cases chain operator? operand join (join op left right.value token.position) right.rest <;> rfl

end

section

variable {item : Parser α}

theorem moreItems_stops (done : List α)
    (none : ∀ token, s.ahead.head? = some token → token.kind ≠ .comma) :
    continued (moreItems item done s) = .ok (done.reverse, s) := by
  obtain ⟨previous, ahead, stop⟩ := s
  rw [moreItems]
  cases ahead with
  | nil => rfl
  | cons token rest =>
      simp only [if_neg (none token rfl)]
      rfl

theorem moreItems_goes_on (done : List α) (comma : token.kind = .comma) :
    continued (moreItems item done ⟨previous, token :: rest, stop⟩) =
      run item ⟨token, rest, stop⟩ >>= fun x =>
        continued (moreItems item (x.1 :: done) x.2) := by
  rw [moreItems]
  simp only [if_pos comma, continued, run, Stream.advance]
  cases item ⟨token, rest, stop⟩ with
  | error e => rfl
  | ok next =>
      simp only [Except.map, bind, Except.bind]
      cases moreItems item (next.value :: done) next.rest <;> rfl

theorem run_items_none {close : Token.Kind} (cause : GrammarCause) (closes : token.kind = close) :
    run (items item close cause) ⟨previous, token :: rest, stop⟩ =
      .ok ([], ⟨some token, rest, stop⟩) := by
  have next : Stream.kind? ⟨previous, token :: rest, stop⟩ = some close := congrArg some closes
  have found : run (expect close cause) ⟨previous, token :: rest, stop⟩ =
      .ok (token, ⟨some token, rest, stop⟩) := run_expect_found cause closes
  simp only [run] at found ⊢
  simp only [items, if_pos next]
  cases closed : expect close cause ⟨previous, token :: rest, stop⟩ with
  | error e =>
      rw [closed] at found
      cases found
  | ok last =>
      rw [closed] at found
      simp only [Except.map, Except.ok.injEq, Prod.mk.injEq] at found
      simp only [bind, Except.bind, pure, Except.pure, Except.map, Parsed.map, found.2]

theorem run_items_some {close : Token.Kind} (cause : GrammarCause)
    (other : ∀ token, s.ahead.head? = some token → token.kind ≠ close) :
    run (items item close cause) s = closedBy close cause
      (run item s >>= fun first => continued (moreItems item [first.1] first.2)) := by
  have next : ¬ s.kind? = some close := by
    obtain ⟨previous, ahead, stop⟩ := s
    cases ahead with
    | nil => exact fun same => nomatch same
    | cons token rest => exact fun same => other token rfl (Option.some.inj same)
  simp only [run, items, if_neg next, closedBy]
  cases item s with
  | error e => rfl
  | ok first =>
      simp only [Except.map, bind, Except.bind, continued]
      cases moreItems item [first.value] first.rest with
      | error e => rfl
      | ok all =>
          simp only [Parsed.followedBy]
          cases expect close cause all.rest <;> rfl

end

/-! ### Primary expressions and suffixes -/

section

variable {expression : Parser Expr}

theorem run_property_named (named : token.kind = .string ∨ token.kind = .identifier) :
    run (property expression) ⟨previous, token :: rest, stop⟩ = (do
      let colon ← run (expect .colon .noColonAfterKey) ⟨token, rest, stop⟩
      let value ← run expression colon.2
      return ((token.value, value.1), value.2)) := by
  simp only [run, property, if_pos named, Stream.advance]
  cases expect .colon .noColonAfterKey ⟨some token, rest, stop⟩ with
  | error e => rfl
  | ok colon =>
      simp only [Except.map, bind, Except.bind]
      cases expression colon.rest <;> rfl

theorem run_property_nameless
    (other : ∀ token, s.ahead.head? = some token → ¬ (token.kind = .string ∨
      token.kind = .identifier)) :
    run (property expression) s = .error (.grammar .noKey s.position) := by
  obtain ⟨previous, ahead, stop⟩ := s
  cases ahead with
  | nil => rfl
  | cons token rest =>
      simp only [run, property, if_neg (other token rfl)]
      rfl

theorem run_group (s : Stream) :
    run (group expression) s = closedBy .closeParen .noGroupEnd (run expression s) := by
  simp only [run, group, closedBy]
  cases expression s with
  | error e => rfl
  | ok inner =>
      simp only [Except.map, bind, Except.bind]
      cases expect .closeParen .noGroupEnd inner.rest <;> rfl

theorem run_primary_number (number : token.kind = .number) :
    run (primary expression) ⟨previous, token :: rest, stop⟩ =
      .ok (.literal .number token.value token.position, ⟨token, rest, stop⟩) := by
  simp only [run, primary, number]
  rfl

theorem run_primary_string (string : token.kind = .string) :
    run (primary expression) ⟨previous, token :: rest, stop⟩ =
      .ok (.literal .string token.value token.position, ⟨token, rest, stop⟩) := by
  simp only [run, primary, string]
  rfl

theorem run_primary_word (word : token.kind = .identifier) :
    run (primary expression) ⟨previous, token :: rest, stop⟩ =
      .ok (ofName token.value token.position, ⟨token, rest, stop⟩) := by
  simp only [run, primary, word]
  rfl

theorem run_primary_group (opens : token.kind = .openParen) :
    run (primary expression) ⟨previous, token :: rest, stop⟩ =
      run (group expression) ⟨token, rest, stop⟩ := by
  simp only [run, primary, opens, Stream.advance]
  cases group expression ⟨some token, rest, stop⟩ <;> rfl

theorem run_primary_array (opens : token.kind = .openBracket) :
    run (primary expression) ⟨previous, token :: rest, stop⟩ = (do
      let elements ← run (items expression .closeBracket .noArrayEnd) ⟨token, rest, stop⟩
      return (.array elements.1 token.position, elements.2)) := by
  simp only [run, primary, opens, Stream.advance]
  cases items expression .closeBracket .noArrayEnd ⟨some token, rest, stop⟩ <;> rfl

theorem run_primary_object (opens : token.kind = .openBrace) :
    run (primary expression) ⟨previous, token :: rest, stop⟩ = (do
      let properties ← run (items (property expression) .closeBrace .noObjectEnd)
        ⟨token, rest, stop⟩
      return (.object properties.1 token.position, properties.2)) := by
  simp only [run, primary, opens, Stream.advance]
  cases items (property expression) .closeBrace .noObjectEnd ⟨some token, rest, stop⟩ <;> rfl

def startsPrimary : Token.Kind → Bool
  | .number | .string | .identifier | .openParen | .openBracket | .openBrace => true
  | _ => false

theorem run_primary_other
    (other : ∀ token, s.ahead.head? = some token → startsPrimary token.kind = false) :
    run (primary expression) s = .error (.grammar (unexpected s) s.position) := by
  obtain ⟨previous, ahead, stop⟩ := s
  cases ahead with
  | nil => rfl
  | cons token rest =>
      have kind := other token rfl
      simp only [run, primary]
      split <;> first | rfl | (rename_i same; rw [same] at kind; cases kind)

theorem run_memberSuffix (e : Expr) (s : Stream) :
    run (memberSuffix e) s = (do
      let name ← run (expect .identifier .noPropertyName) s
      return (.member e name.1.value e.position, name.2)) := by
  simp only [run, memberSuffix]
  cases expect .identifier .noPropertyName s <;> rfl

theorem run_indexSuffix (e : Expr) (s : Stream) :
    run (indexSuffix expression e) s =
      closedBy .closeBracket .noIndexEnd (run expression s) >>= fun key =>
        return (.index e key.1 e.position, key.2) := by
  simp only [run, indexSuffix, closedBy]
  cases expression s with
  | error e => rfl
  | ok key =>
      simp only [Except.map, bind, Except.bind]
      cases expect .closeBracket .noIndexEnd key.rest <;> rfl

theorem run_callSuffix_name (name : String) (position place : Nat) (s : Stream) :
    run (callSuffix expression (.identifier name position) place) s = (do
      let arguments ← run (items expression .closeParen .noArgumentsEnd) s
      return (.call name arguments.1 position, arguments.2)) := by
  simp only [run, callSuffix]
  cases items expression .closeParen .noArgumentsEnd s <;> rfl

theorem run_callSuffix_other {e : Expr} (other : ∀ name position, e ≠ .identifier name position)
    (place : Nat) (s : Stream) :
    run (callSuffix expression e place) s = .error (.grammar .notCallable place) := by
  cases e with
  | identifier name position => exact absurd rfl (other name position)
  | _ => rfl

theorem suffix?_eq_none_iff {e : Expr} :
    suffix? expression e token = none ↔
      token.kind ≠ .dot ∧ token.kind ≠ .openBracket ∧ token.kind ≠ .openParen := by
  unfold suffix?
  cases token.kind <;> simp

theorem suffixes_stop (e : Expr)
    (none : ∀ token, s.ahead.head? = some token → suffix? expression e token = none) :
    continued (suffixes expression e s) = .ok (e, s) := by
  obtain ⟨previous, ahead, stop⟩ := s
  rw [suffixes]
  cases ahead with
  | nil => rfl
  | cons token rest =>
      simp only [none token rfl]
      rfl

theorem suffixes_go_on {e : Expr} {suffix : Parser Expr}
    (some : suffix? expression e token = some suffix) :
    continued (suffixes expression e ⟨previous, token :: rest, stop⟩) =
      run suffix ⟨token, rest, stop⟩ >>= fun x => continued (suffixes expression x.1 x.2) := by
  rw [suffixes]
  simp only [some, continued, run, Stream.advance]
  cases suffix ⟨token, rest, stop⟩ with
  | error e => rfl
  | ok next =>
      simp only [Except.map, bind, Except.bind]
      cases suffixes expression next.value next.rest <;> rfl

theorem run_postfixed (s : Stream) :
    run (postfixed expression) s =
      run (primary expression) s >>= fun x => continued (suffixes expression x.1 x.2) := by
  simp only [run, postfixed]
  cases primary expression s with
  | error e => rfl
  | ok first =>
      simp only [Except.map, bind, Except.bind, continued]
      cases suffixes expression first.value first.rest <;> rfl

end

/-! ### Conditionals, signs and powers -/

/-- What comes after the test of a conditional. -/
def branches (deeper : Layer) (test : Expr) (s : Stream) : Except ParseError (Expr × Stream) :=
  match s.ahead with
  | [] => .ok (test, s)
  | token :: _ =>
      if token.kind = .question then do
        let consequent ← run deeper.expression s.advance
        let colon ← run (expect .colon .noColonInConditional) consequent.2
        let alternate ← run deeper.expression colon.2
        return (.conditional test consequent.1 alternate.1 test.position, alternate.2)
      else .ok (test, s)

theorem branches_stop {deeper : Layer} (test : Expr)
    (none : ∀ token, s.ahead.head? = some token → token.kind ≠ .question) :
    branches deeper test s = .ok (test, s) := by
  obtain ⟨previous, ahead, stop⟩ := s
  cases ahead with
  | nil => rfl
  | cons token rest => simp only [branches, if_neg (none token rfl)]

theorem branches_go_on {deeper : Layer} (test : Expr) (asks : token.kind = .question) :
    branches deeper test ⟨previous, token :: rest, stop⟩ = (do
      let consequent ← run deeper.expression ⟨token, rest, stop⟩
      let colon ← run (expect .colon .noColonInConditional) consequent.2
      let alternate ← run deeper.expression colon.2
      return (.conditional test consequent.1 alternate.1 test.position, alternate.2)) := by
  simp only [branches, if_pos asks, Stream.advance]

theorem run_conditionalWith (deeper : Layer) (s : Stream) :
    run (conditionalWith deeper) s =
      run (disjunction deeper.power) s >>= fun x => branches deeper x.1 x.2 := by
  simp only [run, conditionalWith, branches]
  cases disjunction deeper.power s with
  | error e => rfl
  | ok test =>
      simp only [Except.map, bind, Except.bind]
      cases test.rest.ahead with
      | nil => rfl
      | cons token rest =>
          by_cases asks : token.kind = .question
          · simp only [if_pos asks]
            cases deeper.expression test.rest.advance with
            | error e => rfl
            | ok consequent =>
                simp only
                cases expect .colon .noColonInConditional consequent.rest with
                | error e => rfl
                | ok colon =>
                    simp only
                    cases deeper.expression colon.rest <;> rfl
          · simp only [if_neg asks]
            rfl

theorem run_unaryWith_sign {deeper expression : Parser Expr} {op : UnaryOp}
    (sign : sign? token.kind = some op) :
    run (unaryWith deeper expression) ⟨previous, token :: rest, stop⟩ = (do
      let operand ← run deeper ⟨token, rest, stop⟩
      return (.unary op operand.1 token.position, operand.2)) := by
  simp only [run, unaryWith, sign, Stream.advance]
  cases deeper ⟨some token, rest, stop⟩ <;> rfl

theorem run_unaryWith_plain {deeper expression : Parser Expr}
    (plain : ∀ token, s.ahead.head? = some token → sign? token.kind = none) :
    run (unaryWith deeper expression) s = run (postfixed expression) s := by
  obtain ⟨previous, ahead, stop⟩ := s
  cases ahead with
  | nil => rfl
  | cons token rest => simp only [run, unaryWith, plain token rfl]

/-- What comes after the base of a power. -/
def exponent (deeper : Parser Expr) (base : Expr) (s : Stream) :
    Except ParseError (Expr × Stream) :=
  match s.ahead with
  | [] => .ok (base, s)
  | token :: _ =>
      if token.kind = .power then do
        let exponent ← run deeper s.advance
        return (.binary .power base exponent.1 token.position, exponent.2)
      else .ok (base, s)

theorem exponent_stops {deeper : Parser Expr} (base : Expr)
    (none : ∀ token, s.ahead.head? = some token → token.kind ≠ .power) :
    exponent deeper base s = .ok (base, s) := by
  obtain ⟨previous, ahead, stop⟩ := s
  cases ahead with
  | nil => rfl
  | cons token rest => simp only [exponent, if_neg (none token rfl)]

theorem exponent_goes_on {deeper : Parser Expr} (base : Expr) (raises : token.kind = .power) :
    exponent deeper base ⟨previous, token :: rest, stop⟩ = (do
      let exponent ← run deeper ⟨token, rest, stop⟩
      return (.binary .power base exponent.1 token.position, exponent.2)) := by
  simp only [exponent, if_pos raises, Stream.advance]

theorem run_powerWith (deeper unary : Parser Expr) (s : Stream) :
    run (powerWith deeper unary) s = run unary s >>= fun x => exponent deeper x.1 x.2 := by
  simp only [run, powerWith, exponent]
  cases unary s with
  | error e => rfl
  | ok base =>
      simp only [Except.map, bind, Except.bind]
      cases base.rest.ahead with
      | nil => rfl
      | cons token rest =>
          by_cases raises : token.kind = .power
          · simp only [if_pos raises]
            cases deeper base.rest.advance <;> rfl
          · simp only [if_neg raises]
            rfl

end

end Expr

end Formula
