import Formula.Proofs.Expr.Recognition
import Formula.Proofs.Expr.Unplaced
import Formula.Proofs.Token.Spacing

/-!
Blanks between tokens change nothing in a formula but the positions.
-/

namespace Formula.Expr

section

variable {tokens tokens' : List Token}

theorem finish_unplaced {x x' : Except ParseError (Expr × Stream)} (agree : Agree unplaced x x') :
    (x' >>= finish).toOption.map unplaced = (x >>= finish).toOption.map unplaced := by
  cases agree with
  | @ok e e' r r' value rest =>
      obtain ⟨previous, ahead, stop⟩ := r
      obtain ⟨previous', ahead', stop'⟩ := r'
      cases ahead with
      | nil =>
          obtain rfl : ahead' = [] := List.map_eq_nil_iff.mp rest.ahead
          exact congrArg some value
      | cons token more =>
          obtain ⟨token', more', rfl, -, -⟩ := List.map_eq_cons_iff.mp rest.ahead
          rfl
  | grammar cause position position' => rfl
  | nesting position position' => rfl

/-- Tokens that say the same are parsed to the same tree but for the positions, or not at all. -/
theorem ofTokens_unplaced (same : tokens'.map Token.content = tokens.map Token.content)
    (stop stop' levels : Nat) :
    (ofTokens tokens' stop' levels).toOption.map unplaced =
      (ofTokens tokens stop levels).toOption.map unplaced := by
  cases tokens with
  | nil =>
      obtain rfl : tokens' = [] := List.map_eq_nil_iff.mp same
      rfl
  | cons token rest =>
      obtain ⟨token', rest', rfl, -, -⟩ := List.map_eq_cons_iff.mp same
      rw [ofTokens_eq (List.cons_ne_nil token rest), ofTokens_eq (List.cons_ne_nil token' rest')]
      exact finish_unplaced ((layer_uniform levels).expression _ _ ⟨rfl, same⟩)

theorem toOption_mapError {ε ε' α : Type} (x : Except ε α) (f : ε → ε') :
    (x.mapError f).toOption = x.toOption := by cases x <;> rfl

theorem parse_unplaced (host : Host) {source source' : String} {stop stop' : Nat}
    (lexes : Token.tokens source = .ok (tokens, stop))
    (lexes' : Token.tokens source' = .ok (tokens', stop'))
    (same : tokens'.map Token.content = tokens.map Token.content) (maxNesting : Int) :
    (parse host source' maxNesting).toOption.map unplaced =
      (parse host source maxNesting).toOption.map unplaced := by
  rw [parse_of_tokens lexes, parse_of_tokens lexes', toOption_mapError, toOption_mapError]
  exact ofTokens_unplaced same _ _ _

end

/-- When the lexemes of a source are written again with other blanks around them, and some between
any two, the same tokens are read, and with the same nesting the same tree is parsed, but for
positions, or none in both cases. -/
theorem respaced_same (host : Host) {source : String} {tokens : List Token} {stop : Nat}
    (lexes : Token.tokens source = .ok (tokens, stop)) {front : List Char}
    {pieces : List (Token × List Char)} (same : pieces.map Prod.fst = tokens)
    (spacing : Token.Spacing front pieces) :
    ∃ tokens' stop',
      Token.tokens (String.ofList (Token.spaced front pieces)) = .ok (tokens', stop') ∧
        tokens'.map (fun t => (t.kind, t.lexeme, t.value)) =
          tokens.map (fun t => (t.kind, t.lexeme, t.value)) ∧
        (∀ levels, (ofTokens tokens' stop' levels).toOption.map unplaced =
          (ofTokens tokens stop levels).toOption.map unplaced) ∧
        ∀ maxNesting : Int,
          (parse host (String.ofList (Token.spaced front pieces)) maxNesting).toOption.map
              unplaced =
            (parse host source maxNesting).toOption.map unplaced := by
  obtain ⟨tokens', stop', lexes', contents⟩ := Token.tokens_spaced lexes same spacing
  refine ⟨tokens', stop', lexes', ?_, ofTokens_unplaced contents stop stop',
    parse_unplaced host lexes lexes' contents⟩
  -- kind and lexeme decide the value
  have said := congrArg (List.map fun c : Token.Kind × List Char =>
    (c.1, c.2, Token.value ⟨c.1, c.2, 0, 1, 1⟩)) contents
  rw [List.map_map, List.map_map] at said
  exact said

theorem respaced_same_quotient :
    let one : Token := ⟨.number, ['1', '.', '5'], 0, 1, 1⟩
    let slash : Token := ⟨.divide, ['/'], 3, 1, 4⟩
    let name : Token := ⟨.identifier, ['x'], 4, 1, 5⟩
    let pieces := [(one, ['\n']), (slash, ['\t', ' ']), (name, [])]
    Token.tokens "1.5/x" = .ok ([one, slash, name], 5) ∧ Token.Spacing [' '] pieces ∧
      ∃ tokens stop, Token.tokens " 1.5\n/\t x" = .ok (tokens, stop) ∧
        (ofTokens tokens stop 32).toOption.map unplaced =
          some (.binary .divide (.literal .number "1.5" 0) (.identifier "x" 0) 0) := by
  intro one slash name pieces
  have lexes : Token.tokens "1.5/x" = .ok ([one, slash, name], 5) :=
    Token.tokens_eq_ok_iff.mpr (by decide +kernel)
  have front : [' '].all Text.isBlank = true := by decide
  have behind : (pieces.all fun piece => piece.2.all Text.isBlank) = true := by decide
  have spacing : Token.Spacing [' '] pieces := by
    refine ⟨List.all_eq_true.mp front, fun piece member => ?_, by decide⟩
    exact List.all_eq_true.mp (List.all_eq_true.mp behind piece member)
  have written : String.ofList (Token.spaced [' '] pieces) = " 1.5\n/\t x" := by decide
  have same : pieces.map Prod.fst = [one, slash, name] := rfl
  obtain ⟨tokens, stop, lexes', -, trees, -⟩ := respaced_same .universal lexes same spacing
  rw [written] at lexes'
  have first : Derives [one] (.expression .multiplicative _) :=
    (Derives.number rfl).ofPrimary .multiplicative
  have plain : keyword? name.value = none := by decide +kernel
  have second : Derives [name] (.expression .power _) := (Derives.name rfl plain).ofPrimary .power
  have quotient : Derives [one, slash, name] (.expression .multiplicative _) :=
    first.chain (rfl : Level.join? .multiplicative slash.kind = _) rfl second
  have relational : Derives [one, slash, name] (.expression .relational _) :=
    .tighter rfl (.tighter rfl quotient)
  have conjunction : Derives [one, slash, name] (.expression .conjunction _) :=
    .tighter rfl (.tighter rfl relational)
  have whole : Derives [one, slash, name] (.expression .conditional _) :=
    .tighter rfl (.tighter rfl conjunction)
  have parsed : ofTokens [one, slash, name] 5 32 = .ok _ := whole.ofTokens (by decide)
  refine ⟨lexes, spacing, tokens, stop, lexes', (trees 32).trans ?_⟩
  rw [parsed]
  rfl

end Formula.Expr
