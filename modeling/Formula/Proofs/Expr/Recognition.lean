import Formula.Expr.Bounded
import Formula.Proofs.Expr.Completeness
import Formula.Proofs.Expr.Soundness
import Formula.Proofs.Token.Position

/-!
With nesting enough for its tokens, a source is parsed exactly when its tokens can be derived, and as
the one tree that they can be derived as.
-/

namespace Formula.Expr

section

variable {tokens : List Token} {stop levels levels' : Nat} {t : Expr}

/-- A formula after which tokens are left is none. -/
def finish (x : Expr × Stream) : Except ParseError Expr :=
  match x.2.ahead with
  | [] => .ok x.1
  | token :: _ => .error (.grammar (.unexpectedToken token.value) token.position)

theorem ofTokens_eq (present : tokens ≠ []) :
    ofTokens tokens stop levels =
      run (layer levels).expression ⟨none, tokens, stop⟩ >>= finish := by
  have some : tokens.isEmpty = false := List.isEmpty_eq_false_iff.mpr present
  simp only [ofTokens, run, some]
  cases (layer levels).expression ⟨none, tokens, stop⟩ with
  | error e => rfl
  | ok parsed =>
      obtain ⟨e, ⟨previous, ahead, stop⟩, shorter⟩ := parsed
      cases ahead <;> rfl

theorem expression_follows (less : levels ≤ levels') :
    Follows (Reads .conditional) levels (layer levels).expression (layer levels').expression :=
  (layer_follows less).expression

theorem derives_of_ofTokens (parsed : ofTokens tokens stop levels = .ok t) :
    Derives tokens (.expression .conditional t) := by
  cases tokens with
  | nil => cases parsed
  | cons token rest =>
      rw [ofTokens_eq (List.cons_ne_nil token rest)] at parsed
      obtain ⟨⟨e, r⟩, came, ended⟩ := bind_eq_ok.mp parsed
      obtain ⟨ts, ahead, -, reads, -⟩ :=
        (expression_follows (Nat.le_refl levels) _).accepts e r came
      unfold finish at ended
      split at ended
      · rename_i none
        cases ended
        rw [none, List.append_nil] at ahead
        subst ahead
        exact reads
      · cases ended

theorem Derives.ofTokens (derives : Derives tokens (.expression .conditional t))
    (room : tokens.length ≤ levels) : Expr.ofTokens tokens stop levels = .ok t := by
  obtain ⟨token, rest, rfl, -⟩ := derives.starts rfl
  have leaves : Admits .conditional [] := fun token none => nomatch none
  obtain ⟨last, taken⟩ := (derives.parsed levels room).takes none [] stop leaves
  rw [List.append_nil] at taken
  exact (ofTokens_eq (List.cons_ne_nil token rest)).trans (bind_of_ok taken)

theorem Derives.unique {t' : Expr} (first : Derives tokens (.expression .conditional t))
    (second : Derives tokens (.expression .conditional t')) : t = t' := by
  have parsed : Expr.ofTokens tokens 0 tokens.length = .ok t := first.ofTokens (Nat.le_refl _)
  have parsed' : Expr.ofTokens tokens 0 tokens.length = .ok t' := second.ofTokens (Nat.le_refl _)
  exact Except.ok.inj (parsed.symm.trans parsed')

theorem finish_ne_nesting (x : Expr × Stream) (position : Nat) :
    finish x ≠ .error (.nesting position) := by
  unfold finish
  split <;> exact fun failed => nomatch failed

theorem ofTokens_nesting {position : Nat}
    (failed : ofTokens tokens stop levels = .error (.nesting position)) :
    levels ≤ tokens.length := by
  cases tokens with
  | nil => cases failed
  | cons token rest =>
      rw [ofTokens_eq (List.cons_ne_nil token rest)] at failed
      rcases bind_eq_error.mp failed with failed | ⟨x, -, failed⟩
      · exact (expression_follows (Nat.le_refl levels) _).exceeds position failed
      · exact absurd failed (finish_ne_nesting x position)

/-- More nesting changes nothing, unless it was exceeded. -/
theorem ofTokens_more (less : levels ≤ levels')
    (settled : ∀ position, ofTokens tokens stop levels ≠ .error (.nesting position)) :
    ofTokens tokens stop levels' = ofTokens tokens stop levels := by
  cases tokens with
  | nil => rfl
  | cons token rest =>
      have present := List.cons_ne_nil token rest
      rw [ofTokens_eq present] at settled
      rw [ofTokens_eq present, ofTokens_eq present]
      refine congrArg (· >>= finish) ((expression_follows less _).same fun position failed => ?_)
      exact settled position (bind_eq_error.mpr (.inl failed))

theorem exists_ofTokens_grammar (room : tokens.length < levels) :
    (∃ cause position, ofTokens tokens stop levels = .error (.grammar cause position)) ↔
      ∀ t, ¬ Derives tokens (.expression .conditional t) := by
  constructor
  · rintro ⟨cause, position, failed⟩ t derives
    cases failed.symm.trans (derives.ofTokens (Nat.le_of_lt room))
  · intro none
    cases parsed : ofTokens tokens stop levels with
    | ok t => exact absurd (derives_of_ofTokens parsed) (none t)
    | error e =>
        cases e with
        | grammar cause position => exact ⟨cause, position, rfl⟩
        | nesting position => exact absurd (ofTokens_nesting parsed) (Nat.not_le_of_lt room)

end

section

variable {host : Host} {source : String} {tokens : List Token} {stop : Nat}

theorem parse_of_tokens (lexes : Token.tokens source = .ok (tokens, stop)) (maxNesting : Int) :
    parse host source maxNesting =
      (ofTokens tokens stop (min maxNesting.toNat host.nesting)).mapError
        (ParseError.describe host maxNesting) := by
  unfold parse
  rw [lexes]
  rfl

theorem parse_of_scanError {e : Token.ScanError} (failed : Token.tokens source = .error e)
    (maxNesting : Int) : parse host source maxNesting = .error (.scan e) := by
  unfold parse
  rw [failed]
  rfl

theorem ofTokens_of_parse {maxNesting : Int} {t : Expr}
    (parses : parse host source maxNesting = .ok t) :
    ∃ tokens stop, Token.tokens source = .ok (tokens, stop) ∧
      ofTokens tokens stop (min maxNesting.toNat host.nesting) = .ok t := by
  cases lexes : Token.tokens source with
  | error e =>
      rw [parse_of_scanError lexes] at parses
      cases parses
  | ok lexed =>
      obtain ⟨tokens, stop⟩ := lexed
      rw [parse_of_tokens lexes, mapError_eq_ok] at parses
      exact ⟨tokens, stop, rfl, parses⟩

theorem derives_of_parse {maxNesting : Int} {t : Expr}
    (parses : parse host source maxNesting = .ok t) :
    ∃ tokens stop, Token.tokens source = .ok (tokens, stop) ∧
      Derives tokens (.expression .conditional t) := by
  obtain ⟨tokens, stop, lexes, built⟩ := ofTokens_of_parse parses
  exact ⟨tokens, stop, lexes, derives_of_ofTokens built⟩

/-- What is parsed within limits is parsed, and no deeper than they allow. -/
theorem parse_of_parseWithin {limits : Limits} {parsed : Measured}
    (parses : parseWithin host limits source = .ok parsed) :
    parse host source limits.maxNesting = .ok parsed.expr ∧
      parsed.expr.measure.2 ≤ limits.maxDepth := by
  unfold parseWithin at parses
  split at parses
  · cases parses
  · obtain ⟨e, built, within⟩ := bind_eq_ok.mp parses
    dsimp only at within
    split at within
    · cases within
    · rename_i shallow
      split at within
      · cases within
      · cases within
        exact ⟨built, Nat.not_lt.mp shallow⟩

/-- Sources are parsed as their tokens are, unless the host can follow the nesting no further. -/
theorem parse_eq_or_host (lexes : Token.tokens source = .ok (tokens, stop)) (maxNesting : Nat) :
    parse host source maxNesting =
        (ofTokens tokens stop maxNesting).mapError (ParseError.describe host maxNesting) ∨
      host.nesting < maxNesting ∧ parse host source maxNesting = .error (.limit .host none) := by
  rw [parse_of_tokens lexes, Int.toNat_natCast]
  rcases Nat.lt_or_ge host.nesting maxNesting with beyond | within
  · rw [Nat.min_eq_right (Nat.le_of_lt beyond)]
    by_cases exceeded : ∃ position, ofTokens tokens stop host.nesting = .error (.nesting position)
    · obtain ⟨position, failed⟩ := exceeded
      refine .inr ⟨beyond, ?_⟩
      have further : ¬ (maxNesting : Int) ≤ host.nesting := by omega
      have host : ParseError.describe host maxNesting (.nesting position) = .limit .host none :=
        if_neg further
      exact mapError_eq_error.mpr ⟨_, failed, host⟩
    · rw [ofTokens_more (Nat.le_of_lt beyond) fun position failed => exceeded ⟨position, failed⟩]
      exact .inl rfl
  · rw [Nat.min_eq_left within]
    exact .inl rfl

/-- The parser accepts exactly its grammar, if it may nest once more than there are tokens. No tokens
have two trees, and only names are called, bare or in parentheses. Of a whole source the same comes
out, but for the host, which may not follow what is nested more deeply than `host.nesting`. -/
theorem parses_iff_derives (host : Host) (lexes : Token.tokens source = .ok (tokens, stop))
    {maxNesting : Nat} (enough : tokens.length + 1 ≤ maxNesting) :
    (∀ t, ofTokens tokens stop maxNesting = .ok t ↔
        Derives tokens (.expression .conditional t)) ∧
      ((∃ cause position, ofTokens tokens stop maxNesting = .error (.grammar cause position)) ↔
        ∀ t, ¬ Derives tokens (.expression .conditional t)) ∧
      (∀ (ts : List Token) (t t' : Expr), Derives ts (.expression .conditional t) →
        Derives ts (.expression .conditional t') → t = t') ∧
      (∀ (callee : List Token) (name : String) (position : Nat),
        Derives callee (.expression .postfixed (.identifier name position)) ↔
          Named name position callee) ∧
      (parse host source maxNesting =
          (ofTokens tokens stop maxNesting).mapError (ParseError.describe host maxNesting) ∨
        host.nesting < maxNesting ∧ parse host source maxNesting = .error (.limit .host none)) := by
  refine ⟨fun t => ⟨derives_of_ofTokens, fun derives => ?_⟩, exists_ofTokens_grammar enough,
    fun ts t t' => Derives.unique, fun callee name position => derives_identifier_iff,
    parse_eq_or_host lexes maxNesting⟩
  exact derives.ofTokens (Nat.le_of_lt enough)

theorem parses_iff_derives_difference :
    let eight : Token := ⟨.number, ['8'], 0, 1, 1⟩
    let two : Token := ⟨.number, ['2'], 2, 1, 3⟩
    let one : Token := ⟨.number, ['1'], 4, 1, 5⟩
    let minus : Token := ⟨.minus, ['-'], 1, 1, 2⟩
    let again : Token := ⟨.minus, ['-'], 3, 1, 4⟩
    let tokens := [eight, minus, two, again, one]
    Token.tokens "8-2-1" = .ok (tokens, 5) ∧ tokens.length + 1 ≤ 6 ∧
      ofTokens tokens 5 6 = .ok (.binary .subtract
        (.binary .subtract (.literal .number "8" 0) (.literal .number "2" 2) 1)
        (.literal .number "1" 4) 3) := by
  intro eight two one minus again tokens
  have lexes : Token.tokens "8-2-1" = .ok (tokens, 5) :=
    Token.tokens_eq_ok_iff.mpr (by decide +kernel)
  have enough : tokens.length + 1 ≤ 6 := by decide
  refine ⟨lexes, enough, ((parses_iff_derives .universal lexes enough).1 _).mpr ?_⟩
  have first : Derives [eight] (.expression .additive _) := (Derives.number rfl).ofPrimary .additive
  have second : Derives [two] (.expression .multiplicative _) :=
    (Derives.number rfl).ofPrimary .multiplicative
  have third : Derives [one] (.expression .multiplicative _) :=
    (Derives.number rfl).ofPrimary .multiplicative
  have difference : Derives [eight, minus, two] (.expression .additive _) :=
    first.chain (rfl : Level.join? .additive minus.kind = _) rfl second
  have whole : Derives tokens (.expression .additive _) :=
    difference.chain (rfl : Level.join? .additive again.kind = _) rfl third
  have relational : Derives tokens (.expression .relational _) := .tighter rfl whole
  have equality : Derives tokens (.expression .equality _) := .tighter rfl relational
  have conjunction : Derives tokens (.expression .conjunction _) := .tighter rfl equality
  exact .tighter rfl (.tighter rfl conjunction)

end

end Formula.Expr
