import Formula.Proofs.Expr.Recognition

/-!
Errors are reported at the first token that no formula can have there: what comes before the place of
an error can be continued to a formula, and what ends with its token cannot.
-/

namespace Formula.Expr

variable {tokens : List Token} {stop levels levels' : Nat} {cause : GrammarCause} {position : Nat}

/-- An error divides the tokens into those that can be continued and those that are never read. With
more nesting, other tokens after the next one are refused as well. -/
theorem ofTokens_refuses (present : tokens ≠ []) (less : levels ≤ levels')
    (failed : ofTokens tokens stop levels = .error (.grammar cause position)) :
    ∃ front back, tokens = front ++ back ∧ position = place back stop ∧
      (∃ more t, Derives (front ++ more) (.expression .conditional t)) ∧
      ∀ next rest stop', back.head? = some next →
        ∀ t, ofTokens (front ++ next :: rest) stop' levels' ≠ .ok t := by
  rw [ofTokens_eq present] at failed
  rcases bind_eq_error.mp failed with failed | ⟨⟨e, r⟩, came, failed⟩
  · obtain ⟨front, back, ahead, there, goesOn, replay⟩ :=
      (expression_follows less _).refuses cause position failed
    refine ⟨front, back, ahead, there, goesOn, fun next rest stop' found t parsed => ?_⟩
    rw [ofTokens_eq (List.append_ne_nil_of_right_ne_nil front (List.cons_ne_nil next rest))]
      at parsed
    obtain ⟨x, came, -⟩ := bind_eq_ok.mp parsed
    cases (replay (next :: rest) stop' found.symm).symm.trans came
  · obtain ⟨front, ahead, -, reads, replay⟩ := (expression_follows less _).accepts e r came
    unfold finish at failed
    split at failed
    · cases failed
    · rename_i token after left
      cases failed
      refine ⟨front, r.ahead, ahead, by rw [left]; rfl, ⟨[], e, by rwa [List.append_nil]⟩, ?_⟩
      intro next rest stop' found t parsed
      rw [ofTokens_eq (List.append_ne_nil_of_right_ne_nil front (List.cons_ne_nil next rest)),
        bind_of_ok (replay (next :: rest) stop' found.symm)] at parsed
      cases parsed

theorem place_drop (tokens : List Token) (stop i : Nat) :
    place (tokens.drop i) stop = (tokens[i]?.map (·.position)).getD stop := by
  rw [place, List.head?_drop]

/-- An error stands at a token of a source, or at its end. The tokens before can be continued to a
formula, and no formula starts with them and the token of the error. -/
theorem refused_at_earliest {source : String} (lexes : Token.tokens source = .ok (tokens, stop))
    (present : tokens ≠ []) {maxNesting : Nat}
    (failed : ofTokens tokens stop maxNesting = .error (.grammar cause position)) :
    (∃ i ≤ tokens.length, position = (tokens[i]?.map (·.position)).getD stop) ∧
      ∀ i ≤ tokens.length, position = (tokens[i]?.map (·.position)).getD stop →
        (∃ more stop' nesting t, ofTokens (tokens.take i ++ more) stop' nesting = .ok t) ∧
        (i < tokens.length → ∀ more stop' nesting t,
          ofTokens (tokens.take (i + 1) ++ more) stop' nesting ≠ .ok t) := by
  -- the parts that an error divides the tokens into are told by its place
  have divided : ∀ nesting, maxNesting ≤ nesting → ∀ i ≤ tokens.length,
      position = (tokens[i]?.map (·.position)).getD stop →
        (∃ more t, Derives (tokens.take i ++ more) (.expression .conditional t)) ∧
        ∀ next rest stop', (tokens.drop i).head? = some next →
          ∀ t, ofTokens (tokens.take i ++ next :: rest) stop' nesting ≠ .ok t := by
    intro nesting less i within here
    obtain ⟨front, back, rfl, there, goesOn, refused⟩ := ofTokens_refuses present less failed
    have same : i = front.length := by
      refine Token.place_injective lexes within (by simp) ?_
      rw [← here, there, ← place_drop, List.drop_left]
    subst same
    rw [List.take_left, List.drop_left]
    exact ⟨goesOn, refused⟩
  refine ⟨?_, fun i within here => ⟨?_, fun inside more stop' nesting t parsed => ?_⟩⟩
  · obtain ⟨front, back, rfl, there, -⟩ := ofTokens_refuses present (Nat.le_refl maxNesting) failed
    exact ⟨front.length, by simp, by rw [there, ← place_drop, List.drop_left]⟩
  · obtain ⟨⟨more, t, derives⟩, -⟩ := divided maxNesting (Nat.le_refl _) i within here
    exact ⟨more, 0, _, t, derives.ofTokens (Nat.le_refl _)⟩
  · -- what is parsed at all is parsed with the nesting at which it was refused
    have derives := derives_of_ofTokens parsed
    have enough : ofTokens (tokens.take (i + 1) ++ more) stop'
        (max maxNesting (tokens.take (i + 1) ++ more).length) = .ok t :=
      derives.ofTokens (Nat.le_max_right _ _)
    obtain ⟨-, refused⟩ := divided _ (Nat.le_max_left maxNesting _) i within here
    have next : (tokens.drop i).head? = some tokens[i] := by
      rw [List.head?_drop, List.getElem?_eq_getElem inside]
    rw [← List.take_append_getElem inside, List.append_assoc] at enough
    exact refused tokens[i] more stop' next t enough

theorem refused_at_earliest_bracket :
    let opens : Token := ⟨.openParen, ['('], 0, 1, 1⟩
    let one : Token := ⟨.number, ['1'], 1, 1, 2⟩
    let closes : Token := ⟨.closeBracket, [']'], 2, 1, 3⟩
    let tokens := [opens, one, closes]
    Token.tokens "(1]" = .ok (tokens, 3) ∧ tokens ≠ [] ∧
      ofTokens tokens 3 8 = .error (.grammar .noGroupEnd 2) ∧
      (∃ more stop nesting t, ofTokens ([opens, one] ++ more) stop nesting = .ok t) ∧
      ∀ more stop nesting t, ofTokens (opens :: one :: closes :: more) stop nesting ≠ .ok t := by
  intro opens one closes tokens
  have lexes : Token.tokens "(1]" = .ok (tokens, 3) := Token.tokens_eq_ok_iff.mpr (by decide +kernel)
  have present : tokens ≠ [] := List.cons_ne_nil _ _
  have refused : (match ofTokens tokens 3 8 with
      | .error e => decide (e = .grammar .noGroupEnd 2)
      | .ok _ => false) = true := by
    decide +kernel
  have failed : ofTokens tokens 3 8 = .error (.grammar .noGroupEnd 2) := by
    split at refused
    · rename_i e same
      rw [same, of_decide_eq_true refused]
    · cases refused
  obtain ⟨before, after⟩ := (refused_at_earliest lexes present failed).2 2 (by decide) rfl
  exact ⟨lexes, present, failed, before, after (by decide)⟩

end Formula.Expr
