import Formula.Proofs.Token.Tiling

/-!
A scan takes one token after another. At the end and at what it cannot read it stays where it is.
-/

namespace Formula

open Formula.Text

namespace Token

/-- The next token, none at the end, and the cursor behind what was read. -/
def next (c : Cursor) : Except ScanError (Option Token) × Cursor :=
  let here := c.skipBlanks
  match tokenAt here with
  | .error e => (.error e, here)
  | .ok none => (.ok none, here)
  | .ok (some token) => (.ok (some token), here.advanceBy token.lexeme.length)

theorem next_of_error {c : Cursor} {e : ScanError} (failed : tokenAt c.skipBlanks = .error e) :
    next c = (.error e, c.skipBlanks) := by
  simp only [next, failed]

theorem next_of_none {c : Cursor} (ended : tokenAt c.skipBlanks = .ok none) :
    next c = (.ok none, c.skipBlanks) := by
  simp only [next, ended]

theorem next_of_token {c : Cursor} {token : Token}
    (found : tokenAt c.skipBlanks = .ok (some token)) :
    next c = (.ok (some token), c.skipBlanks.advanceBy token.lexeme.length) := by
  simp only [next, found]

def Scanned.after (token : Token) (scanned : Scanned) : Scanned :=
  { scanned with tokens := token :: scanned.tokens }

theorem lexeme_of_tokenAt {c : Cursor} {token : Token} (found : tokenAt c = .ok (some token)) :
    token.lexeme ≠ [] ∧ token.lexeme <+: c.rest :=
  lexemeAt?_isPrefix (lexemeAt?_of_tokenAt found)

theorem rest_ne_nil_of_tokenAt {c : Cursor} {token : Token} (found : tokenAt c = .ok (some token)) :
    c.rest ≠ [] := by
  intro ended
  rw [tokenAt_eq_none_iff.mpr ended] at found
  cases found

/-- A scan is its next step, and a scan from where that has come to. -/
theorem scanFrom_eq (c : Cursor) :
    scanFrom c =
      match next c with
      | (.error e, here) => ⟨[], here, some e⟩
      | (.ok none, here) => ⟨[], here, none⟩
      | (.ok (some token), behind) => (scanFrom behind).after token := by
  cases found : tokenAt c.skipBlanks with
  | error e => rw [scanFrom, found, next_of_error found]
  | ok token =>
      cases token with
      | none => rw [scanFrom, found, next_of_none found]
      | some token =>
          have read : token.lexeme ≠ [] ∧ c.skipBlanks.rest ≠ [] :=
            ⟨(lexeme_of_tokenAt found).1, rest_ne_nil_of_tokenAt found⟩
          rw [scanFrom, found, next_of_token found]
          simp only [dif_pos read, Scanned.after]

theorem length_rest_next_lt {c behind : Cursor} {token : Token}
    (step : next c = (.ok (some token), behind)) : behind.rest.length < c.rest.length := by
  unfold next at step
  dsimp only at step
  split at step
  · cases step
  · cases step
  · rename_i token found
    cases step
    have short := length_rest_skipBlanks_le c
    have some := List.length_pos_iff.mpr (lexeme_of_tokenAt found).1
    have more := List.length_pos_iff.mpr (rest_ne_nil_of_tokenAt found)
    rw [Cursor.rest_advanceBy, List.length_drop]
    omega

/-- What holds where a scan stops, and holds of a scan as soon as it holds behind its first token,
holds of every scan. -/
@[elab_as_elim] theorem scanInduction {motive : Cursor → Scanned → Prop}
    (failed : ∀ c e here, next c = (.error e, here) → motive c ⟨[], here, some e⟩)
    (ended : ∀ c here, next c = (.ok none, here) → motive c ⟨[], here, none⟩)
    (token : ∀ c token behind, next c = (.ok (some token), behind) →
      motive behind (scanFrom behind) → motive c ((scanFrom behind).after token))
    (c : Cursor) : motive c (scanFrom c) := by
  rw [scanFrom_eq]
  rcases step : next c with ⟨found, here⟩
  cases found with
  | error e => exact failed c e here step
  | ok found =>
      cases found with
      | none => exact ended c here step
      | some first => exact token c first here step (scanInduction failed ended token here)
termination_by c.rest.length
decreasing_by exact length_rest_next_lt step

end Token

end Formula
