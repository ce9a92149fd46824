import Formula.Proofs.Token.Lexeme
import Formula.Proofs.Token.Scanning

/-!
Tokens written again, with other blanks between them. A scan reads the same tokens.
-/

namespace Formula.Token

open Formula.Text

/-- Lexemes in their order, something in front of them and something behind each. -/
def spaced (front : List Char) (pieces : List (Token × List Char)) : List Char :=
  front ++ pieces.flatMap fun piece => piece.1.lexeme ++ piece.2

/-- Blanks around tokens, of which there are some between any two. -/
structure Spacing (front : List Char) (pieces : List (Token × List Char)) : Prop where
  front : ∀ c ∈ front, isBlank c = true
  behind : ∀ piece ∈ pieces, ∀ c ∈ piece.2, isBlank c = true
  between : ∀ piece ∈ pieces.dropLast, piece.2 ≠ []

variable {front : List Char} {piece : Token × List Char} {pieces : List (Token × List Char)}

theorem spaced_cons (front : List Char) (piece : Token × List Char)
    (pieces : List (Token × List Char)) :
    spaced front (piece :: pieces) = front ++ (piece.1.lexeme ++ spaced piece.2 pieces) := by
  simp [spaced]

theorem Spacing.tail (spacing : Spacing front (piece :: pieces)) : Spacing piece.2 pieces := by
  obtain ⟨here, others⟩ := List.forall_mem_cons.mp spacing.behind
  refine ⟨here, others, fun other member => spacing.between other ?_⟩
  cases pieces with
  | nil => cases member
  | cons next pieces => exact List.mem_cons_of_mem piece member

theorem Spacing.apart (spacing : Spacing front (piece :: pieces)) :
    Apart (spaced piece.2 pieces) := by
  obtain ⟨here, -⟩ := List.forall_mem_cons.mp spacing.behind
  rcases gap : piece.2 with _ | ⟨c, more⟩
  · -- only the last token has nothing behind it
    cases pieces with
    | nil => exact apart_nil
    | cons next pieces => exact absurd gap (spacing.between piece List.mem_cons_self)
  · exact apart_cons (here c (by rw [gap]; exact List.mem_cons_self)) _

theorem rest_skipBlanks_of_blanks {c : Cursor} {blanks cs : List Char}
    (ahead : c.rest = blanks ++ cs) (blank : ∀ c ∈ blanks, isBlank c = true)
    (solid : ∀ c ∈ cs.head?, isBlank c = false) :
    c.skipBlanks.rest = cs := by
  rw [Cursor.rest_skipBlanks, ahead, List.dropWhile_append_of_pos blank]
  cases cs with
  | nil => rfl
  | cons d cs => exact List.dropWhile_cons_of_neg (by simp [solid d rfl])

theorem tokenAt_of_opens {c : Cursor} {lexeme rest : List Char} {kind : Kind}
    (ahead : c.rest = lexeme ++ rest) (some : lexeme ≠ [])
    (opens : Opens (lexeme ++ rest) lexeme kind) :
    tokenAt c = .ok (.some ⟨kind, lexeme, c.position, c.line, c.column⟩) := by
  obtain ⟨first, more, rfl⟩ := List.exists_cons_of_ne_nil some
  rw [tokenAt, ahead]
  simp only [List.cons_append] at opens ⊢
  rw [opens.plain, opens.read]

/-- Where a token is written, behind blanks and before a blank or the end, it is read. -/
theorem next_spaced {c : Cursor} (ahead : c.rest = spaced front (piece :: pieces))
    (spacing : Spacing front (piece :: pieces)) (readable : piece.1.IsRead) :
    ∃ token behind, next c = (.ok (some token), behind) ∧ token.content = piece.1.content ∧
      behind.rest = spaced piece.2 pieces := by
  obtain ⟨cs, read⟩ := readable
  have some := (lexemeAt?_isPrefix read).1
  have solid : ∀ d ∈ (piece.1.lexeme ++ spaced piece.2 pieces).head?, isBlank d = false := by
    have solid := not_isBlank_of_lexemeAt? read
    obtain ⟨d, more, shape⟩ := List.exists_cons_of_ne_nil some
    rw [shape] at solid ⊢
    exact solid
  rw [spaced_cons] at ahead
  have here := rest_skipBlanks_of_blanks ahead spacing.front solid
  have found := tokenAt_of_opens here some (opens_of_lexemeAt? read spacing.apart)
  refine ⟨_, _, next_of_token found, rfl, ?_⟩
  rw [Cursor.rest_advanceBy, here, List.drop_left]

theorem scanFrom_spaced {c : Cursor} (ahead : c.rest = spaced front pieces)
    (spacing : Spacing front pieces) (readable : ∀ piece ∈ pieces, piece.1.IsRead) :
    (scanFrom c).error = none ∧
      (scanFrom c).tokens.map content = pieces.map fun piece => piece.1.content := by
  induction pieces generalizing c front with
  | nil =>
      have ahead : c.rest = front ++ [] := ahead
      have ended := rest_skipBlanks_of_blanks ahead spacing.front nofun
      rw [scanFrom_eq, next_of_none (tokenAt_eq_none_iff.mpr ended)]
      exact ⟨rfl, rfl⟩
  | cons piece pieces ih =>
      obtain ⟨here, others⟩ := List.forall_mem_cons.mp readable
      obtain ⟨token, behind, step, same, rest⟩ := next_spaced ahead spacing here
      obtain ⟨none, tokens⟩ := ih rest spacing.tail others
      rw [scanFrom_eq, step]
      refine ⟨none, ?_⟩
      simp only [Scanned.after, List.map_cons, same, tokens]

theorem tokens_spaced {source : String} {tokens : List Token} {stop : Nat}
    (lexes : Token.tokens source = .ok (tokens, stop)) (same : pieces.map Prod.fst = tokens)
    (spacing : Spacing front pieces) :
    ∃ tokens' stop', Token.tokens (String.ofList (spaced front pieces)) = .ok (tokens', stop') ∧
      tokens'.map content = tokens.map content := by
  obtain ⟨-, read, -⟩ := tokens_eq_ok_iff.mp lexes
  have readable : ∀ piece ∈ pieces, piece.1.IsRead := by
    intro piece member
    have among : piece.1 ∈ pieces.map Prod.fst := List.mem_map_of_mem member
    rw [same, ← read] at among
    exact isRead_of_mem among
  have ahead : (Cursor.start (String.ofList (spaced front pieces)).toList).rest =
      spaced front pieces := String.toList_ofList
  obtain ⟨none, contents⟩ := scanFrom_spaced ahead spacing readable
  refine ⟨_, _, tokens_eq_ok_iff.mpr ⟨none, rfl, rfl⟩, contents.trans ?_⟩
  rw [← same, List.map_map]
  rfl

end Formula.Token
