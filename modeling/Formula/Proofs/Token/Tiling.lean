import Formula.Proofs.Token.Numeral
import Formula.Proofs.Token.Position

/-!
The tokens of a source tile it: every lexeme is read from the place of its token, nothing but blanks
stands between lexemes, and a scan stops at the end or at its first error.
-/

namespace Formula

open Formula.Text

namespace Cursor

theorem position_add_length_advance (c : Cursor) :
    c.advance.position + c.advance.rest.length = c.position + c.rest.length := by
  obtain ⟨position, line, column, rest⟩ := c
  cases rest with
  | nil => rfl
  | cons first rest =>
      have moved : (advance ⟨position, line, column, first :: rest⟩).position = position + 1 := by
        unfold advance
        split <;> simp_all
      rw [moved, rest_advance]
      simp only [List.drop_succ_cons, List.drop_zero, List.length_cons]
      omega

/-- Where the source ends does not change as a cursor advances. -/
theorem position_add_length_advanceBy (n : Nat) (c : Cursor) :
    (c.advanceBy n).position + (c.advanceBy n).rest.length = c.position + c.rest.length := by
  induction n generalizing c with
  | zero => rfl
  | succ n ih => exact (ih c.advance).trans c.position_add_length_advance

theorem position_advanceBy {n : Nat} {c : Cursor} (fits : n ≤ c.rest.length) :
    (c.advanceBy n).position = c.position + n := by
  have same := position_add_length_advanceBy n c
  rw [rest_advanceBy, List.length_drop] at same
  omega

theorem rest_skipBlanks (c : Cursor) : c.skipBlanks.rest = c.rest.dropWhile isBlank := by
  have behind : (c.rest.takeWhile isBlank ++ c.rest.dropWhile isBlank).drop
      (c.rest.takeWhile isBlank).length = c.rest.dropWhile isBlank := List.drop_left
  rw [skipBlanks, rest_advanceBy]
  rwa [List.takeWhile_append_dropWhile] at behind

theorem position_skipBlanks (c : Cursor) :
    c.skipBlanks.position = c.position + (c.rest.takeWhile isBlank).length :=
  position_advanceBy (List.takeWhile_prefix isBlank).length_le

end Cursor

namespace Token

/-! ### Lexemes -/

section

variable {cs : List Char}

theorem append_isPrefix {xs ys : List Char} (front : xs <+: cs) (back : ys <+: cs.drop xs.length) :
    xs ++ ys <+: cs := by
  obtain ⟨rest, rfl⟩ := front
  rw [List.drop_left] at back
  exact (List.prefix_append_right_inj xs).mpr back

theorem fractionAt_isPrefix (cs : List Char) : fractionAt cs <+: cs := by
  unfold fractionAt
  split
  · dsimp only
    split
    · exact List.nil_prefix
    · exact (List.prefix_cons_inj _).mpr (List.takeWhile_prefix isDigit)
  · exact List.nil_prefix

theorem mantissaAt_isPrefix (cs : List Char) : mantissaAt cs <+: cs :=
  append_isPrefix (List.takeWhile_prefix isDigit) (fractionAt_isPrefix _)

theorem signAt_isPrefix (cs : List Char) : signAt cs <+: cs := by
  unfold signAt
  split
  · exact List.prefix_append ['+'] _
  · exact List.prefix_append ['-'] _
  · exact List.nil_prefix

theorem exponentAt_isPrefix (cs : List Char) : exponentAt cs <+: cs := by
  unfold exponentAt
  split
  · exact List.nil_prefix
  · dsimp only
    split
    · exact (List.prefix_cons_inj _).mpr
        (append_isPrefix (signAt_isPrefix _) (List.takeWhile_prefix isDigit))
    · exact List.nil_prefix

theorem numberAt_isPrefix (cs : List Char) : numberAt cs <+: cs := by
  unfold numberAt
  dsimp only
  split
  · exact List.nil_prefix
  · exact append_isPrefix (mantissaAt_isPrefix cs) (exponentAt_isPrefix _)

theorem stringTailAt?_isPrefix {quote : Char} {tail : List Char}
    (found : stringTailAt? quote cs = some tail) : tail <+: cs := by
  fun_induction stringTailAt? quote cs generalizing tail with
  | case1 => cases found
  | case2 rest => cases found
  | case3 c rest escapes ih =>
      obtain ⟨inner, read, rfl⟩ := Option.map_eq_some_iff.mp found
      exact List.prefix_append_right_inj ['\\', c] |>.mpr (ih read)
  | case4 rest =>
      cases found
      exact List.prefix_append [quote] rest
  | case5 => cases found
  | case6 c rest _ other plain ih =>
      obtain ⟨inner, read, rfl⟩ := Option.map_eq_some_iff.mp found
      exact (List.prefix_cons_inj c).mpr (ih read)

theorem stringAt_isPrefix (cs : List Char) : stringAt cs <+: cs := by
  unfold stringAt
  split
  · exact List.nil_prefix
  · split
    · split
      · rename_i read
        exact (List.prefix_cons_inj _).mpr (stringTailAt?_isPrefix read)
      · exact List.nil_prefix
    · exact List.nil_prefix

theorem nameAt_isPrefix (cs : List Char) : nameAt cs <+: cs := by
  unfold nameAt
  split
  · exact List.nil_prefix
  · split
    · exact (List.prefix_cons_inj _).mpr (List.takeWhile_prefix isWord)
    · exact List.nil_prefix

theorem identifierAt_isPrefix (cs : List Char) : identifierAt cs <+: cs := by
  unfold identifierAt
  split
  · dsimp only
    split
    · exact List.nil_prefix
    · exact (List.prefix_cons_inj _).mpr (nameAt_isPrefix _)
  · exact nameAt_isPrefix _

theorem symbolAt?_isPrefix {symbol : List Char × Kind} (found : symbolAt? cs = some symbol) :
    symbol.1 ≠ [] ∧ symbol.1 <+: cs := by
  have written : ∀ symbol ∈ symbols, symbol.1 ≠ [] := by decide
  unfold symbolAt? at found
  have front := List.find?_some found
  exact ⟨written symbol (List.mem_of_find?_eq_some found), List.isPrefixOf_iff_prefix.mp front⟩

theorem lexemeAt?_isPrefix {lexeme : List Char} {kind : Kind}
    (found : lexemeAt? cs = some (lexeme, kind)) : lexeme ≠ [] ∧ lexeme <+: cs := by
  unfold lexemeAt? at found
  split at found
  · rename_i some
    cases found
    exact ⟨by simpa using some, numberAt_isPrefix cs⟩
  · split at found
    · rename_i matched
      cases found
      exact symbolAt?_isPrefix matched
    · split at found
      · rename_i some
        cases found
        exact ⟨by simpa using some, stringAt_isPrefix cs⟩
      · split at found
        · rename_i some
          cases found
          exact ⟨by simpa using some, identifierAt_isPrefix cs⟩
        · cases found

theorem identifierAt_of_lexemeAt? {lexeme : List Char}
    (found : lexemeAt? cs = some (lexeme, .identifier)) : lexeme = identifierAt cs := by
  unfold lexemeAt? at found
  split at found
  · cases found
  · split at found
    · rename_i symbol matched
      cases found
      have noName : ∀ symbol ∈ symbols, symbol.2 ≠ .identifier := by decide
      exact absurd rfl (noName _ (List.mem_of_find?_eq_some matched))
    · split at found
      · cases found
      · split at found
        · cases found
          rfl
        · cases found

theorem isWord_of_mem_nameAt {c : Char} (member : c ∈ nameAt cs) : isWord c = true := by
  unfold nameAt at member
  split at member
  · cases member
  · split at member
    · rename_i start
      rcases List.mem_cons.mp member with rfl | later
      · exact (Bool.and_eq_true_iff.mp start).1
      · exact List.all_eq_true.mp List.all_takeWhile c later
    · cases member

theorem isWord_of_mem_identifierAt {c : Char} (member : c ∈ identifierAt cs) :
    c = '$' ∨ isWord c = true := by
  unfold identifierAt at member
  split at member
  · dsimp only at member
    split at member
    · cases member
    · exact (List.mem_cons.mp member).imp_right isWord_of_mem_nameAt
  · exact .inr (isWord_of_mem_nameAt member)

end

/-! ### Scans -/

/-- Characters from a position on are tokens with blanks between them, and something behind. -/
inductive Tiles : Nat → List Char → List Token → List Char → Prop where
  | behind {position : Nat} {blanks rest : List Char} (blank : ∀ c ∈ blanks, isBlank c = true) :
      Tiles position (blanks ++ rest) [] rest
  | token {position : Nat} {blanks cs rest : List Char} {token : Token} {tokens : List Token}
      (blank : ∀ c ∈ blanks, isBlank c = true) (there : token.position = position + blanks.length)
      (read : lexemeAt? (token.lexeme ++ cs) = some (token.lexeme, token.kind))
      (after : Tiles (token.position + token.lexeme.length) cs tokens rest) :
      Tiles position (blanks ++ (token.lexeme ++ cs)) (token :: tokens) rest

theorem tokenAt_eq_none_iff {c : Cursor} : tokenAt c = .ok none ↔ c.rest = [] := by
  unfold tokenAt
  split
  · rename_i ended
    exact iff_of_true rfl ended
  · rename_i first rest more
    rw [more]
    split
    · exact iff_of_false nofun nofun
    · split <;> exact iff_of_false nofun nofun

/-- The scan of a source from a cursor stops at the end exactly if nothing is wrong. -/
theorem tiles_scanFrom (c : Cursor) :
    Tiles c.position c.rest (scanFrom c).tokens (scanFrom c).stop.rest ∧
      (scanFrom c).stop.position + (scanFrom c).stop.rest.length = c.position + c.rest.length ∧
      ((scanFrom c).error = none ↔ (scanFrom c).stop.rest = []) := by
  have blank (cs : List Char) : ∀ c ∈ cs.takeWhile isBlank, isBlank c = true :=
    List.all_eq_true.mp List.all_takeWhile
  have parts (c : Cursor) : c.rest.takeWhile isBlank ++ c.skipBlanks.rest = c.rest := by
    rw [Cursor.rest_skipBlanks, List.takeWhile_append_dropWhile]
  have ends (c : Cursor) :
      c.skipBlanks.position + c.skipBlanks.rest.length = c.position + c.rest.length :=
    c.position_add_length_advanceBy _
  have stopped (c : Cursor) : Tiles c.position c.rest [] c.skipBlanks.rest := by
    have behind : Tiles c.position (c.rest.takeWhile isBlank ++ c.skipBlanks.rest) []
        c.skipBlanks.rest := .behind (blank c.rest)
    rwa [parts] at behind
  induction c using scanFrom.induct with
  | case1 c here e failed =>
      rw [scanFrom, failed]
      refine ⟨stopped c, ends c, iff_of_false (Option.some_ne_none e) fun ended => ?_⟩
      rw [tokenAt_eq_none_iff.mpr ended] at failed
      cases failed
  | case2 c here ended =>
      rw [scanFrom, ended]
      exact ⟨stopped c, ends c, iff_of_true rfl (tokenAt_eq_none_iff.mp ended)⟩
  | case3 c here token found more shorter ih =>
      simp only [here] at more found ih
      have read := lexemeAt?_of_tokenAt found
      obtain ⟨some, behind, rest⟩ := lexemeAt?_isPrefix read
      have fits : token.lexeme.length ≤ c.skipBlanks.rest.length := by
        rw [← rest, List.length_append]
        exact Nat.le_add_right _ _
      have next : (c.skipBlanks.advanceBy token.lexeme.length).rest = behind := by
        rw [Cursor.rest_advanceBy, ← rest, List.drop_left]
      have there : token.position = c.position + (c.rest.takeWhile isBlank).length := by
        rw [position_of_tokenAt found, Cursor.position_skipBlanks]
      -- the rest is tiled from where the cursor is behind the token
      obtain ⟨tiles, stops, errs⟩ := ih
      rw [Cursor.position_advanceBy fits, ← position_of_tokenAt found, next] at tiles
      rw [Cursor.position_add_length_advanceBy, ends] at stops
      rw [scanFrom, found]
      simp only [dif_pos more]
      refine ⟨?_, stops, errs⟩
      have whole := Tiles.token (blank c.rest) there (rest ▸ read) tiles
      rwa [rest, parts] at whole
  | case4 c here token found none =>
      simp only [here] at none found
      obtain ⟨some, behind, rest⟩ := lexemeAt?_isPrefix (lexemeAt?_of_tokenAt found)
      refine absurd ⟨some, fun ended => ?_⟩ none
      rw [ended] at rest
      exact some (List.append_eq_nil_iff.mp rest).1

theorem tiles_scan (source : String) :
    Tiles 0 source.toList (scan source).tokens (scan source).stop.rest :=
  (tiles_scanFrom (.start source.toList)).1

/-! ### What tiles a text -/

section

variable {position : Nat} {cs rest : List Char} {tokens : List Token}

theorem Tiles.suffix (tiles : Tiles position cs tokens rest) : rest <:+ cs := by
  induction tiles with
  | behind blank => exact List.suffix_append _ _
  | token blank there read after ih =>
      exact List.suffix_append_of_suffix (List.suffix_append_of_suffix ih)

theorem Tiles.lexeme (tiles : Tiles position cs tokens rest) {token : Token}
    (member : token ∈ tokens) :
    ∃ front behind, cs = front ++ (token.lexeme ++ behind) ∧
      token.position = position + front.length ∧ rest <:+ behind ∧
      lexemeAt? (token.lexeme ++ behind) = some (token.lexeme, token.kind) := by
  induction tiles with
  | behind blank => cases member
  | @token position blanks cs rest first tokens blank there read after ih =>
      rcases List.mem_cons.mp member with rfl | later
      · exact ⟨blanks, cs, rfl, there, after.suffix, read⟩
      · obtain ⟨front, behind, rfl, place, suffix, read⟩ := ih later
        refine ⟨blanks ++ (first.lexeme ++ front), behind, ?_, ?_, suffix, read⟩
        · simp only [List.append_assoc]
        · simp only [List.length_append]
          omega

theorem Tiles.pairwise (tiles : Tiles position cs tokens rest) :
    tokens.Pairwise fun a b => a.position + a.lexeme.length ≤ b.position := by
  induction tiles with
  | behind blank => exact .nil
  | token blank there read after ih =>
      refine List.pairwise_cons.mpr ⟨fun token member => ?_, ih⟩
      obtain ⟨front, behind, -, place, -⟩ := after.lexeme member
      omega

/-- What belongs to no token is blank. -/
theorem Tiles.blank (tiles : Tiles position cs tokens rest) {i : Nat}
    (within : i + rest.length < cs.length)
    (outside : ∀ token ∈ tokens, position + i < token.position ∨
      token.position + token.lexeme.length ≤ position + i) :
    ∃ c, cs[i]? = some c ∧ isBlank c = true := by
  have among {blanks cs : List Char} (blank : ∀ c ∈ blanks, isBlank c = true) {i : Nat}
      (inside : i < blanks.length) : ∃ c, (blanks ++ cs)[i]? = some c ∧ isBlank c = true := by
    rw [List.getElem?_append_left inside, List.getElem?_eq_getElem inside]
    exact ⟨_, rfl, blank _ (List.getElem_mem inside)⟩
  induction tiles generalizing i with
  | behind blank =>
      rw [List.length_append] at within
      exact among blank (by omega)
  | @token position blanks cs rest first tokens blank there read after ih =>
      obtain ⟨apart, others⟩ := List.forall_mem_cons.mp outside
      simp only [List.length_append] at within
      rcases Nat.lt_or_ge i blanks.length with inside | beyond
      · exact among blank inside
      · obtain ⟨j, rfl⟩ : ∃ j, i = blanks.length + (first.lexeme.length + j) :=
          ⟨i - blanks.length - first.lexeme.length, by omega⟩
        have shift : first.position + first.lexeme.length + j =
            position + (blanks.length + (first.lexeme.length + j)) := by omega
        have found := ih (i := j) (by omega) (by rwa [shift])
        rwa [List.getElem?_append_right (Nat.le_add_right _ _), Nat.add_sub_cancel_left,
          List.getElem?_append_right (Nat.le_add_right _ _), Nat.add_sub_cancel_left]

end

theorem blank_notMem_value {source : String} {token : Token} (member : token ∈ (scan source).tokens)
    (word : token.kind = .identifier) : ' ' ∉ token.value.toList := by
  obtain ⟨cs, read⟩ := mem_tokens_scanFrom member
  rw [word] at read
  rw [value, word, String.toList_ofList, identifierAt_of_lexemeAt? read]
  intro blank
  rcases isWord_of_mem_identifierAt blank with dollar | letter
  · cases dollar
  · revert letter
    decide +kernel

end Token

end Formula
