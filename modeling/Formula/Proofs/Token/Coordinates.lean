import Formula.Proofs.Token.Scanning

/-!
Lines and columns. Tokens, the end of a source and its first error have the coordinates of their
positions, and after an error nothing else is read.
-/

namespace Formula

open Formula.Text

/-- Lines are counted from 1, and each newline before a position ends one. -/
def lineAt (source : List Char) (position : Nat) : Nat := 1 + (source.take position).count '\n'

/-- Columns are counted from 1, behind the last newline before a position. -/
def columnAt (source : List Char) (position : Nat) : Nat :=
  1 + ((source.take position).reverse.takeWhile (· ≠ '\n')).length

/-- A line and a column are those of a position in a source. -/
structure Located (source : List Char) (position line column : Nat) : Prop where
  within : position ≤ source.length
  line : line = lineAt source position
  column : column = columnAt source position

section

variable {source : List Char} {position line column n : Nat}

theorem located_start : Located source 0 1 1 := ⟨Nat.zero_le _, rfl, rfl⟩

theorem Located.forward (located : Located source position line column)
    (fits : position + n ≤ source.length) (inline : '\n' ∉ (source.drop position).take n) :
    Located source (position + n) line (column + n) := by
  have split : source.take (position + n) = source.take position ++ (source.drop position).take n :=
    List.take_add
  have length : ((source.drop position).take n).length = n := by
    rw [List.length_take, List.length_drop]
    omega
  refine ⟨fits, ?_, ?_⟩
  · rw [lineAt, split, List.count_append, List.count_eq_zero.mpr inline, Nat.add_zero]
    exact located.line
  · have plain : ∀ c ∈ ((source.drop position).take n).reverse, decide (c ≠ '\n') = true := by
      intro c member
      rw [decide_eq_true_eq]
      rintro rfl
      exact inline (List.mem_reverse.mp member)
    have column : column = columnAt source position := located.column
    rw [columnAt, split, List.reverse_append, List.takeWhile_append_of_pos plain,
      List.length_append, List.length_reverse, length, column, columnAt]
    omega

theorem Located.newline (located : Located source position line column)
    (here : source[position]? = some '\n') : Located source (position + 1) (line + 1) 1 := by
  have split : source.take (position + 1) = source.take position ++ ['\n'] := by
    rw [List.take_add_one, here]
    rfl
  refine ⟨(List.getElem?_eq_some_iff.mp here).1, ?_, ?_⟩
  · rw [lineAt, split, List.count_append, located.line, lineAt]
    rfl
  · rw [columnAt, split, List.reverse_append]
    rfl

end

/-! ### Cursors -/

namespace Cursor

/-- A cursor stands in a source, before what it has as the rest. -/
structure In (source : List Char) (c : Cursor) : Prop where
  rest : c.rest = source.drop c.position
  located : Located source c.position c.line c.column

variable {source : List Char} {c : Cursor}

theorem in_start (source : List Char) : (start source).In source := ⟨rfl, located_start⟩

theorem In.within (inside : c.In source) : c.position + c.rest.length = source.length := by
  have within := inside.located.within
  rw [inside.rest, List.length_drop]
  omega

theorem In.advance (inside : c.In source) : c.advance.In source := by
  obtain ⟨position, line, column, rest⟩ := c
  cases rest with
  | nil => exact inside
  | cons first rest =>
      have ahead : source.drop position = first :: rest := inside.rest.symm
      have behind : rest = source.drop (position + 1) := by
        rw [← List.drop_drop, ahead]
        rfl
      by_cases newline : first = '\n'
      · subst newline
        have here : source[position]? = some '\n' := by
          rw [← List.head?_drop, ahead]
          rfl
        exact ⟨behind, inside.located.newline here⟩
      · have moved : Cursor.advance ⟨position, line, column, first :: rest⟩ =
            ⟨position + 1, line, column + 1, rest⟩ := by
          unfold Cursor.advance
          split
          · rename_i none
            cases none
          · rename_i same
            exact absurd (List.cons.inj same).1 newline
          · rename_i same
            rw [(List.cons.inj same).2]
        rw [moved]
        have fits := inside.within
        simp only [List.length_cons] at fits
        refine ⟨behind, inside.located.forward (by dsimp only; omega) ?_⟩
        dsimp only
        rw [ahead]
        simpa using Ne.symm newline

theorem In.advanceBy (inside : c.In source) (n : Nat) : (c.advanceBy n).In source := by
  induction n generalizing c with
  | zero => exact inside
  | succ n ih => exact ih inside.advance

theorem In.skipBlanks (inside : c.In source) : c.skipBlanks.In source := inside.advanceBy _

theorem skipBlanks_skipBlanks (c : Cursor) : c.skipBlanks.skipBlanks = c.skipBlanks := by
  have none : c.skipBlanks.rest.takeWhile isBlank = [] := by
    rw [rest_skipBlanks]
    cases dropped : c.rest.dropWhile isBlank with
    | nil => rfl
    | cons first rest =>
        have solid := List.head?_dropWhile_not isBlank c.rest
        rw [dropped] at solid
        exact List.takeWhile_cons_of_neg (by simpa using solid)
  rw [skipBlanks, none]
  rfl

end Cursor

/-! ### Tokens and errors -/

namespace Token

theorem newline_notMem_mantissaAt (cs : List Char) : '\n' ∉ mantissaAt cs := by
  obtain ⟨whole, fraction, mantissa, digits, isFraction⟩ := mantissaAt_eq cs
  rw [mantissa]
  intro member
  have numeral : IsNumeralChar '\n' := by
    rcases List.mem_append.mp member with inWhole | inFraction
    · exact .inl (digits _ inWhole)
    · exact isFraction.chars _ inFraction
  rcases numeral with digit | mark
  · exact absurd digit (by decide)
  · simp at mark

theorem openExponentAt?_inline {cs : List Char} {offset : Nat}
    (found : openExponentAt? cs = some offset) :
    offset ≤ cs.length ∧ '\n' ∉ cs.take offset := by
  unfold openExponentAt? at found
  dsimp only at found
  split at found
  · rename_i opens
    cases found
    simp only [Bool.and_eq_true] at opens
    obtain ⟨⟨-, marked⟩, -⟩ := opens
    obtain ⟨rest, split⟩ := mantissaAt_isPrefix cs
    have behind : (mantissaAt cs ++ rest).drop (mantissaAt cs).length = rest := List.drop_left
    rw [split] at behind
    rw [behind] at marked
    -- what stands before the error is a mantissa and the exponent mark
    cases rest with
    | nil => cases marked
    | cons mark rest =>
        have front : (mantissaAt cs ++ mark :: rest).take ((mantissaAt cs).length + 1) =
            mantissaAt cs ++ [mark] := List.take_length_add_append 1
        have length := congrArg List.length split
        rw [List.length_append, List.length_cons] at length
        rw [split] at front
        refine ⟨by omega, ?_⟩
        rw [front, List.mem_append, List.mem_singleton]
        rintro (inside | rfl)
        · exact newline_notMem_mantissaAt cs inside
        · have newline : isExponentMark '\n' = true := marked
          exact absurd newline (by decide)
  · cases found

theorem misreading?_inline {cs : List Char} {cause : ScanCause} {offset : Nat}
    (found : misreading? cs = some (cause, offset)) :
    offset ≤ cs.length ∧ '\n' ∉ cs.take offset := by
  unfold misreading? at found
  split at found
  · cases found
    exact ⟨Nat.zero_le _, List.not_mem_nil⟩
  · obtain ⟨offset, opens, same⟩ := Option.map_eq_some_iff.mp found
    cases same
    exact openExponentAt?_inline opens

variable {source : List Char} {c : Cursor}

theorem located_after (inside : c.In source) (cause : ScanCause) {offset : Nat}
    (fits : offset ≤ c.rest.length) (inline : '\n' ∉ c.rest.take offset) :
    Located source (ScanError.after cause c offset).position (ScanError.after cause c offset).line
      (ScanError.after cause c offset).column := by
  have within := inside.within
  refine inside.located.forward (by omega) ?_
  rwa [← inside.rest]

theorem located_of_tokenAt_error (inside : c.In source) {e : ScanError}
    (failed : tokenAt c = .error e) : Located source e.position e.line e.column := by
  unfold tokenAt at failed
  split at failed
  · cases failed
  · split at failed
    · rename_i misread
      cases failed
      obtain ⟨fits, inline⟩ := misreading?_inline misread
      exact located_after inside _ fits inline
    · split at failed
      · cases failed
      · cases failed
        exact located_after inside _ (Nat.zero_le _) List.not_mem_nil

theorem located_of_tokenAt (inside : c.In source) {token : Token}
    (found : tokenAt c = .ok (some token)) :
    Located source token.position token.line token.column ∧ token.position < source.length := by
  have more := List.length_pos_iff.mpr (rest_ne_nil_of_tokenAt found)
  have within := inside.within
  unfold tokenAt at found
  split at found
  · cases found
  · split at found
    · cases found
    · split at found
      · cases found
        exact ⟨inside.located, by dsimp only; omega⟩
      · cases found

/-- What one step of a scan comes to: a cursor in the source, and a token or an error with the
coordinates of its position. At the end and at an error the same step is taken again. -/
structure StepIn (source : List Char) (found : Except ScanError (Option Token)) (here : Cursor) :
    Prop where
  inside : here.In source
  token : ∀ t, found = .ok (some t) →
    Located source t.position t.line t.column ∧ t.position < source.length
  error : ∀ e, found = .error e → Located source e.position e.line e.column
  again : (∀ t, found ≠ .ok (some t)) → next here = (found, here)
  ends : found = .ok none → here.position = source.length

theorem next_in (inside : c.In source) : StepIn source (next c).1 (next c).2 := by
  have here := inside.skipBlanks
  cases found : tokenAt c.skipBlanks with
  | error e =>
      rw [next_of_error found]
      refine ⟨here, nofun, ?_, fun _ => ?_, nofun⟩
      · rintro _ ⟨⟩
        exact located_of_tokenAt_error here found
      · rw [← c.skipBlanks_skipBlanks] at found
        rw [next_of_error found, c.skipBlanks_skipBlanks]
  | ok found? =>
      cases found? with
      | none =>
          rw [next_of_none found]
          refine ⟨here, nofun, nofun, fun _ => ?_, fun _ => ?_⟩
          · rw [← c.skipBlanks_skipBlanks] at found
            rw [next_of_none found, c.skipBlanks_skipBlanks]
          · have within := here.within
            rwa [tokenAt_eq_none_iff.mp found] at within
      | some token =>
          rw [next_of_token found]
          refine ⟨here.advanceBy _, ?_, nofun, fun other => absurd rfl (other token), nofun⟩
          rintro _ ⟨⟩
          exact located_of_tokenAt here found

structure Scanned.In (source : List Char) (scanned : Scanned) : Prop where
  tokens : ∀ token ∈ scanned.tokens,
    Located source token.position token.line token.column ∧ token.position < source.length
  stop : Located source scanned.stop.position scanned.stop.line scanned.stop.column
  ends : scanned.error = none → scanned.stop.position = source.length
  error : ∀ e, scanned.error = some e →
    Located source e.position e.line e.column ∧ next scanned.stop = (.error e, scanned.stop)

theorem scanFrom_in (inside : c.In source) : (scanFrom c).In source := by
  induction c using scanInduction with
  | failed c e here step =>
      have came := next_in inside
      rw [step] at came
      refine ⟨nofun, came.inside.located, nofun, ?_⟩
      rintro _ ⟨⟩
      exact ⟨came.error e rfl, came.again nofun⟩
  | ended c here step =>
      have came := next_in inside
      rw [step] at came
      exact ⟨nofun, came.inside.located, fun _ => came.ends rfl, nofun⟩
  | token c token behind step ih =>
      have came := next_in inside
      rw [step] at came
      obtain ⟨tokens, stop, ends, error⟩ := ih came.inside
      exact ⟨List.forall_mem_cons.mpr ⟨came.token token rfl, tokens⟩, stop, ends, error⟩

theorem tokens_of_none {source : String} (none : (scan source).error = none) :
    Token.tokens source = .ok ((scan source).tokens, source.length) :=
  tokens_eq_ok_iff.mpr ⟨none, rfl, (scanFrom_in (Cursor.in_start source.toList)).ends none⟩

/-- Every token of a source, its end and its first error have the line and the column of their
position. The tokens stand one behind the other and before the end, which is that of the source
unless there is an error; and whoever goes on after an error comes to the same error. -/
theorem scan_located (source : String) :
    (∀ token ∈ (scan source).tokens,
        Located source.toList token.position token.line token.column ∧
          token.position < source.length) ∧
      ((scan source).tokens.Pairwise fun a b => a.position < b.position) ∧
      Located source.toList (scan source).stop.position (scan source).stop.line
        (scan source).stop.column ∧
      ((scan source).error = none → (scan source).stop.position = source.length ∧
        Token.tokens source = .ok ((scan source).tokens, source.length)) ∧
      ∀ e, Token.tokens source = .error e →
        Located source.toList e.position e.line e.column ∧
          next (scan source).stop = (.error e, (scan source).stop) := by
  obtain ⟨tokens, stop, ends, error⟩ := scanFrom_in (Cursor.in_start source.toList)
  exact ⟨tokens, pairwise_scan source, stop, fun none => ⟨ends none, tokens_of_none none⟩,
    fun e failed => error e (tokens_eq_error_iff.mp failed)⟩

end Token

end Formula
