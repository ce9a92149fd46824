import Formula.Highlight
import Formula.Proofs.Token.Tiling

/-!
Highlighting tiles a source: its spans are stretches of the source one after another, and what they
leave out is blank. A span of an error is the last one, and is there exactly if the source has no
tokens.
-/

namespace Formula

open Formula.Text

namespace Highlight

/-- A span is a stretch of a source. -/
structure Span.In (source : List Char) (span : Span) : Prop where
  some : span.start < span.stop
  within : span.stop ≤ source.length
  text : span.text = String.ofList ((source.drop span.start).take (span.stop - span.start))

def Span.extent (span : Span) : Nat × Nat × String := (span.start, span.stop, span.text)

end Highlight

def Token.extent (token : Token) : Nat × Nat × String :=
  (token.position, token.position + token.lexeme.length, String.ofList token.lexeme)

namespace Highlight

theorem map_extent_spansOf (tokens : List Token) :
    (spansOf tokens).map Span.extent = tokens.map Token.extent := by
  induction tokens with
  | nil => rfl
  | cons token rest ih => rw [spansOf, List.map_cons, List.map_cons, ih, spanOf, Span.extent, Token.extent]

theorem mem_spansOf {tokens : List Token} {span : Span} (member : span ∈ spansOf tokens) :
    ∃ token ∈ tokens, ∃ following, span = spanOf token following := by
  induction tokens with
  | nil => cases member
  | cons token rest ih =>
      rcases List.mem_cons.mp member with rfl | later
      · exact ⟨token, List.mem_cons_self, _, rfl⟩
      · obtain ⟨other, among, found⟩ := ih later
        exact ⟨other, List.mem_cons_of_mem token among, found⟩

theorem mem_spansOf_of_mem {tokens : List Token} {token : Token} (member : token ∈ tokens) :
    ∃ following, spanOf token following ∈ spansOf tokens := by
  induction tokens with
  | nil => cases member
  | cons first rest ih =>
      rcases List.mem_cons.mp member with rfl | later
      · exact ⟨_, List.mem_cons_self⟩
      · obtain ⟨following, among⟩ := ih later
        exact ⟨following, List.mem_cons_of_mem _ among⟩

theorem category_ne_error {tokens : List Token} {span : Span} (member : span ∈ spansOf tokens) :
    span.category ≠ .error := by
  obtain ⟨token, -, following, rfl⟩ := mem_spansOf member
  unfold spanOf categoryOf
  dsimp only
  split
  · split
    · exact nofun
    · split <;> exact nofun
  · exact nofun
  · exact nofun
  · split <;> exact nofun

section

variable {source rest : List Char} {tokens : List Token}

theorem in_of_mem_spansOf (tiles : Token.Tiles 0 source tokens rest) {span : Span}
    (member : span ∈ spansOf tokens) :
    span.In source ∧ span.stop + rest.length ≤ source.length := by
  obtain ⟨token, among, following, rfl⟩ := mem_spansOf member
  obtain ⟨front, behind, rfl, place, suffix, read⟩ := tiles.lexeme among
  have some := List.length_pos_iff.mpr (Token.lexemeAt?_isPrefix read).1
  have short := suffix.length_le
  have place : token.position = front.length := place.trans (Nat.zero_add _)
  simp only [spanOf, List.length_append]
  refine ⟨⟨Nat.lt_add_of_pos_right some, ?_, ?_⟩, by omega⟩
  · simp only [List.length_append]
    omega
  · dsimp only
    rw [place, List.drop_left, Nat.add_sub_cancel_left, List.take_left]

theorem pairwise_spansOf (tiles : Token.Tiles 0 source tokens rest) :
    (spansOf tokens).Pairwise fun a b => a.stop ≤ b.start := by
  have ordered : (tokens.map Token.extent).Pairwise fun a b => a.2.1 ≤ b.1 :=
    List.pairwise_map.mpr tiles.pairwise
  rw [← map_extent_spansOf] at ordered
  exact List.pairwise_map.mp ordered

end

end Highlight

open Highlight

theorem highlight_of_ok {source : String} {tokens : List Token} {stop : Nat}
    (lexes : Token.tokens source = .ok (tokens, stop)) : highlight source = spansOf tokens := by
  obtain ⟨none, rfl, -⟩ := Token.tokens_eq_ok_iff.mp lexes
  unfold highlight
  dsimp only
  rw [none]

theorem highlight_of_error {source : String} {e : Token.ScanError}
    (failed : Token.tokens source = .error e) :
    highlight source =
      spansOf (Token.scan source).tokens ++ [errorSpan (Token.scan source).stop] := by
  unfold highlight
  dsimp only
  rw [Token.tokens_eq_error_iff.mp failed]

/-- The error of a source that has no tokens reaches its end. -/
theorem errorSpan_in {source : String} {e : Token.ScanError}
    (failed : Token.tokens source = .error e) :
    (errorSpan (Token.scan source).stop).In source.toList ∧
      (errorSpan (Token.scan source).stop).stop = source.toList.length := by
  have failed : (Token.scan source).error = some e := Token.tokens_eq_error_iff.mp failed
  obtain ⟨tiles, ends, errs⟩ := Token.tiles_scanFrom (.start source.toList)
  change (Token.scan source).stop.position + (Token.scan source).stop.rest.length =
    0 + source.toList.length at ends
  have more : (Token.scan source).stop.rest ≠ [] := fun ended => by
    have none : (Token.scan source).error = none := errs.mpr ended
    rw [failed] at none
    cases none
  have rest : (Token.scan source).stop.rest =
      source.toList.drop (Token.scan source).stop.position := by
    rw [List.suffix_iff_eq_drop.mp (Token.tiles_scan source).suffix]
    congr 1
    omega
  refine ⟨⟨Nat.lt_add_of_pos_right (List.length_pos_iff.mpr more), ?_, ?_⟩, ?_⟩
  · exact Nat.le_of_eq (ends.trans (Nat.zero_add _))
  · dsimp only [errorSpan]
    rw [← rest, Nat.add_sub_cancel_left, List.take_length]
  · exact ends.trans (Nat.zero_add _)

/-- Behind the spans of tokens an error can only be the last one. -/
theorem eq_last_of_error {tokens : List Token} {last span : Span} {before after : List Span}
    (split : spansOf tokens ++ [last] = before ++ span :: after) (error : span.category = .error) :
    after = [] ∧ span = last := by
  rcases List.eq_nil_or_concat after with rfl | ⟨inner, final, rfl⟩
  · obtain ⟨-, same⟩ := List.append_inj' split rfl
    cases same
    exact ⟨rfl, rfl⟩
  · rw [List.concat_eq_append, ← List.cons_append, ← List.append_assoc] at split
    obtain ⟨same, -⟩ := List.append_inj' split rfl
    have member : span ∈ spansOf tokens := by
      rw [same]
      exact List.mem_append_right before List.mem_cons_self
    exact absurd error (category_ne_error member)

theorem highlight_eq (source : String) :
    (∃ tokens stop, Token.tokens source = .ok (tokens, stop)) ∧
        highlight source = spansOf (Token.scan source).tokens ∧ (Token.scan source).stop.rest = [] ∨
      (∃ e, Token.tokens source = .error e) ∧
        highlight source =
          spansOf (Token.scan source).tokens ++ [errorSpan (Token.scan source).stop] := by
  cases lexes : Token.tokens source with
  | ok lexed =>
      obtain ⟨none, same, -⟩ := Token.tokens_eq_ok_iff.mp lexes
      refine .inl ⟨⟨_, _, rfl⟩, ?_, (Token.tiles_scanFrom (.start source.toList)).2.2.mp none⟩
      rw [highlight_of_ok lexes, same]
  | error e => exact .inr ⟨⟨e, rfl⟩, highlight_of_error lexes⟩

/-- The spans of a source are stretches of it one after another, and what is outside them is blank. A
span of an error comes last and reaches the end, and it is there exactly if the source has no tokens.
The other spans are those of the tokens that are read before. -/
theorem highlight_tiles (source : String) :
    (∀ span ∈ highlight source, span.In source.toList) ∧
      (highlight source).Pairwise (fun a b => a.stop ≤ b.start) ∧
      (∀ i c, source.toList[i]? = some c →
        (∀ span ∈ highlight source, ¬ (span.start ≤ i ∧ i < span.stop)) → isBlank c = true) ∧
      (∀ before span after, highlight source = before ++ span :: after →
        span.category = .error → after = [] ∧ span.stop = source.toList.length) ∧
      ((∃ span ∈ highlight source, span.category = .error) ↔
        ∃ e, Token.tokens source = .error e) ∧
      ((highlight source).filter (·.category ≠ .error)).map Span.extent =
        (Token.scan source).tokens.map Token.extent := by
  have tiles := Token.tiles_scan source
  have unmarked : (spansOf (Token.scan source).tokens).filter (·.category ≠ .error) =
      spansOf (Token.scan source).tokens :=
    List.filter_eq_self.mpr fun span member => by simpa using category_ne_error member
  have outside {i : Nat} {c : Char} (here : source.toList[i]? = some c)
      (before : i + (Token.scan source).stop.rest.length < source.toList.length)
      (apart : ∀ span ∈ spansOf (Token.scan source).tokens, ¬ (span.start ≤ i ∧ i < span.stop)) :
      isBlank c = true := by
    obtain ⟨c', there, blank⟩ := tiles.blank before fun token member => by
      obtain ⟨following, among⟩ := mem_spansOf_of_mem member
      have apart := apart _ among
      simp only [spanOf] at apart
      omega
    rw [here] at there
    cases there
    exact blank
  rcases highlight_eq source with ⟨⟨tokens, stop, lexes⟩, spans, ended⟩ | ⟨⟨e, failed⟩, spans⟩
  · rw [spans]
    refine ⟨fun span member => (in_of_mem_spansOf tiles member).1, pairwise_spansOf tiles, ?_, ?_, ?_,
      ?_⟩
    · intro i c here apart
      obtain ⟨inside, -⟩ := List.getElem?_eq_some_iff.mp here
      exact outside here (by rwa [ended]) apart
    · intro before span after split error
      have member : span ∈ spansOf (Token.scan source).tokens := by
        rw [split]
        exact List.mem_append_right before List.mem_cons_self
      exact absurd error (category_ne_error member)
    · rw [lexes]
      exact iff_of_false (fun ⟨_, member, error⟩ => category_ne_error member error) nofun
    · rw [unmarked, map_extent_spansOf]
  · obtain ⟨last, ends⟩ := errorSpan_in failed
    rw [spans]
    refine ⟨?_, ?_, ?_, ?_, ?_, ?_⟩
    · intro span member
      rcases List.mem_append.mp member with before | final
      · exact (in_of_mem_spansOf tiles before).1
      · rwa [List.mem_singleton.mp final]
    · refine List.pairwise_append.mpr
        ⟨pairwise_spansOf tiles, List.pairwise_singleton _ _, fun span before final same => ?_⟩
      have short := (in_of_mem_spansOf tiles before).2
      rw [List.mem_singleton.mp same]
      dsimp only [errorSpan] at ends ⊢
      omega
    · intro i c here apart
      obtain ⟨inside, -⟩ := List.getElem?_eq_some_iff.mp here
      obtain ⟨apart, beyond⟩ := List.forall_mem_append.mp apart
      have beyond := beyond _ List.mem_cons_self
      dsimp only [errorSpan] at ends beyond
      exact outside here (by omega) apart
    · intro before span after split error
      obtain ⟨none, rfl⟩ := eq_last_of_error split error
      exact ⟨none, ends⟩
    · exact iff_of_true ⟨_, List.mem_append_right _ List.mem_cons_self, rfl⟩ ⟨e, failed⟩
    · rw [List.filter_append, unmarked, List.map_append, map_extent_spansOf]
      exact List.append_nil _

end Formula
