import Formula.Proofs.Function.Calls
import Formula.Proofs.Text.Search

/-!
`SPLIT`, `JOIN` and `REPLACE` fit together: the pieces of a text, joined with the delimiter, are the
text again, and joined with another text they are what `REPLACE` makes of it.
-/

namespace Formula

namespace Texts

/-- The pieces that `SPLIT` makes of a text. -/
def pieces (s d : Text) : List Text :=
  match d.points with
  | [] => s.points.map .singleton
  | first :: others => (Text.splitOn first others s.points).map .mk

variable {s d : Text} {first : CodePoint} {others : List CodePoint}

theorem split_texts (s d : Text) : split (.text s) (.text d) = .array ((pieces s d).map .text) := by
  show (match d.points with
    | [] => _
    | first :: others => _ : Value) = _
  rw [pieces]
  cases d.points with
  | nil => rw [List.map_map]; rfl
  | cons first others => rw [List.map_map]; rfl

theorem join_texts (ts : List Text) (d : Text) : join (.array (ts.map .text)) (.text d) =
    .ok (.text ⟨Text.joinWith d.points (ts.map Text.points)⟩) := by
  have texts : (ts.map Value.text).mapM Value.toText = .ok ts := by
    induction ts with
    | nil => rfl
    | cons t ts ih =>
        rw [List.map_cons, List.mapM_cons, ih]
        rfl
  exact bind_of_ok texts

theorem replace_texts (delimiter : d.points = first :: others) (s r : Text) :
    replace (.text s) (.text d) (.text r) =
      .ok (.text ⟨Text.replaceAll first others r.points s.points⟩) := by
  show (match d.points with
    | [] => _
    | first :: others => _ : Except Fault Value) = _
  rw [delimiter]
  rfl

theorem points_pieces (delimiter : d.points = first :: others) (s : Text) :
    (pieces s d).map Text.points = Text.splitOn first others s.points := by
  rw [pieces, delimiter]
  exact (List.map_map ..).trans (List.map_id _)

theorem joinWith_pieces (s d : Text) :
    Text.joinWith d.points ((pieces s d).map Text.points) = s.points := by
  cases delimiter : d.points with
  | nil =>
      rw [pieces, delimiter, Text.joinWith_nil, List.map_map]
      exact List.flatMap_singleton' s.points
  | cons first others =>
      rw [points_pieces delimiter, Text.joinWith_splitOn, Text.replaceAll_self]

/-! ### Calls -/

section

variable (c : Context) (position : Nat)

theorem call_split (s d : Text) :
    Registry.builtin.call c "SPLIT" position (.ok [.text s, .text d]) =
      .ok (.array ((pieces s d).map .text)) := by
  have member : splitFunction ∈ builtinFunctions := by simp [builtinFunctions, functions]
  refine Registry.call_builtin (d := splitFunction) member
    (Definition.checkArguments_of_type Parameter.types_string rfl (by decide) ?_)
    (congrArg Except.ok (split_texts s d)) rfl
  simp [Value.ofType_text]

theorem call_join (ts : List Text) (d : Text) :
    Registry.builtin.call c "JOIN" position (.ok [.array (ts.map .text), .text d]) =
      .ok (.text ⟨Text.joinWith d.points (ts.map Text.points)⟩) := by
  have member : joinFunction ∈ builtinFunctions := by simp [builtinFunctions, functions]
  exact Registry.call_builtin (d := joinFunction) member
    (Definition.checkArguments_pair rfl rfl (Parameter.mem_types Parameter.types_array rfl)
      (Parameter.mem_types Parameter.types_string rfl) (Value.ofType_array _)
      (Value.ofType_text _))
    (mapError_eq_ok.mpr (join_texts ts d)) rfl

theorem call_replace {d : Text} (delimiter : d.points = first :: others) (s r : Text) :
    Registry.builtin.call c "REPLACE" position (.ok [.text s, .text d, .text r]) =
      .ok (.text ⟨Text.replaceAll first others r.points s.points⟩) := by
  have member : replaceFunction ∈ builtinFunctions := by simp [builtinFunctions, functions]
  refine Registry.call_builtin (d := replaceFunction) member
    (Definition.checkArguments_of_type Parameter.types_string rfl (by decide) ?_)
    (mapError_eq_ok.mpr (replace_texts delimiter s r)) rfl
  simp [Value.ofType_text]

end

/-- For all texts, empty ones among them, `SPLIT` returns pieces that `JOIN` with the delimiter puts
together again. Unless the delimiter is empty, no piece has it in it, and joining the pieces with
another text is replacing the delimiter by that text. -/
theorem split_join_replace (c : Context) (position : Nat) (s d : Text) :
    ∃ pieces : List Text,
      Registry.builtin.call c "SPLIT" position (.ok [.text s, .text d]) =
        .ok (.array (pieces.map .text)) ∧
      Registry.builtin.call c "JOIN" position (.ok [.array (pieces.map .text), .text d]) =
        .ok (.text s) ∧
      (d.points ≠ [] →
        (∀ piece ∈ pieces, ¬ d.points <:+: piece.points) ∧
        ∀ r : Text, ∃ t : Text,
          Registry.builtin.call c "REPLACE" position (.ok [.text s, .text d, .text r]) =
            .ok (.text t) ∧
          Registry.builtin.call c "JOIN" position (.ok [.array (pieces.map .text), .text r]) =
            .ok (.text t)) := by
  refine ⟨pieces s d, call_split c position s d, ?_, fun some => ?_⟩
  · rw [call_join, joinWith_pieces]
  obtain ⟨first, others, delimiter⟩ := List.exists_cons_of_ne_nil some
  have split := points_pieces delimiter s
  refine ⟨fun piece member => ?_, fun r => ?_⟩
  · have within : piece.points ∈ Text.splitOn first others s.points :=
      split ▸ List.mem_map_of_mem member
    rw [delimiter]
    exact Text.not_isInfix_of_mem_splitOn within
  · refine ⟨⟨Text.replaceAll first others r.points s.points⟩,
      call_replace c position delimiter s r, ?_⟩
    rw [call_join, split, Text.joinWith_splitOn]

theorem split_join_replace_overlapping :
    let context : Context := {
      clock := .ofMoment .universal (.atMidnight ⟨2024, 1, 15, by decide⟩ none) }
    ∃ pieces : List Text,
      Registry.builtin.call context "SPLIT" 0 (.ok [.text "aaa", .text "aa"]) =
        .ok (.array (pieces.map .text)) ∧
      (∀ piece ∈ pieces, ¬ (Text.points "aa") <:+: piece.points) ∧
      ∃ t : Text,
        Registry.builtin.call context "REPLACE" 0 (.ok [.text "aaa", .text "aa", .text "b"]) =
          .ok (.text t) ∧
        Registry.builtin.call context "JOIN" 0 (.ok [.array (pieces.map .text), .text "b"]) =
          .ok (.text t) := by
  intro context
  obtain ⟨pieces, split, -, rest⟩ := split_join_replace context 0 "aaa" "aa"
  obtain ⟨free, replaced⟩ := rest (by decide)
  exact ⟨pieces, split, free, replaced "b"⟩

end Texts

end Formula
