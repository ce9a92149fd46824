import Formula.Text.Search
import Mathlib.Data.List.Infix
import Mathlib.Order.Bounds.Defs

/-!
Splitting and replacing choose the same occurrences: replacing is joining the pieces with the
replacement. Joined with the delimiter itself the pieces are the text again, and none of them has
the delimiter in it. A search finds the first occurrence there is.
-/

namespace Formula.Text

variable {α : Type} {first : α} {others separator text piece : List α} {pieces : List (List α)}

/-! ### Joining -/

theorem joinWith_prepend (x : α) :
    joinWith separator (prepend x pieces) = x :: joinWith separator pieces := by
  cases pieces with
  | nil => rfl
  | cons piece rest => cases rest <;> rfl

theorem joinWith_cons (some : pieces ≠ []) :
    joinWith separator (piece :: pieces) = piece ++ separator ++ joinWith separator pieces := by
  cases pieces with
  | nil => exact absurd rfl some
  | cons next rest => rfl

theorem joinWith_nil (pieces : List (List α)) : joinWith [] pieces = pieces.flatten := by
  induction pieces with
  | nil => rfl
  | cons piece rest ih =>
      cases rest with
      | nil => exact (List.append_nil piece).symm
      | cons next rest =>
          rw [joinWith_cons (List.cons_ne_nil next rest), List.append_nil, ih]
          exact List.flatten_cons.symm

/-! ### Pieces -/

variable [BEq α]

/-- There is a first piece, which the text begins with. -/
theorem exists_splitOn (first : α) (others text : List α) :
    ∃ piece pieces, splitOn first others text = piece :: pieces ∧ piece <+: text := by
  fun_induction splitOn first others text with
  | case1 => exact ⟨[], [], rfl, List.nil_prefix⟩
  | case2 x rest occurs ih => exact ⟨[], _, rfl, List.nil_prefix⟩
  | case3 x rest other ih =>
      obtain ⟨piece, pieces, split, begins⟩ := ih
      refine ⟨x :: piece, pieces, ?_, (List.prefix_cons_inj x).mpr begins⟩
      rw [split, prepend]

theorem splitOn_ne_nil (first : α) (others text : List α) : splitOn first others text ≠ [] := by
  obtain ⟨piece, pieces, split, -⟩ := exists_splitOn first others text
  rw [split]
  exact List.cons_ne_nil piece pieces

/-- Both scans take the same occurrences. -/
theorem joinWith_splitOn (first : α) (others replacement text : List α) :
    joinWith replacement (splitOn first others text) =
      replaceAll first others replacement text := by
  fun_induction splitOn first others text with
  | case1 => rw [replaceAll]; rfl
  | case2 x rest occurs ih =>
      rw [joinWith_cons (splitOn_ne_nil first others _), List.nil_append, ih, replaceAll,
        if_pos occurs]
  | case3 x rest other ih => rw [joinWith_prepend, ih, replaceAll, if_neg other]

variable [LawfulBEq α]

theorem replaceAll_self (first : α) (others text : List α) :
    replaceAll first others (first :: others) text = text := by
  fun_induction splitOn first others text with
  | case1 => rw [replaceAll]
  | case2 x rest occurs ih =>
      obtain ⟨after, same⟩ := List.isPrefixOf_iff_prefix.mp occurs
      have dropped : rest.drop others.length = after := by
        rw [← (List.cons.inj same).2]
        exact List.drop_left
      rw [replaceAll, if_pos occurs, ih, dropped, same]
  | case3 x rest other ih => rw [replaceAll, if_neg other, ih]

/-- An occurrence in a piece would start at an element where the scan has found none. -/
theorem not_isInfix_of_mem_splitOn (within : piece ∈ splitOn first others text) :
    ¬ first :: others <:+: piece := by
  fun_induction splitOn first others text generalizing piece with
  | case1 =>
      rw [List.mem_singleton.mp within, List.infix_nil]
      exact List.cons_ne_nil first others
  | case2 x rest occurs ih =>
      rcases List.mem_cons.mp within with rfl | later
      · rw [List.infix_nil]
        exact List.cons_ne_nil first others
      · exact ih later
  | case3 x rest other ih =>
      obtain ⟨head, pieces, split, begins⟩ := exists_splitOn first others rest
      rw [split] at within ih
      rcases List.mem_cons.mp within with rfl | later
      · rw [List.infix_cons_iff]
        rintro (starts | inside)
        · have occurs := starts.trans ((List.prefix_cons_inj x).mpr begins)
          exact other (List.isPrefixOf_iff_prefix.mpr occurs)
        · exact ih List.mem_cons_self inside
      · exact ih (List.mem_cons_of_mem head later)

/-! ### Finding -/

/-- A text occurs in another behind so many elements. -/
def OccursAt {α : Type} (needle text : List α) (before : Nat) : Prop :=
  before ≤ text.length ∧ needle <+: text.drop before

section

variable {α : Type} {needle text rest : List α} {before start : Nat}

theorem occursAt_nil : OccursAt needle [] before ↔ needle = [] ∧ before = 0 := by
  simp [OccursAt, and_comm]

theorem occursAt_cons_zero {x : α} :
    OccursAt needle (x :: rest) 0 ↔ needle <+: x :: rest := by
  simp [OccursAt]

theorem occursAt_cons_succ {x : α} :
    OccursAt needle (x :: rest) (before + 1) ↔ OccursAt needle rest before := by
  simp [OccursAt]

theorem occursAt_drop (inside : start ≤ text.length) :
    OccursAt needle (text.drop start) before ↔ OccursAt needle text (start + before) := by
  rw [OccursAt, OccursAt, List.drop_drop, List.length_drop]
  exact and_congr_left fun _ => by omega

variable [BEq α] [LawfulBEq α]

/-- A search finds the first occurrence, and nothing only if there is none. -/
theorem find?_cases (needle text : List α) :
    (∃ before, find? needle text = some before ∧ IsLeast {p | OccursAt needle text p} before) ∨
      find? needle text = none ∧ ∀ p, ¬ OccursAt needle text p := by
  induction text with
  | nil =>
      rw [find?]
      split
      · rename_i empty
        have occurs := occursAt_nil.mpr ⟨List.isEmpty_iff.mp empty, rfl⟩
        exact .inl ⟨0, rfl, occurs, fun p _ => p.zero_le⟩
      · rename_i nonempty
        exact .inr ⟨rfl, fun p occurs => nonempty (List.isEmpty_iff.mpr (occursAt_nil.mp occurs).1)⟩
  | cons x rest ih =>
      rw [find?]
      split
      · rename_i begins
        have here := occursAt_cons_zero.mpr (List.isPrefixOf_iff_prefix.mp begins)
        exact .inl ⟨0, rfl, here, fun p _ => p.zero_le⟩
      · rename_i other
        have notHere : ¬ OccursAt needle (x :: rest) 0 := fun occurs =>
          other (List.isPrefixOf_iff_prefix.mpr (occursAt_cons_zero.mp occurs))
        rcases ih with ⟨before, found, occurs, least⟩ | ⟨missed, nowhere⟩
        · refine .inl ⟨before + 1, by rw [found]; rfl, occursAt_cons_succ.mpr occurs, ?_⟩
          intro p occurs'
          cases p with
          | zero => exact absurd occurs' notHere
          | succ p => exact Nat.succ_le_succ (least (occursAt_cons_succ.mp occurs'))
        · refine .inr ⟨by rw [missed]; rfl, fun p occurs => ?_⟩
          cases p with
          | zero => exact notHere occurs
          | succ p => exact nowhere p (occursAt_cons_succ.mp occurs)

/-- A search from a place on finds the first occurrence from there on. -/
theorem findFrom?_cases (needle text : List α) (start : Nat) :
    (∃ before, findFrom? needle text start = some before ∧
        IsLeast {p | start ≤ p ∧ OccursAt needle text p} before) ∨
      findFrom? needle text start = none ∧ ∀ p, start ≤ p → ¬ OccursAt needle text p := by
  rw [findFrom?]
  split
  · rename_i inside
    have later {p : Nat} (le : start ≤ p) :
        OccursAt needle (text.drop start) (p - start) ↔ OccursAt needle text p := by
      rw [occursAt_drop inside, Nat.add_sub_cancel' le]
    rcases find?_cases needle (text.drop start) with
      ⟨before, found, occurs, least⟩ | ⟨missed, nowhere⟩
    · refine .inl ⟨before + start, by rw [found]; rfl, ⟨Nat.le_add_left start before, ?_⟩, ?_⟩
      · exact Nat.add_comm start before ▸ (occursAt_drop inside).mp occurs
      · rintro p ⟨le, occurs'⟩
        exact Nat.add_le_of_le_sub le (least ((later le).mpr occurs'))
    · exact .inr ⟨by rw [missed]; rfl, fun p le occurs => nowhere _ ((later le).mpr occurs)⟩
  · rename_i outside
    exact .inr ⟨rfl, fun p le occurs => outside (le.trans occurs.1)⟩

end

end Formula.Text
