import Formula.Proofs.Function.Calls
import Mathlib.Data.List.Pairwise

/-!
`UNIQUE` keeps the first of the items that are equal, although equality need not be reflexive or
transitive: what it keeps differs from all that it keeps before, and what it drops equals something
kept before it. And what `CONTAINS`, `COUNTIF` and `FILTER` have in common.
-/

namespace Formula.Arrays

open Parameter

variable {items : List Value} {v : Value}

/-! ### What is kept -/

theorem uniqueItems_concat (items : List Value) (v : Value) :
    uniqueItems (items ++ [v]) =
      if (uniqueItems items).any v.equals then uniqueItems items else uniqueItems items ++ [v] := by
  rw [uniqueItems, List.foldl_append]
  rfl

/-- Read from its end, an array is filtered for items that differ from one another. -/
theorem reverse_uniqueItems (items : List Value) :
    (uniqueItems items).reverse = items.reverse.pwFilter fun v w => v.equals w = false := by
  induction items using List.reverseRecOn with
  | nil => rfl
  | append_singleton items v ih =>
      rw [uniqueItems_concat, List.reverse_append]
      have known : (uniqueItems items).any v.equals = true ↔
          ¬ ∀ w ∈ items.reverse.pwFilter fun v w => v.equals w = false, v.equals w = false := by
        rw [← ih, List.any_eq_true]
        simp
      by_cases equal : (uniqueItems items).any v.equals = true
      · rw [if_pos equal, ih]
        exact (List.pwFilter_cons_of_neg (known.mp equal)).symm
      · rw [if_neg equal, List.reverse_append, ih]
        exact (List.pwFilter_cons_of_pos (not_not.mp (mt known.mpr equal))).symm

theorem uniqueItems_sublist (items : List Value) : (uniqueItems items).Sublist items := by
  rw [← List.reverse_sublist, reverse_uniqueItems]
  exact List.pwFilter_sublist items.reverse

theorem uniqueItems_pairwise (items : List Value) :
    (uniqueItems items).Pairwise fun v w => w.equals v = false := by
  rw [← List.pairwise_reverse, reverse_uniqueItems]
  exact List.pairwise_pwFilter items.reverse

theorem uniqueItems_uniqueItems (items : List Value) :
    uniqueItems (uniqueItems items) = uniqueItems items := by
  rw [← List.reverse_inj, reverse_uniqueItems, List.pwFilter_eq_self, List.pairwise_reverse]
  exact uniqueItems_pairwise items

/-- Places of an array in order, and every item elsewhere equals one at an earlier of them. -/
structure Covers (places : List Nat) (items : List Value) : Prop where
  ordered : places.Pairwise (· < ·)
  inside : ∀ i ∈ places, i < items.length
  covered : ∀ j w, items[j]? = some w → j ∉ places →
    ∃ i ∈ places, i < j ∧ ∃ v, items[i]? = some v ∧ w.equals v = true

theorem filterMap_append {places : List Nat} (inside : ∀ i ∈ places, i < items.length)
    (others : List Value) :
    places.filterMap ((items ++ others)[·]?) = places.filterMap (items[·]?) :=
  List.filterMap_congr fun i member => List.getElem?_append_left (inside i member)

/-- Behind an item that equals a kept one, the same places are kept. -/
theorem Covers.dropped {places : List Nat} (covers : Covers places items)
    (known : ∃ w ∈ places.filterMap (items[·]?), v.equals w = true) :
    Covers places (items ++ [v]) where
  ordered := covers.ordered
  inside := fun i member => by
    rw [List.length_append]
    exact Nat.lt_add_right 1 (covers.inside i member)
  covered := by
    intro j w found other
    rcases Nat.lt_or_ge j items.length with old | new
    · rw [List.getElem?_append_left old] at found
      obtain ⟨i, member, before, u, first, equal⟩ := covers.covered j w found other
      exact ⟨i, member, before, u, List.getElem?_append_left (before.trans old) ▸ first, equal⟩
    · obtain ⟨u, kept, equal⟩ := known
      obtain ⟨i, member, first⟩ := List.mem_filterMap.mp kept
      have before := covers.inside i member
      rw [List.getElem?_append_right new] at found
      obtain rfl := List.mem_singleton.mp (List.mem_of_getElem? found)
      exact ⟨i, member, before.trans_le new, u, List.getElem?_append_left before ▸ first, equal⟩

theorem Covers.kept {places : List Nat} (covers : Covers places items) (v : Value) :
    Covers (places ++ [items.length]) (items ++ [v]) where
  ordered := by
    rw [List.pairwise_append]
    refine ⟨covers.ordered, List.pairwise_singleton _ _, fun i member j last => ?_⟩
    rw [List.mem_singleton.mp last]
    exact covers.inside i member
  inside := fun i member => by
    rw [List.length_append, List.length_singleton]
    rcases List.mem_append.mp member with old | new
    · exact Nat.lt_succ_of_lt (covers.inside i old)
    · exact List.mem_singleton.mp new ▸ Nat.lt_succ_self _
  covered := by
    intro j w found other
    rw [List.mem_append, List.mem_singleton, not_or] at other
    have old : j < items.length := by
      have within := (List.getElem?_eq_some_iff.mp found).1
      rw [List.length_append, List.length_singleton] at within
      exact Nat.lt_of_le_of_ne (Nat.le_of_lt_succ within) other.2
    rw [List.getElem?_append_left old] at found
    obtain ⟨i, member, before, u, first, equal⟩ := covers.covered j w found other.1
    exact ⟨i, List.mem_append_left _ member, before, u,
      List.getElem?_append_left (before.trans old) ▸ first, equal⟩

theorem exists_covers (items : List Value) :
    ∃ places, Covers places items ∧ uniqueItems items = places.filterMap (items[·]?) := by
  induction items using List.reverseRecOn with
  | nil => exact ⟨[], ⟨.nil, nofun, nofun⟩, rfl⟩
  | append_singleton items v ih =>
      obtain ⟨places, covers, kept⟩ := ih
      have same := filterMap_append covers.inside [v]
      rw [uniqueItems_concat, kept]
      split
      · rename_i known
        exact ⟨places, covers.dropped (List.any_eq_true.mp known), same.symm⟩
      · refine ⟨places ++ [items.length], covers.kept v, ?_⟩
        rw [List.filterMap_append, same]
        simp

/-! ### Calls -/

section

variable (c : Context) (position : Nat)

theorem call_unique (items : List Value) :
    Registry.builtin.call c "UNIQUE" position (.ok [.array items]) =
      .ok (.array (uniqueItems items)) := by
  have member : uniqueFunction ∈ builtinFunctions := by simp [builtinFunctions, functions]
  exact Registry.call_builtin (d := uniqueFunction) member
    (Definition.checkArguments_of_forall₂ rfl (.cons (accepts_array rfl items) .nil)) rfl rfl

theorem call_contains (items : List Value) (v : Value) :
    Registry.builtin.call c "CONTAINS" position (.ok [.array items, v]) =
      .ok (.bool (items.any (·.equals v))) := by
  have member : containsFunction ∈ builtinFunctions := by simp [builtinFunctions, functions]
  refine Registry.call_builtin (d := containsFunction) member
    (Definition.checkArguments_of_forall₂ rfl
      (.cons (accepts_of_ofType ?_ (Value.ofType_array items)) (.cons (accepts_any rfl v) .nil)))
    rfl rfl
  simp +decide [Parameter.types, String.splitOn, String.splitOnAux]

theorem call_filter (items : List Value) (v : Value) :
    Registry.builtin.call c "FILTER" position (.ok [.array items, v]) =
      .ok (.array (items.filter (·.equals v))) := by
  have member : filterFunction ∈ builtinFunctions := by simp [builtinFunctions, functions]
  exact Registry.call_builtin (d := filterFunction) member
    (Definition.checkArguments_of_forall₂ rfl
      (.cons (accepts_array rfl items) (.cons (accepts_any rfl v) .nil))) rfl rfl

theorem call_countIf (v : Value) (short : ¬ 2 ^ Number.maxBits ≤ items.length) :
    Registry.builtin.call c "COUNTIF" position (.ok [.array items, v]) =
      .ok (.ofNat (items.countP (·.equals v))) := by
  have member : countifFunction ∈ builtinFunctions := by simp [builtinFunctions, functions]
  exact Registry.call_builtin (d := countifFunction) member
    (Definition.checkArguments_of_forall₂ rfl
      (.cons (accepts_array rfl items) (.cons (accepts_any rfl v) .nil))) rfl
    (Value.check_ofNat fun wide => short (wide.trans List.countP_le_length))

end

/-- For every array of whatever values, `UNIQUE` returns a part of it in the same order, in which no
item equals an earlier one; every item that is dropped equals one that is kept before it; and a
second `UNIQUE` changes nothing. For every value, what `CONTAINS` finds in the result it finds in the
array, which is so exactly if `FILTER` keeps something, and exactly if `COUNTIF` counts something. A
count of more than ten thousand bits, which no array in memory reaches, would not pass the check of
results. -/
theorem unique_keeps_firsts (c : Context) (position : Nat) (items : List Value) :
    let call := fun name args => Registry.builtin.call c name position (.ok args)
    ∃ kept : List Value, call "UNIQUE" [.array items] = .ok (.array kept) ∧
      kept.Sublist items ∧
      kept.Pairwise (fun v w => w.equals v = false) ∧
      (∃ places, Covers places items ∧ kept = places.filterMap (items[·]?)) ∧
      call "UNIQUE" [.array kept] = .ok (.array kept) ∧
      ∀ v : Value, ∃ (remains among : Bool) (equal : List Value),
        call "CONTAINS" [.array kept, v] = .ok (.bool remains) ∧
        call "CONTAINS" [.array items, v] = .ok (.bool among) ∧
        call "FILTER" [.array items, v] = .ok (.array equal) ∧
        (remains = true → among = true) ∧ (among = true ↔ equal ≠ []) ∧
        (items.length < 2 ^ Number.maxBits → ∃ count : Nat,
          call "COUNTIF" [.array items, v] = .ok (.ofNat count) ∧
          (among = true ↔ 0 < count) ∧ (0 < count ↔ equal ≠ [])) := by
  refine ⟨uniqueItems items, call_unique c position items, uniqueItems_sublist items,
    uniqueItems_pairwise items, exists_covers items, ?_, fun v => ?_⟩
  · exact (call_unique c position _).trans (by rw [uniqueItems_uniqueItems])
  have counted : items.any (·.equals v) = true ↔ 0 < items.countP (·.equals v) := by
    rw [List.any_eq_true, List.countP_pos_iff]
  have filtered : 0 < items.countP (·.equals v) ↔ items.filter (·.equals v) ≠ [] := by
    rw [List.countP_eq_length_filter, List.length_pos_iff]
  refine ⟨_, _, _, call_contains c position _ v, call_contains c position items v,
    call_filter c position items v, ?_, counted.trans filtered, fun short =>
      ⟨_, call_countIf c position v (Nat.not_le.mpr short), counted, filtered⟩⟩
  simp only [List.any_eq_true]
  rintro ⟨w, member, equal⟩
  exact ⟨w, (uniqueItems_sublist items).subset member, equal⟩

/-- Of a number that equals no number, not even itself, every occurrence is kept. -/
theorem unique_keeps_firsts_nan :
    let c : Context := { clock := .ofMoment .universal (.atMidnight ⟨2024, 1, 15, by decide⟩ none) }
    let call := fun name args => Registry.builtin.call c name 0 (.ok args)
    let nan : Value := .float Number.nan
    let items : List Value := [.int 1, nan, .bool true, .int 1, nan]
    items.length < 2 ^ Number.maxBits ∧
      ∃ kept : List Value, call "UNIQUE" [.array items] = .ok (.array kept) ∧
        kept.Sublist items ∧ call "UNIQUE" [.array kept] = .ok (.array kept) ∧
        ∃ (among : Bool) (count : Nat),
          call "CONTAINS" [.array items, nan] = .ok (.bool among) ∧
          call "COUNTIF" [.array items, nan] = .ok (.ofNat count) ∧
          (among = true ↔ 0 < count) := by
  intro c call nan items
  have short : items.length < 2 ^ Number.maxBits := by decide +kernel
  obtain ⟨kept, unique, sublist, -, -, again, values⟩ := unique_keeps_firsts c 0 items
  obtain ⟨_, among, _, -, contains, -, -, -, counts⟩ := values nan
  obtain ⟨count, counted, same, -⟩ := counts short
  exact ⟨short, kept, unique, sublist, again, among, count, contains, counted, same⟩

end Formula.Arrays
