import Formula.Record
import Mathlib.Data.List.Induction
import Mathlib.Data.List.Nodup
import Mathlib.Data.List.Perm.Subperm

/-!
Records: which names they hold, and what is found after several entries were put.
-/

namespace Formula.Record

variable {κ α : Type} [DecidableEq κ]

theorem get?_eq_none_iff {name : κ} {r : Record κ α} : get? name r = none ↔ name ∉ keys r := by
  induction r with
  | nil => simp [keys]
  | cons entry rest ih =>
      by_cases same : entry.1 = name
      · simp [get?, keys, same]
      · have other : ¬ name = entry.1 := fun equal => same equal.symm
        simp only [keys] at ih
        simp [get?, keys, same, other, ih]

theorem contains_iff {name : κ} {r : Record κ α} : contains name r = true ↔ name ∈ keys r := by
  rw [contains, Option.isSome_iff_ne_none, ne_eq, get?_eq_none_iff, not_not]

theorem get?_put (name other : κ) (value : α) (r : Record κ α) :
    get? other (put name value r) = if name = other then some value else get? other r := by
  split
  · rename_i same
    rw [← same, get?_put_self]
  · rename_i different
    rw [get?_put_of_ne different]

theorem mem_of_get? {name : κ} {value : α} {r : Record κ α} (found : get? name r = some value) :
    (name, value) ∈ r := by
  induction r with
  | nil => cases found
  | cons entry rest ih =>
      obtain ⟨key, old⟩ := entry
      by_cases same : key = name
      · subst same
        simp only [get?, if_true, Option.some.injEq] at found
        rw [found]
        exact List.mem_cons_self
      · simp only [get?, same, if_false] at found
        exact List.mem_cons_of_mem _ (ih found)

theorem get?_eq_find? (name : κ) (r : Record κ α) :
    get? name r = (r.find? fun entry => entry.1 = name).map Prod.snd := by
  induction r with
  | nil => rfl
  | cons entry rest ih =>
      obtain ⟨key, old⟩ := entry
      by_cases same : key = name
      · simp [get?, same]
      · simp [get?, same, ih]

theorem mem_of_mem_put {name : κ} {value : α} {entry : κ × α} {r : Record κ α}
    (member : entry ∈ put name value r) : entry = (name, value) ∨ entry ∈ r := by
  induction r with
  | nil => exact .inl (List.mem_singleton.mp member)
  | cons first rest ih =>
      obtain ⟨key, old⟩ := first
      by_cases same : key = name
      · subst same
        simp only [put, if_true, List.mem_cons] at member ⊢
        exact member.imp id .inr
      · simp only [put, same, if_false, List.mem_cons] at member ⊢
        rcases member with head | tail
        · exact .inr (.inl head)
        · exact (ih tail).imp id .inr

/-! ### Several entries -/

theorem update_concat (r changes : Record κ α) (entry : κ × α) :
    update r (changes ++ [entry]) = put entry.1 entry.2 (update r changes) := by
  simp only [update, List.foldl_append, List.foldl_cons, List.foldl_nil]

theorem mem_of_mem_update {r changes : Record κ α} {entry : κ × α}
    (member : entry ∈ update r changes) : entry ∈ r ∨ entry ∈ changes := by
  induction changes using List.reverseRecOn with
  | nil => exact .inl member
  | append_singleton earlier last ih =>
      rw [update_concat] at member
      rcases mem_of_mem_put member with rfl | old
      · exact .inr (List.mem_append_right _ List.mem_cons_self)
      · exact (ih old).imp_right (List.mem_append_left _)

theorem mem_of_mem_ofList {entries : List (κ × α)} {entry : κ × α}
    (member : entry ∈ ofList entries) : entry ∈ entries :=
  (mem_of_mem_update (r := []) member).resolve_left List.not_mem_nil

/-- The last entry of a name counts, and the old one where there is none. -/
theorem get?_update (name : κ) (r changes : Record κ α) :
    get? name (update r changes) = (get? name changes.reverse).or (get? name r) := by
  induction changes using List.reverseRecOn with
  | nil => rfl
  | append_singleton earlier entry ih =>
      rw [update_concat, get?_put, ih, List.reverse_append]
      by_cases same : entry.1 = name <;> simp [get?, same]

theorem get?_ofList (name : κ) (entries : Record κ α) :
    get? name (ofList entries) = get? name entries.reverse := by
  rw [show ofList entries = update [] entries from rfl, get?_update, get?_nil, Option.or_none]

/-- Of several entries of a name the last one is found. -/
theorem get?_ofList_eq_getLast? (name : κ) (entries : Record κ α) :
    get? name (ofList entries) =
      (entries.filter fun entry => entry.1 = name).getLast?.map Prod.snd := by
  rw [get?_ofList, get?_eq_find?, ← List.head?_filter, List.filter_reverse, List.head?_reverse]

theorem get?_ofList_map (value : κ → α) (names : List κ) (name : κ) :
    get? name (ofList (names.map fun other => (other, value other))) =
      if name ∈ names then some (value name) else none := by
  have keys_eq : keys (names.map fun other => (other, value other)).reverse = names.reverse := by
    simp [keys, Function.comp_def]
  rw [get?_ofList]
  split
  · rename_i member
    cases found : get? name (names.map fun other => (other, value other)).reverse with
    | none =>
        rw [get?_eq_none_iff, keys_eq, List.mem_reverse] at found
        exact absurd member found
    | some v =>
        have entry := mem_of_get? found
        simp only [List.mem_reverse, List.mem_map, Prod.mk.injEq] at entry
        obtain ⟨other, -, rfl, rfl⟩ := entry
        rfl
  · rename_i absent
    rwa [get?_eq_none_iff, keys_eq, List.mem_reverse]

theorem put_of_notMem {name : κ} {r : Record κ α} (absent : name ∉ keys r) (value : α) :
    put name value r = r ++ [(name, value)] := by
  induction r with
  | nil => rfl
  | cons entry rest ih =>
      simp only [keys, List.map_cons, List.mem_cons, not_or] at absent
      rw [put, if_neg (Ne.symm absent.1), ih absent.2, List.cons_append]

/-- An entry with a new name goes to the end. -/
theorem put_of_nodup {r rest : Record κ α} {name : κ} {value : α}
    (distinct : (keys (r ++ (name, value) :: rest)).Nodup) :
    put name value r = r ++ [(name, value)] := by
  refine put_of_notMem (fun old => ?_) value
  rw [keys, List.map_append, List.nodup_append] at distinct
  exact distinct.2.2 name old name List.mem_cons_self rfl

theorem update_of_nodup {r changes : Record κ α} (distinct : (keys (r ++ changes)).Nodup) :
    update r changes = r ++ changes := by
  induction changes generalizing r with
  | nil => rw [List.append_nil, update, List.foldl_nil]
  | cons entry rest ih =>
      have put := put_of_nodup distinct
      rw [List.append_cons] at distinct
      rw [List.append_cons, ← ih distinct, ← put]
      rfl

/-- Entries with distinct names are a record as they stand. -/
theorem ofList_of_nodup {entries : List (κ × α)} (distinct : (keys entries).Nodup) :
    ofList entries = entries :=
  update_of_nodup (r := []) distinct

/-- Of entries with distinct names each is found. -/
theorem get?_ofList_of_mem {name : κ} {value : α} {entries : Record κ α}
    (distinct : (keys entries).Nodup) (member : (name, value) ∈ entries) :
    get? name (ofList entries) = some value := by
  rw [get?_ofList]
  cases found : get? name entries.reverse with
  | none =>
      rw [get?_eq_none_iff] at found
      simp only [keys, List.map_reverse, List.mem_reverse] at found
      exact absurd (List.mem_map_of_mem member) found
  | some other =>
      have entry := List.mem_reverse.mp (mem_of_get? found)
      have same := List.inj_on_of_nodup_map distinct entry member rfl
      rw [(Prod.mk.inj same).2]

theorem get?_of_mem {name : κ} {value : α} {r : Record κ α} (distinct : (keys r).Nodup)
    (member : (name, value) ∈ r) : get? name r = some value := by
  rw [← ofList_of_nodup distinct]
  exact get?_ofList_of_mem distinct member

theorem get?_reverse_of_nodup {r : Record κ α} (distinct : (keys r).Nodup) (name : κ) :
    get? name r.reverse = get? name r := by
  rw [← get?_ofList, ofList_of_nodup distinct]

/-- Of changes with distinct names each counts. -/
theorem get?_update_of_nodup {changes : Record κ α} (distinct : (keys changes).Nodup) (name : κ)
    (r : Record κ α) : get? name (update r changes) = (get? name changes).or (get? name r) := by
  rw [get?_update, get?_reverse_of_nodup distinct]

theorem nodup_keys_put {r : Record κ α} (distinct : (keys r).Nodup) (name : κ) (value : α) :
    (keys (put name value r)).Nodup := by
  rw [keys_put]
  split
  · exact distinct
  · rename_i absent
    exact List.nodup_append.mpr ⟨distinct, List.nodup_singleton name,
      fun _ member _ new same => absent (List.mem_singleton.mp new ▸ same ▸ member)⟩

theorem nodup_keys_update {r : Record κ α} (distinct : (keys r).Nodup) (changes : Record κ α) :
    (keys (update r changes)).Nodup := by
  induction changes generalizing r with
  | nil => exact distinct
  | cons entry rest ih => exact ih (nodup_keys_put distinct entry.1 entry.2)

omit [DecidableEq κ] in
/-- A record with distinct names has those of another if it has equally many entries and no name
that the other does not have. -/
theorem keys_perm_iff {r s : Record κ α} (distinct : (keys r).Nodup) :
    (keys r).Perm (keys s) ↔ r.length = s.length ∧ keys r ⊆ keys s := by
  have length : r.length = s.length ↔ (keys r).length = (keys s).length := by
    rw [keys, keys, List.length_map, List.length_map]
  rw [length]
  constructor
  · intro same
    exact ⟨same.length_eq, same.subset⟩
  · rintro ⟨length, held⟩
    exact (List.subperm_of_subset distinct held).perm_of_length_le (Nat.le_of_eq length.symm)

end Formula.Record
