import Formula.Dependency
import Formula.Proofs.Record
import Mathlib.Data.List.Nodup

/-!
Placing fields one after the other. A run keeps the count of references that each field still waits
for, so that the fields that are placed or ready are exactly those that wait for none.
-/

namespace Formula.Placement

/-- The number of references that a field waits for. -/
def left (p : Placement) (name : String) : Int := (Record.get? name p.waiting).getD 0

/-! ### Settling -/

theorem left_settle (p : Placement) (name other : String) :
    (p.settle name).left other = p.left other - if other = name then 1 else 0 := by
  simp only [left, settle, Record.get?_put, eq_comm]
  split
  · rename_i same
    rw [same, Option.getD_some]
  · rw [Int.sub_zero]

theorem ready_settle (p : Placement) (name : String) :
    (p.settle name).ready = p.ready ++ if p.left name = 1 then [name] else [] := by
  have settled : (Record.get? name p.waiting).getD 0 - 1 = 0 ↔ p.left name = 1 := by
    rw [← left]
    omega
  simp only [settle, settled]
  split
  · rfl
  · rw [List.append_nil]

theorem left_foldl_settle_count (names : List String) (p : Placement) (other : String) :
    (names.foldl settle p).left other = p.left other - names.count other := by
  induction names generalizing p with
  | nil => simp
  | cons name rest ih =>
      rw [List.foldl_cons, ih, left_settle, List.count_cons]
      by_cases same : other = name
      · subst same
        simp
        omega
      · have other : ¬ name = other := fun equal => same equal.symm
        simp [same, other]

theorem left_foldl_settle {names : List String} (distinct : names.Nodup) (p : Placement)
    (other : String) :
    (names.foldl settle p).left other = p.left other - if other ∈ names then 1 else 0 := by
  rw [left_foldl_settle_count, distinct.count]
  split <;> rfl

theorem ready_foldl_settle {names : List String} (distinct : names.Nodup) (p : Placement) :
    (names.foldl settle p).ready = p.ready ++ names.filter fun name => p.left name = 1 := by
  induction names generalizing p with
  | nil => simp
  | cons name rest ih =>
      obtain ⟨fresh, distinct⟩ := List.nodup_cons.mp distinct
      have others : (rest.filter fun other => (p.settle name).left other = 1) =
          rest.filter fun other => p.left other = 1 := by
        apply List.filter_congr
        intro other member
        have different : other ≠ name := fun same => fresh (same ▸ member)
        rw [left_settle, if_neg different, Int.sub_zero]
      rw [List.foldl_cons, ih distinct, others, ready_settle, List.filter_cons]
      split <;> simp [*]

/-! ### Fields and their references -/

/-- Fields, what each of them refers to, and what refers to each of them. -/
structure Linked (ids : List String) (needs : String → List String)
    (dependents : Record String (List String)) : Prop where
  needs_nodup : ∀ id, (needs id).Nodup
  dependents_nodup : ∀ id, ((Record.get? id dependents).getD []).Nodup
  mem_dependents : ∀ id other,
    other ∈ (Record.get? id dependents).getD [] ↔ other ∈ ids ∧ id ∈ needs other

/-- The references of a field that are not placed yet. -/
def unplaced (needs : String → List String) (placed : List String) (id : String) : Nat :=
  (needs id).countP fun name => name ∉ placed

theorem unplaced_eq_zero_iff {needs : String → List String} {placed : List String} {id : String} :
    unplaced needs placed id = 0 ↔ ∀ name, name ∈ needs id → name ∈ placed := by
  simp [unplaced, List.countP_eq_zero]

theorem countP_notMem_concat {names placed : List String} {current : String}
    (distinct : names.Nodup) (fresh : current ∉ placed) :
    (names.countP fun name => name ∉ placed ++ [current]) + (if current ∈ names then 1 else 0) =
      names.countP fun name => name ∉ placed := by
  induction names with
  | nil => simp
  | cons name rest ih =>
      obtain ⟨once, distinct⟩ := List.nodup_cons.mp distinct
      have := ih distinct
      simp only [List.countP_cons, List.mem_cons]
      by_cases same : current = name
      · subst same
        simp_all
      · by_cases known : name ∈ placed
        · simp_all
        · have other : ¬ name = current := fun equal => same equal.symm
          simp_all
          omega

/-- Placing a field leaves one reference less unplaced to the fields that refer to it. -/
theorem Linked.unplaced_concat {ids placed : List String} {needs : String → List String}
    {dependents : Record String (List String)} {current id : String}
    (linked : Linked ids needs dependents) (fresh : current ∉ placed) (declared : id ∈ ids) :
    unplaced needs (placed ++ [current]) id +
      (if id ∈ (Record.get? current dependents).getD [] then 1 else 0) =
        unplaced needs placed id := by
  have count := countP_notMem_concat (linked.needs_nodup id) fresh
  simp only [linked.mem_dependents, declared, true_and]
  exact count

/-! ### Runs -/

/-- What holds between two steps: the fields that are placed or ready are those that wait for no
field that is not placed, and each comes after all that it refers to. -/
structure Consistent (ids : List String) (needs : String → List String) (placed : List String)
    (p : Placement) : Prop where
  nodup : (placed ++ p.ready).Nodup
  left_eq : ∀ id, id ∈ ids → p.left id = unplaced needs placed id
  mem_iff : ∀ id, id ∈ placed ++ p.ready ↔ id ∈ ids ∧ unplaced needs placed id = 0
  ordered : ∀ before id after, placed = before ++ id :: after →
    ∀ name, name ∈ needs id → name ∈ before

variable {ids placed rest : List String} {needs : String → List String}
  {dependents : Record String (List String)} {waiting : Record String Int} {current : String}

theorem ordered_concat {follows : List String → String → Prop}
    (ordered : ∀ before id after, placed = before ++ id :: after → follows before id)
    (last : follows placed current) :
    ∀ before id after, placed ++ [current] = before ++ id :: after → follows before id := by
  intro before id after split
  rcases List.eq_nil_or_concat after with rfl | ⟨inner, final, rfl⟩
  · obtain ⟨rfl, same⟩ := List.append_inj' split rfl
    rwa [← (List.cons.inj same).1]
  · rw [List.concat_eq_append, ← List.cons_append, ← List.append_assoc] at split
    exact ordered before id inner (List.append_inj' split rfl).1

/-- One field is placed, and what becomes ready by it is ready. -/
theorem Consistent.step (linked : Linked ids needs dependents)
    (consistent : Consistent ids needs placed ⟨waiting, current :: rest⟩) :
    Consistent ids needs (placed ++ [current])
      (((Record.get? current dependents).getD []).foldl settle ⟨waiting, rest⟩) := by
  have fresh : current ∉ placed := by
    have apart := (List.nodup_append.mp consistent.nodup).2.2
    exact fun member => apart current member current List.mem_cons_self rfl
  have settled := linked.dependents_nodup current
  have counted := fun {id : String} (declared : id ∈ ids) => linked.unplaced_concat fresh declared
  have lefts : ∀ id, id ∈ ids →
      Placement.left ⟨waiting, rest⟩ id = unplaced needs placed id := consistent.left_eq
  have known : ∀ id, id ∈ placed ++ current :: rest ↔
      id ∈ ids ∧ unplaced needs placed id = 0 := consistent.mem_iff
  refine ⟨?nodup, ?left, ?members, ?ordered⟩
  case left =>
    intro id declared
    have := counted declared
    rw [left_foldl_settle settled, lefts id declared]
    split at this <;> simp_all
    omega
  case members =>
    intro id
    rw [ready_foldl_settle settled, ← List.append_assoc, List.append_assoc placed,
      List.singleton_append, List.mem_append, known, List.mem_filter, decide_eq_true_eq]
    constructor
    · rintro (⟨declared, none⟩ | ⟨member, one⟩)
      · have := counted declared
        exact ⟨declared, by omega⟩
      · have declared := ((linked.mem_dependents current id).mp member).1
        have count := counted declared
        rw [lefts id declared] at one
        rw [if_pos member] at count
        exact ⟨declared, by omega⟩
    · rintro ⟨declared, none⟩
      have count := counted declared
      rw [lefts id declared]
      split at count
      · rename_i member
        exact .inr ⟨member, by omega⟩
      · exact .inl ⟨declared, by omega⟩
  case nodup =>
    rw [ready_foldl_settle settled, ← List.append_assoc, List.append_assoc placed,
      List.singleton_append, List.nodup_append]
    refine ⟨consistent.nodup, settled.filter _, ?_⟩
    intro id earlier other later same
    subst same
    obtain ⟨declared, none⟩ := (known id).mp earlier
    have one := (List.mem_filter.mp later).2
    rw [decide_eq_true_eq, lefts id declared] at one
    omega
  case ordered =>
    apply ordered_concat consistent.ordered
    have placeable := (known current).mp (List.mem_append_right placed List.mem_cons_self)
    exact unplaced_eq_zero_iff.mp placeable.2

/-- A run ends when nothing is ready. -/
theorem Consistent.order (linked : Linked ids needs dependents) {p : Placement}
    (consistent : Consistent ids needs placed p) :
    ∃ waiting, Consistent ids needs (placed ++ p.order dependents) ⟨waiting, []⟩ := by
  fun_induction Placement.order dependents p generalizing placed with
  | case1 waiting => exact ⟨waiting, by simpa using consistent⟩
  | case2 waiting current rest settled =>
      rename_i ih
      obtain ⟨final, done⟩ := ih (consistent.step linked)
      exact ⟨final, by simpa using done⟩

end Formula.Placement
