import Formula.Proofs.Dependency.Graph

/-!
The graph of fields where an id is declared more than once. What an id refers to is taken from its
last declaration, but each declaration is entered with what it refers to, and each one without
references is placed. So a field is placed as soon as as many references to placed fields have been
counted for it as its last declaration has, whichever declarations they are of.
-/

namespace Formula

namespace Placement

/-! ### Counting references -/

theorem count_ready_foldl_settle (names : List String) (p : Placement) (id : String) :
    (names.foldl settle p).ready.count id =
      p.ready.count id + if 0 < p.left id ∧ p.left id ≤ names.count id then 1 else 0 := by
  induction names generalizing p with
  | nil =>
      rw [if_neg, Nat.add_zero, List.foldl_nil]
      simp
  | cons name rest ih =>
      rw [List.foldl_cons, ih, left_settle, ready_settle, List.count_append, List.count_cons]
      by_cases same : id = name
      · subst same
        by_cases one : p.left id = 1
        · simp [one]
        · have later : 0 < p.left id - 1 ∧ p.left id - 1 ≤ rest.count id ↔
              0 < p.left id ∧ p.left id ≤ rest.count id + 1 := by omega
          rw [if_pos rfl, if_neg one, if_congr later rfl rfl]
          simp
      · have other : ¬ name = id := fun equal => same equal.symm
        have unlisted : (if p.left name = 1 then [name] else []).count id = 0 := by
          split <;> simp [other]
        simp [same, other, unlisted]

/-- The fields that refer to placed ones, as often as they do. -/
def settled (dependents : Record String (List String)) (placed : List String) : List String :=
  placed.flatMap fun name => (Record.get? name dependents).getD []

theorem settled_concat (dependents : Record String (List String)) (placed : List String)
    (current : String) :
    settled dependents (placed ++ [current]) =
      settled dependents placed ++ (Record.get? current dependents).getD [] := by
  rw [settled, List.flatMap_append, List.flatMap_singleton, settled]

variable {ids placed rest : List String} {needs : String → List String}
  {dependents : Record String (List String)} {waiting : Record String Int} {current : String}

/-- What holds between two steps, however often an id occurs: each field has settled as many
references as placed fields have it among their dependents. -/
structure Counted (ids : List String) (needs : String → List String)
    (dependents : Record String (List String)) (placed : List String) (p : Placement) : Prop where
  left_eq : ∀ id, p.left id = (needs id).length - ((settled dependents placed).count id : Int)
  count_eq : ∀ id, (placed ++ p.ready).count id =
    if needs id = [] then ids.count id
    else if (needs id).length ≤ (settled dependents placed).count id then 1 else 0
  enough : ∀ before id after, placed = before ++ id :: after →
    (needs id).length ≤ (settled dependents before).count id

theorem Counted.step (counted : Counted ids needs dependents placed ⟨waiting, current :: rest⟩) :
    Counted ids needs dependents (placed ++ [current])
      (((Record.get? current dependents).getD []).foldl settle ⟨waiting, rest⟩) := by
  have lefts : ∀ id, Placement.left ⟨waiting, rest⟩ id =
      (needs id).length - ((settled dependents placed).count id : Int) := counted.left_eq
  refine ⟨?left, ?count, ordered_concat counted.enough ?last⟩
  case left =>
    intro id
    rw [left_foldl_settle_count, lefts, settled_concat, List.count_append]
    omega
  case count =>
    intro id
    have known := counted.count_eq id
    rw [List.append_cons, List.count_append] at known
    rw [List.count_append, count_ready_foldl_settle, ← Nat.add_assoc, known, lefts,
      settled_concat, List.count_append]
    by_cases none : needs id = []
    · rw [if_pos none, if_pos none, if_neg, Nat.add_zero]
      simp [none]
    · have some := List.length_pos_of_ne_nil none
      rw [if_neg none, if_neg none]
      -- it becomes ready in the step that settles the last of its references
      by_cases before : (needs id).length ≤ (settled dependents placed).count id
      · rw [if_pos before, if_neg (by omega), if_pos (by omega)]
      · rw [if_neg before, Nat.zero_add]
        apply if_congr _ rfl rfl
        omega
  case last =>
    have known := counted.count_eq current
    rw [List.count_append, List.count_cons_self] at known
    by_cases none : needs current = []
    · rw [none]
      exact Nat.zero_le _
    · rw [if_neg none] at known
      split at known
      · assumption
      · omega

/-- A run ends when nothing is ready. -/
theorem Counted.order {p : Placement} (counted : Counted ids needs dependents placed p) :
    ∃ waiting, Counted ids needs dependents (placed ++ p.order dependents) ⟨waiting, []⟩ := by
  fun_induction Placement.order dependents p generalizing placed with
  | case1 waiting => exact ⟨waiting, by simpa using counted⟩
  | case2 waiting current rest settled =>
      rename_i ih
      obtain ⟨final, done⟩ := ih counted.step
      exact ⟨final, by simpa using done⟩

end Placement

namespace DependencyGraph

variable {references : List (String × List String)}

/-! ### Declarations of an id -/

/-- The references of all declarations of an id. -/
def declared (references : List (String × List String)) (id : String) : List String :=
  (references.filter fun field => field.1 = id).flatMap Prod.snd

theorem count_neededBy (id name : String) :
    ((ofReferences references).neededBy name).count id = (declared references id).count name := by
  have counts : (references.flatMap fun field =>
      List.replicate (field.2.count name) field.1).count id =
        (declared references id).count name := by
    induction references with
    | nil => rfl
    | cons field rest ih =>
        rw [List.flatMap_cons, List.count_append, List.count_replicate, ih, declared, declared,
          List.filter_cons]
        by_cases same : field.1 = id
        · simp [same]
        · simp [same]
  rw [neededBy, ofReferences, get?_invert, counts]

/-- The references of an id are those of its last declaration. -/
theorem needs_eq_getLast? (references : List (String × List String)) (id : String) :
    (ofReferences references).needs id =
      ((references.filter fun field => field.1 = id).getLast?.map Prod.snd).getD [] := by
  rw [needs, ofReferences, Record.get?_ofList_eq_getLast?]

theorem nodup_needs (once : ∀ field, field ∈ references → field.2.Nodup) (id : String) :
    ((ofReferences references).needs id).Nodup := by
  rw [needs, ofReferences]
  cases found : Record.get? id (Record.ofList references) with
  | none => exact List.nodup_nil
  | some names => exact once _ (Record.mem_of_mem_ofList (Record.mem_of_get? found))

theorem declared_of_count_one {id : String} (once : (references.map Prod.fst).count id = 1) :
    declared references id = (ofReferences references).needs id := by
  have length : (references.filter fun field => field.1 = id).length = 1 := by
    rw [← once, List.count_eq_countP, List.countP_map, List.countP_eq_length_filter]
    rfl
  obtain ⟨entry, only⟩ := List.length_eq_one_iff.mp length
  rw [declared, needs_eq_getLast?, only, List.flatMap_singleton]
  rfl

/-! ### The order -/

theorem counted_start (references : List (String × List String)) :
    Placement.Counted (references.map Prod.fst) (ofReferences references).needs
      (invert (references.map Prod.fst) references) []
      (Placement.start (references.map Prod.fst) (Record.ofList references)) := by
  refine ⟨?_, ?_, ?_⟩
  · intro id
    rw [Placement.left, Placement.start, Record.get?_ofList_map (fun id =>
      ((((Record.get? id (Record.ofList references)).getD []).length : Nat) : Int))]
    split
    · simp [Placement.settled, needs, ofReferences]
    · rename_i absent
      simp [Placement.settled, needs_ofReferences_of_notMem absent]
  · intro id
    have ready : (Placement.start (references.map Prod.fst) (Record.ofList references)).ready =
        (references.map Prod.fst).filter fun id =>
          ((ofReferences references).needs id).length == 0 := rfl
    rw [List.nil_append, ready]
    by_cases none : (ofReferences references).needs id = []
    · rw [if_pos none]
      apply List.count_filter
      rw [none]
      rfl
    · rw [if_neg none, if_neg, List.count_eq_zero]
      · simp [none]
      · simpa [Placement.settled] using none
  · intro before id after split
    cases before <;> cases split

/-- How often each field is placed, and after how many references to it. -/
theorem count_order_ofReferences (references : List (String × List String)) :
    let graph := ofReferences references
    (∀ id, graph.order.count id =
      if graph.needs id = [] then (references.map Prod.fst).count id
      else if (graph.needs id).length ≤ (graph.order.flatMap graph.neededBy).count id then 1
      else 0) ∧
    ∀ before id after, graph.order = before ++ id :: after →
      (graph.needs id).length ≤ (before.flatMap graph.neededBy).count id := by
  obtain ⟨waiting, done⟩ := (counted_start references).order
  have counts := done.count_eq
  rw [List.nil_append, List.append_nil] at counts
  exact ⟨counts, done.enough⟩

/-- Names that occur once each are all there if enough of them are. -/
theorem subset_of_length_le_count {names before : List String} {dependents : String → List String}
    {id : String} (distinct : names.Nodup)
    (single : ∀ name, name ∈ names → before.count name ≤ 1)
    (entered : ∀ name, (dependents name).count id = names.count name)
    (enough : names.length ≤ (before.flatMap dependents).count id) : names ⊆ before := by
  have counts : (before.flatMap dependents).count id =
      (before.filter fun name => name ∈ names).length := by
    clear enough single
    induction before with
    | nil => rfl
    | cons name rest ih =>
        rw [List.flatMap_cons, List.count_append, entered, distinct.count, ih, List.filter_cons]
        by_cases member : name ∈ names
        · simp [member, Nat.add_comm]
        · simp [member]
  have once : (before.filter fun name => name ∈ names).Nodup := by
    rw [List.nodup_iff_count_le_one]
    intro name
    by_cases member : name ∈ names
    · exact le_trans (List.filter_sublist.count_le name) (single name member)
    · rw [List.count_eq_zero.mpr (by simp [member])]
      exact Nat.zero_le 1
  have listed : (before.filter fun name => name ∈ names) ⊆ names := by
    intro name member
    exact of_decide_eq_true (List.mem_filter.mp member).2
  rw [counts] at enough
  have all := (List.subperm_of_subset once listed).perm_of_length_le enough
  exact fun name member => List.mem_of_mem_filter (all.mem_iff.mpr member)

/-- A field that is declared once comes after all that it refers to, if nothing without references
among it is declared twice. -/
theorem needs_subset_of_once (nodup : ∀ field, field ∈ references → field.2.Nodup)
    {before after : List String} {id : String}
    (split : (ofReferences references).order = before ++ id :: after)
    (once : (references.map Prod.fst).count id = 1)
    (single : ∀ name, name ∈ (ofReferences references).needs id →
      (ofReferences references).needs name = [] → (references.map Prod.fst).count name ≤ 1) :
    (ofReferences references).needs id ⊆ before := by
  obtain ⟨counts, enough⟩ := count_order_ofReferences references
  refine subset_of_length_le_count (nodup_needs nodup id) ?_ ?_ (enough before id after split)
  · intro name member
    have placed : before.count name ≤ (ofReferences references).order.count name := by
      rw [split]
      exact (List.sublist_append_left _ _).count_le name
    rw [counts] at placed
    split at placed
    · exact le_trans placed (single name member ‹_›)
    · split at placed <;> omega
  · intro name
    rw [count_neededBy, declared_of_count_one once]

end DependencyGraph

namespace Engine

variable (engine : Engine) (fields : List CalculatedField)

theorem filter_referencesOf (id : String) :
    (engine.referencesOf fields).filter (fun entry => entry.1 = id) =
      (fields.filter fun field => field.id = id).map fun field =>
        (field.id, DependencyGraph.referred engine (fields.map (·.id)) field.formula) := by
  rw [referencesOf, List.filter_map]
  rfl

theorem needs_dependencies (id : String) :
    (engine.dependencies fields).needs id =
      ((fields.filter fun field => field.id = id).getLast?.map fun field =>
        DependencyGraph.referred engine (fields.map (·.id)) field.formula).getD [] := by
  rw [dependencies_eq, DependencyGraph.needs_eq_getLast?, filter_referencesOf,
    List.getLast?_map, Option.map_map]
  rfl

theorem count_neededBy_dependencies (id name : String) :
    ((engine.dependencies fields).neededBy name).count id =
      ((fields.filter fun field => field.id = id).flatMap fun field =>
        DependencyGraph.referred engine (fields.map (·.id)) field.formula).count name := by
  rw [dependencies_eq, DependencyGraph.count_neededBy, DependencyGraph.declared,
    filter_referencesOf, List.flatMap_map]

/-- The graph of fields whose ids may occur more than once. -/
theorem dependencies_of_repeats (engine : Engine) (fields : List CalculatedField) :
    let ids := fields.map (·.id)
    let graph := engine.dependencies fields
    (∀ id, id ∈ graph.order ∨ id ∈ graph.cyclic ↔ id ∈ ids) ∧
    (∀ id, id ∈ graph.order → id ∉ graph.cyclic) ∧
    (∀ id, graph.order.count id =
      if graph.needs id = [] then ids.count id
      else if (graph.needs id).length ≤ (graph.order.flatMap graph.neededBy).count id then 1
      else 0) ∧
    (∀ before id after, graph.order = before ++ id :: after →
      (graph.needs id).length ≤ (before.flatMap graph.neededBy).count id) ∧
    (∀ before id after, graph.order = before ++ id :: after → ids.count id = 1 →
      (∀ name, name ∈ graph.needs id → graph.needs name = [] → ids.count name = 1) →
      graph.needs id ⊆ before) ∧
    (∀ id, graph.needs id =
      ((fields.filter fun field => field.id = id).getLast?.map fun field =>
        DependencyGraph.referred engine ids field.formula).getD []) ∧
    ∀ id name, (graph.neededBy name).count id =
      ((fields.filter fun field => field.id = id).flatMap fun field =>
        DependencyGraph.referred engine ids field.formula).count name := by
  intro ids graph
  have same : ids = (engine.referencesOf fields).map Prod.fst :=
    (map_fst_referencesOf engine fields).symm
  obtain ⟨counts, enough⟩ := DependencyGraph.count_order_ofReferences (engine.referencesOf fields)
  rw [← same, ← dependencies_eq] at counts
  refine ⟨?_, ?_, counts, enough, ?_, needs_dependencies engine fields,
    count_neededBy_dependencies engine fields⟩
  · intro id
    have placed : id ∈ graph.order → id ∈ ids := by
      intro member
      by_contra absent
      have none : graph.needs id = [] := by
        rw [same] at absent
        exact DependencyGraph.needs_ofReferences_of_notMem absent
      have count := List.count_pos_iff.mpr member
      rw [counts, if_pos none, List.count_pos_iff] at count
      exact absent count
    rw [mem_cyclic_dependencies]
    tauto
  · intro id member cyclic
    exact (mem_cyclic_dependencies.mp cyclic).2 member
  · intro before id after split once single
    rw [same] at once
    refine DependencyGraph.needs_subset_of_once (fun _ => nodup_of_mem_referencesOf) split once ?_
    intro name member none
    rw [← same]
    exact (single name member none).le

theorem dependencies_of_repeats_total :
    let fields : List CalculatedField :=
      [⟨"total", "base + rate", .null⟩, ⟨"base", "2", .null⟩, ⟨"rate", "base", .null⟩,
        ⟨"spare", "1", .null⟩, ⟨"spare", "1", .null⟩]
    let graph := dependencies { host := .universal } fields
    graph.order.count "spare" = 2 ∧
      graph.needs "total" ⊆ ["base", "spare", "spare", "rate"] := by
  intro fields graph
  obtain ⟨-, -, counts, -, ordered, -, -⟩ :=
    dependencies_of_repeats { host := .universal } fields
  have total : ∀ name, name ∈ graph.needs "total" → graph.needs name = [] →
      (fields.map (·.id)).count name = 1 := by decide +kernel
  constructor
  · rw [counts "spare"]
    decide +kernel
  · exact ordered ["base", "spare", "spare", "rate"] "total" [] (by decide +kernel)
      (by decide) total

/-- A field may be placed twice, and one that is declared twice before what it refers to. -/
theorem repeats_misplaced :
    let fields : List CalculatedField :=
      [⟨"a", "b", .null⟩, ⟨"a", "c", .null⟩, ⟨"b", "1", .null⟩, ⟨"b", "1", .null⟩,
        ⟨"c", "d", .null⟩, ⟨"d", "1", .null⟩]
    let graph := dependencies { host := .universal } fields
    ¬ graph.order.Nodup ∧
    (¬ ∀ before id after, graph.order = before ++ id :: after → graph.needs id ⊆ before) ∧
    ¬ ∀ id name, id ∈ graph.neededBy name ↔ name ∈ graph.needs id := by
  intro fields graph
  have order : graph.order = ["b", "b", "d"] ++ "a" :: ["c"] := by decide +kernel
  have needs : graph.needs "a" = ["c"] := by decide +kernel
  refine ⟨?_, ?_, ?_⟩
  · rw [order]
    decide
  · intro ordered
    have first := ordered _ _ _ order
    rw [needs] at first
    exact absurd first (by decide)
  · intro inverse
    have entered : "a" ∈ graph.neededBy "b" := by decide +kernel
    rw [inverse, needs] at entered
    exact absurd entered (by decide)

end Engine

end Formula
