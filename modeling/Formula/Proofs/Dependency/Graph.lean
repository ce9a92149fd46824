import Formula.Proofs.Dependency.Placement
import Formula.Proofs.Expr.References
import Mathlib.Data.Fintype.Pigeonhole
import Mathlib.Data.Set.Finite.List
import Mathlib.Logic.Relation

/-!
The graph of calculated fields: references and their inverse, the order, and the fields that a
circular reference holds up.
-/

namespace Formula

open Relation

/-- A formula parses and refers to a name. -/
def Engine.Reads (engine : Engine) (formula name : String) : Prop :=
  ∃ parsed, engine.parse formula = .ok parsed ∧ parsed.expr.Mentions name

namespace DependencyGraph

/-- The fields that a field refers to. -/
def needs (graph : DependencyGraph) (id : String) : List String :=
  (Record.get? id graph.dependencies).getD []

/-- The fields that refer to a field. -/
def neededBy (graph : DependencyGraph) (id : String) : List String :=
  (Record.get? id graph.dependents).getD []

/-! ### Inverting references -/

theorem get?_addDependent (id name other : String) (dependents : Record String (List String)) :
    (Record.get? other (addDependent id dependents name)).getD [] =
      (Record.get? other dependents).getD [] ++ if name = other then [id] else [] := by
  rw [addDependent, Record.get?_put]
  by_cases same : name = other
  · simp [same]
  · simp [same]

theorem get?_foldl_addDependent (id other : String) (names : List String)
    (dependents : Record String (List String)) :
    (Record.get? other (names.foldl (addDependent id) dependents)).getD [] =
      (Record.get? other dependents).getD [] ++ List.replicate (names.count other) id := by
  induction names generalizing dependents with
  | nil => simp
  | cons name rest ih =>
      rw [List.foldl_cons, ih, get?_addDependent, List.append_assoc, List.count_cons]
      by_cases same : name = other
      · simp [same, List.replicate_succ]
      · simp [same]

theorem get?_invert (ids : List String) (references : List (String × List String))
    (other : String) :
    (Record.get? other (invert ids references)).getD [] =
      references.flatMap fun field => List.replicate (field.2.count other) field.1 := by
  have start : (Record.get? other (Record.ofList (ids.map fun id => (id, ([] : List String))))).getD
      [] = [] := by
    rw [Record.get?_ofList_map (fun _ => []) ids]
    split <;> rfl
  have run : ∀ dependents : Record String (List String),
      (Record.get? other (references.foldl
        (fun dependents field => field.2.foldl (addDependent field.1) dependents)
        dependents)).getD [] =
      (Record.get? other dependents).getD [] ++
        references.flatMap fun field => List.replicate (field.2.count other) field.1 := by
    induction references with
    | nil => simp
    | cons field rest ih =>
        intro dependents
        rw [List.foldl_cons, ih, get?_foldl_addDependent, List.append_assoc, List.flatMap_cons]
  rw [invert, run, start, List.nil_append]

theorem mem_invert {ids : List String} {references : List (String × List String)}
    {id other : String} :
    other ∈ (Record.get? id (invert ids references)).getD [] ↔
      ∃ names, (other, names) ∈ references ∧ id ∈ names := by
  rw [get?_invert, List.mem_flatMap]
  constructor
  · rintro ⟨⟨name, names⟩, member, occurs⟩
    obtain ⟨some, rfl⟩ := List.mem_replicate.mp occurs
    exact ⟨names, member, List.count_pos_iff.mp (Nat.pos_of_ne_zero some)⟩
  · rintro ⟨names, member, refers⟩
    have some := Nat.pos_iff_ne_zero.mp (List.count_pos_iff.mpr refers)
    exact ⟨(other, names), member, List.mem_replicate.mpr ⟨some, rfl⟩⟩

theorem nodup_invert {ids : List String} {references : List (String × List String)}
    (distinct : (references.map Prod.fst).Nodup)
    (once : ∀ field, field ∈ references → field.2.Nodup) (id : String) :
    ((Record.get? id (invert ids references)).getD []).Nodup := by
  rw [get?_invert, List.nodup_flatMap]
  constructor
  · intro field member
    rw [List.nodup_replicate]
    exact List.nodup_iff_count_le_one.mp (once field member) id
  · refine (List.pairwise_map.mp distinct).imp fun different name first second => different ?_
    exact (List.eq_of_mem_replicate first).symm.trans (List.eq_of_mem_replicate second)

/-! ### The order of a graph -/

section Order

variable {references : List (String × List String)}

theorem needs_ofReferences (distinct : (references.map Prod.fst).Nodup) {id : String}
    {names : List String} (member : (id, names) ∈ references) :
    (ofReferences references).needs id = names := by
  rw [needs, ofReferences, Record.get?_ofList_of_mem distinct member, Option.getD_some]

theorem needs_ofReferences_of_notMem {id : String} (absent : id ∉ references.map Prod.fst) :
    (ofReferences references).needs id = [] := by
  have none : Record.get? id (Record.ofList references) = none := by
    rw [Record.get?_ofList, Record.get?_eq_none_iff]
    simpa only [Record.keys, List.map_reverse, List.mem_reverse] using absent
  rw [needs, ofReferences, none, Option.getD_none]

theorem mem_needs_ofReferences (distinct : (references.map Prod.fst).Nodup) {id other : String} :
    other ∈ (ofReferences references).needs id ↔
      ∃ names, (id, names) ∈ references ∧ other ∈ names := by
  by_cases declared : id ∈ references.map Prod.fst
  · obtain ⟨⟨id, names⟩, member, rfl⟩ := List.mem_map.mp declared
    rw [needs_ofReferences distinct member]
    refine ⟨fun refers => ⟨names, member, refers⟩, ?_⟩
    rintro ⟨others, entry, refers⟩
    have same := List.inj_on_of_nodup_map distinct entry member rfl
    rwa [← (Prod.mk.inj same).2]
  · rw [needs_ofReferences_of_notMem declared]
    constructor
    · intro none
      cases none
    · rintro ⟨names, member, -⟩
      exact absurd (List.mem_map_of_mem member) declared

theorem linked_ofReferences (distinct : (references.map Prod.fst).Nodup)
    (once : ∀ field, field ∈ references → field.2.Nodup) :
    Placement.Linked (references.map Prod.fst) (ofReferences references).needs
      (invert (references.map Prod.fst) references) := by
  refine ⟨?_, nodup_invert distinct once, ?_⟩
  · intro id
    by_cases declared : id ∈ references.map Prod.fst
    · obtain ⟨field, member, rfl⟩ := List.mem_map.mp declared
      rw [needs_ofReferences distinct member]
      exact once field member
    · rw [needs_ofReferences_of_notMem declared]
      exact List.nodup_nil
  · intro id other
    rw [mem_invert, mem_needs_ofReferences distinct]
    refine ⟨fun found => ⟨?_, found⟩, fun found => found.2⟩
    obtain ⟨names, member, -⟩ := found
    exact List.mem_map_of_mem member

theorem consistent_start (distinct : (references.map Prod.fst).Nodup) :
    Placement.Consistent (references.map Prod.fst) (ofReferences references).needs []
      (Placement.start (references.map Prod.fst) (Record.ofList references)) := by
  have unplaced : ∀ id, Placement.unplaced (ofReferences references).needs [] id =
      ((ofReferences references).needs id).length := by
    simp [Placement.unplaced]
  refine ⟨?_, ?_, ?_, ?_⟩
  · exact distinct.filter _
  · intro id declared
    rw [Placement.left, Placement.start, Record.get?_ofList_map (fun id =>
      ((((Record.get? id (Record.ofList references)).getD []).length : Nat) : Int)),
      if_pos declared, Option.getD_some, unplaced]
    rfl
  · intro id
    rw [unplaced]
    simp [Placement.start, needs, ofReferences]
  · intro before id after split
    cases before <;> cases split

/-- What the order of a graph is: the fields that refer to nothing out of order, each after all that
it refers to. -/
theorem order_ofReferences (distinct : (references.map Prod.fst).Nodup)
    (once : ∀ field, field ∈ references → field.2.Nodup) :
    let graph := ofReferences references
    graph.order.Nodup ∧
    (∀ id, id ∈ graph.order ↔
      id ∈ references.map Prod.fst ∧ ∀ name, name ∈ graph.needs id → name ∈ graph.order) ∧
    ∀ before id after, graph.order = before ++ id :: after →
      ∀ name, name ∈ graph.needs id → name ∈ before := by
  obtain ⟨waiting, done⟩ := (consistent_start distinct).order (linked_ofReferences distinct once)
  rw [List.nil_append] at done
  refine ⟨?_, ?_, done.ordered⟩
  · have nodup := done.nodup
    rwa [List.append_nil] at nodup
  · intro id
    have placed := done.mem_iff id
    rwa [List.append_nil, Placement.unplaced_eq_zero_iff] at placed

end Order

/-! ### Circular references -/

/-- A field refers to another one. -/
def Refers (graph : DependencyGraph) (id name : String) : Prop := name ∈ graph.needs id

/-- From a field a circular reference can be reached. -/
def HeldUp (graph : DependencyGraph) (id : String) : Prop :=
  ∃ loop, ReflTransGen graph.Refers id loop ∧ TransGen graph.Refers loop loop

/-- Following references within a finite list comes back to some field. -/
theorem heldUp_of_stuck {graph : DependencyGraph} {stuck : List String}
    (next : ∀ id, id ∈ stuck → ∃ name, name ∈ stuck ∧ graph.Refers id name) {id : String}
    (member : id ∈ stuck) : graph.HeldUp id := by
  choose! follow inside refers using next
  let step : { name // name ∈ stuck } → { name // name ∈ stuck } :=
    fun name => ⟨follow name, inside name name.2⟩
  have walk : ∀ (count : Nat) (name : { name // name ∈ stuck }),
      ReflTransGen graph.Refers name.1 (step^[count] name).1 := by
    intro count
    induction count with
    | zero => exact fun _ => .refl
    | succ count ih => exact fun name => .head (refers name.1 name.2) (ih (step name))
  have : Finite { name // name ∈ stuck } := stuck.finite_toSet
  obtain ⟨first, second, different, same⟩ :=
    Finite.exists_ne_map_eq_of_infinite fun count : Nat => step^[count] ⟨id, member⟩
  wlog earlier : first < second generalizing first second
  · exact this second first different.symm same.symm (by omega)
  obtain ⟨more, rfl⟩ : ∃ more, second = (more + 1) + first := ⟨second - first - 1, by omega⟩
  rw [Function.iterate_add_apply] at same
  let loop := step^[first] ⟨id, member⟩
  refine ⟨loop.1, walk first ⟨id, member⟩, .head' (refers loop.1 loop.2) ?_⟩
  have back := walk more (step loop)
  rwa [← Function.iterate_succ_apply, ← same] at back

/-- A field that comes after all that it refers to waits for no circular reference. -/
theorem not_heldUp_of_ordered {graph : DependencyGraph} (distinct : graph.order.Nodup)
    (ordered : ∀ before id after, graph.order = before ++ id :: after →
      ∀ name, name ∈ graph.needs id → name ∈ before) {id : String} (placed : id ∈ graph.order) :
    ¬ graph.HeldUp id := by
  have descends : ∀ id, id ∈ graph.order → ∀ name, graph.Refers id name →
      name ∈ graph.order ∧ graph.order.idxOf name < graph.order.idxOf id := by
    intro id placed name refers
    obtain ⟨before, after, split⟩ := List.append_of_mem placed
    have earlier := ordered before id after split name refers
    have absent : id ∉ before := by
      rw [split, List.nodup_append] at distinct
      exact fun member => distinct.2.2 id member id List.mem_cons_self rfl
    rw [split, List.idxOf_append_of_mem earlier, List.idxOf_append_of_notMem absent]
    have := List.idxOf_lt_length_of_mem earlier
    exact ⟨List.mem_append_left _ earlier, by omega⟩
  rintro ⟨loop, reached, circular⟩
  have inside : loop ∈ graph.order := by
    clear circular
    induction reached with
    | refl => exact placed
    | tail _ refers ih => exact (descends _ ih _ refers).1
  have below : ∀ name, TransGen graph.Refers loop name →
      name ∈ graph.order ∧ graph.order.idxOf name < graph.order.idxOf loop := by
    intro name path
    induction path with
    | single refers => exact descends loop inside _ refers
    | tail _ refers ih =>
        have := descends _ ih.1 _ refers
        exact ⟨this.1, by omega⟩
  exact absurd (below loop circular).2 (lt_irrefl _)

theorem mem_cyclic_ofReferences {references : List (String × List String)}
    (distinct : (references.map Prod.fst).Nodup)
    (once : ∀ field, field ∈ references → field.2.Nodup)
    (declared : ∀ field, field ∈ references → field.2 ⊆ references.map Prod.fst) (id : String) :
    id ∈ (ofReferences references).cyclic ↔ (ofReferences references).HeldUp id := by
  obtain ⟨nodup, placed, ordered⟩ := order_ofReferences distinct once
  have mem_cyclic : ∀ id, id ∈ (ofReferences references).cyclic ↔
      id ∈ references.map Prod.fst ∧ id ∉ (ofReferences references).order := by
    simp [ofReferences]
  have known : ∀ id name, (ofReferences references).Refers id name →
      id ∈ references.map Prod.fst ∧ name ∈ references.map Prod.fst := by
    intro id name refers
    obtain ⟨names, member, occurs⟩ := (mem_needs_ofReferences distinct).mp refers
    exact ⟨List.mem_map_of_mem member, declared _ member occurs⟩
  constructor
  · apply heldUp_of_stuck
    intro id stuck
    rw [mem_cyclic, placed] at stuck
    obtain ⟨member, waits⟩ := stuck
    simp only [member, true_and, not_forall] at waits
    obtain ⟨name, refers, missing⟩ := waits
    exact ⟨name, (mem_cyclic name).mpr ⟨(known id name refers).2, missing⟩, refers⟩
  · intro heldUp
    rw [mem_cyclic]
    refine ⟨?_, fun member => not_heldUp_of_ordered nodup ordered member heldUp⟩
    obtain ⟨loop, reached, circular⟩ := heldUp
    have path := TransGen.trans_right reached circular
    obtain ⟨name, refers, -⟩ := TransGen.head'_iff.mp path
    exact (known id name refers).1

/-! ### References of formulas -/

theorem fields_validate (engine : Engine) (formula : String) (known : Option (List String)) :
    (engine.validate formula known).fields =
      match engine.parse formula with
      | .ok parsed => parsed.expr.fieldNames
      | .error _ => [] := by
  unfold Engine.validate
  cases engine.parse formula <;> rfl

theorem mem_referred {engine : Engine} {ids : List String} {formula name : String} :
    name ∈ referred engine ids formula ↔ name ∈ ids ∧ engine.Reads formula name := by
  rw [referred, fields_validate, List.mem_filter, List.contains_iff_mem, and_comm, Engine.Reads]
  cases engine.parse formula with
  | error e => simp
  | ok parsed => simp [Expr.mem_fieldNames]

theorem nodup_referred (engine : Engine) (ids : List String) (formula : String) :
    (referred engine ids formula).Nodup := by
  rw [referred, fields_validate]
  apply List.Nodup.filter
  cases engine.parse formula with
  | error e => exact List.nodup_nil
  | ok parsed => exact parsed.expr.nodup_fieldNames

end DependencyGraph

namespace Engine

/-- The references of all fields, from which their graph is built. -/
def referencesOf (engine : Engine) (fields : List CalculatedField) :
    List (String × List String) :=
  fields.map fun field =>
    (field.id, DependencyGraph.referred engine (fields.map (·.id)) field.formula)

variable (engine : Engine) (fields : List CalculatedField)

theorem dependencies_eq :
    engine.dependencies fields = .ofReferences (engine.referencesOf fields) := rfl

theorem map_fst_referencesOf : (engine.referencesOf fields).map Prod.fst = fields.map (·.id) := by
  simp [referencesOf]

variable {engine fields}

theorem nodup_of_mem_referencesOf {entry : String × List String}
    (member : entry ∈ engine.referencesOf fields) : entry.2.Nodup := by
  obtain ⟨field, -, rfl⟩ := List.mem_map.mp member
  exact DependencyGraph.nodup_referred engine _ field.formula

theorem subset_of_mem_referencesOf {entry : String × List String}
    (member : entry ∈ engine.referencesOf fields) : entry.2 ⊆ fields.map (·.id) := by
  obtain ⟨field, -, rfl⟩ := List.mem_map.mp member
  exact fun name refers => (DependencyGraph.mem_referred.mp refers).1

theorem mem_referencesOf {id name : String} :
    (∃ names, (id, names) ∈ engine.referencesOf fields ∧ name ∈ names) ↔
      ∃ field ∈ fields, field.id = id ∧ name ∈ fields.map (·.id) ∧
        engine.Reads field.formula name := by
  simp only [referencesOf, List.mem_map, Prod.mk.injEq]
  constructor
  · rintro ⟨names, ⟨field, member, rfl, rfl⟩, refers⟩
    obtain ⟨declared, reads⟩ := DependencyGraph.mem_referred.mp refers
    exact ⟨field, member, rfl, List.mem_map.mp declared, reads⟩
  · rintro ⟨field, member, rfl, declared, reads⟩
    exact ⟨_, ⟨field, member, rfl, rfl⟩,
      DependencyGraph.mem_referred.mpr ⟨List.mem_map.mpr declared, reads⟩⟩

theorem mem_needs_dependencies (distinct : (fields.map (·.id)).Nodup) {id name : String} :
    name ∈ (engine.dependencies fields).needs id ↔
      ∃ field ∈ fields, field.id = id ∧ name ∈ fields.map (·.id) ∧
        engine.Reads field.formula name := by
  rw [dependencies_eq, DependencyGraph.mem_needs_ofReferences, mem_referencesOf]
  rwa [map_fst_referencesOf]

theorem order_dependencies (engine : Engine) (distinct : (fields.map (·.id)).Nodup) :
    let graph := engine.dependencies fields
    graph.order.Nodup ∧
    (∀ id, id ∈ graph.order ↔
      id ∈ fields.map (·.id) ∧ ∀ name, name ∈ graph.needs id → name ∈ graph.order) ∧
    ∀ before id after, graph.order = before ++ id :: after →
      ∀ name, name ∈ graph.needs id → name ∈ before := by
  rw [← map_fst_referencesOf engine] at distinct
  have spec := DependencyGraph.order_ofReferences distinct fun _ => nodup_of_mem_referencesOf
  rwa [map_fst_referencesOf, ← dependencies_eq] at spec

theorem mem_cyclic_dependencies {id : String} :
    id ∈ (engine.dependencies fields).cyclic ↔
      id ∈ fields.map (·.id) ∧ id ∉ (engine.dependencies fields).order := by
  rw [dependencies_eq, DependencyGraph.ofReferences, ← map_fst_referencesOf engine fields]
  simp

theorem nodup_cyclic (distinct : (fields.map (·.id)).Nodup) :
    (engine.dependencies fields).cyclic.Nodup := by
  rw [← map_fst_referencesOf engine] at distinct
  exact distinct.filter _

/-- The order of calculated fields places each after all that it refers to. Left out are exactly the
fields from which a circular reference can be reached. A field depends on another one as its
formula, if it parses, refers to it. -/
theorem dependencies_order_and_cycles (engine : Engine) (fields : List CalculatedField)
    (distinct : (fields.map (·.id)).Nodup) :
    let graph := engine.dependencies fields
    (graph.order.Nodup ∧ graph.cyclic.Nodup ∧ (∀ id, id ∈ graph.order → id ∉ graph.cyclic) ∧
      ∀ id, id ∈ graph.order ∨ id ∈ graph.cyclic ↔ id ∈ fields.map (·.id)) ∧
    (∀ before id after, graph.order = before ++ id :: after →
      ∀ name, name ∈ graph.needs id → name ∈ before) ∧
    (∀ id, id ∈ graph.cyclic ↔
      ∃ loop, ReflTransGen graph.Refers id loop ∧ TransGen graph.Refers loop loop) ∧
    (∀ id name, name ∈ graph.needs id ↔ id ∈ graph.neededBy name) ∧
    ∀ id name, name ∈ graph.needs id ↔
      ∃ field ∈ fields, field.id = id ∧ name ∈ fields.map (·.id) ∧
        ∃ parsed, engine.parse field.formula = .ok parsed ∧ parsed.expr.Mentions name := by
  intro graph
  obtain ⟨nodup, placed, ordered⟩ := order_dependencies engine distinct
  have distinct' : ((engine.referencesOf fields).map Prod.fst).Nodup := by
    rwa [map_fst_referencesOf]
  have declared : ∀ entry, entry ∈ engine.referencesOf fields →
      entry.2 ⊆ (engine.referencesOf fields).map Prod.fst := by
    rw [map_fst_referencesOf]
    exact fun _ => subset_of_mem_referencesOf
  refine ⟨⟨nodup, ?_, ?_, ?_⟩, ordered, ?_, ?_, fun id name => mem_needs_dependencies distinct⟩
  · exact nodup_cyclic distinct
  · exact fun id member cyclic => (mem_cyclic_dependencies.mp cyclic).2 member
  · intro id
    rw [mem_cyclic_dependencies]
    have declared := (placed id).mp
    tauto
  · exact DependencyGraph.mem_cyclic_ofReferences distinct'
      (fun _ => nodup_of_mem_referencesOf) declared
  · intro id name
    exact (DependencyGraph.mem_needs_ofReferences distinct').trans
      DependencyGraph.mem_invert.symm

theorem dependencies_order_and_cycles_after :
    let fields : List CalculatedField :=
      [⟨"total", "base", .null⟩, ⟨"base", "2", .null⟩, ⟨"loop", "loop", .null⟩,
        ⟨"after", "loop", .null⟩]
    let graph := dependencies { host := .universal } fields
    graph.order = ["base", "total"] ∧
      (∃ loop, ReflTransGen graph.Refers "after" loop ∧ TransGen graph.Refers loop loop) ∧
      "after" ∈ graph.neededBy "loop" := by
  intro fields graph
  obtain ⟨-, -, circular, inverse, -⟩ :=
    dependencies_order_and_cycles { host := .universal } fields (by decide)
  refine ⟨by decide +kernel, ?_, ?_⟩
  · exact (circular "after").mp (by decide +kernel)
  · exact (inverse "after" "loop").mp (by decide +kernel)

end Engine

end Formula
