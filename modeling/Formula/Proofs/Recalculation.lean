import Formula.Recalculation
import Formula.Proofs.Dependency.Graph
import Formula.Proofs.Evaluation.Noninterference

/-!
A recalculation is a solution: what came out of a field is what comes out of its formula in the
values at the end. A field is evaluated when all that its formula refers to is settled, and no later
step changes those.
-/

namespace Formula

/-! ### Evaluating in other values -/

namespace Context

theorem resolve_scope_congr (context : Context) {first second : Record String Value} {name : String}
    (same : Record.get? name first = Record.get? name second) :
    (context.scope first).resolve name = (context.scope second).resolve name := by
  unfold resolve
  simp only [scope, same]
  rfl

end Context

namespace Engine

theorem evaluate_scope_congr (limits : Limits) (host : Host) (context : Context) (formula : String)
    {first second : Record String Value}
    (agree : ∀ name, Reads { limits, host } formula name →
      Record.get? name first = Record.get? name second) :
    Engine.evaluate { limits, host } formula (context.scope first) =
      Engine.evaluate { limits, host } formula (context.scope second) := by
  unfold evaluate
  cases parses : Engine.parse { limits, host } formula with
  | error e => rfl
  | ok parsed =>
      have data : Context.SameData (context.scope first) (context.scope second) := ⟨rfl, rfl⟩
      have value := parsed.expr.value_congr data limits.maxDepth host fun name mentions =>
        context.resolve_scope_congr (agree name ⟨parsed, parses, mentions⟩)
      simp only [evaluateTree, value]

end Engine

namespace Recalculation

/-! ### What a field has -/

/-- A recalculation has the outcome of a field: its value and no error, or its fallback and the
error. -/
def Has (r : Recalculation) (field : CalculatedField) : Outcome → Prop
  | .value v => Record.get? field.id r.values = some v ∧ Record.get? field.id r.errors = none
  | .error e =>
      Record.get? field.id r.values = some field.fallback ∧
        Record.get? field.id r.errors = some e

/-- Two recalculations have the same value and the same error under a name. -/
def SameAt (r r' : Recalculation) (name : String) : Prop :=
  Record.get? name r.values = Record.get? name r'.values ∧
    Record.get? name r.errors = Record.get? name r'.errors

theorem SameAt.trans {r₁ r₂ r₃ : Recalculation} {name : String} (first : r₁.SameAt r₂ name)
    (second : r₂.SameAt r₃ name) : r₁.SameAt r₃ name :=
  ⟨first.1.trans second.1, first.2.trans second.2⟩

theorem Has.of_sameAt {r r' : Recalculation} {field : CalculatedField} {outcome : Outcome}
    (has : r.Has field outcome) (same : r.SameAt r' field.id) : r'.Has field outcome := by
  obtain ⟨values, errors⟩ := same
  cases outcome <;> simpa only [Has, values, errors] using has

theorem sameAt_note (r : Recalculation) (field : CalculatedField) (outcome : Outcome)
    {name : String} (other : field.id ≠ name) : r.SameAt (r.note field outcome) name := by
  cases outcome with
  | value v => exact ⟨(Record.get?_put_of_ne other v r.values).symm, rfl⟩
  | error e =>
      exact ⟨(Record.get?_put_of_ne other field.fallback r.values).symm,
        (Record.get?_put_of_ne other e r.errors).symm⟩

theorem has_note {r : Recalculation} {field : CalculatedField} (outcome : Outcome)
    (fresh : Record.get? field.id r.errors = none) : (r.note field outcome).Has field outcome := by
  cases outcome with
  | value v => exact ⟨Record.get?_put_self field.id v r.values, fresh⟩
  | error e =>
      exact ⟨Record.get?_put_self field.id field.fallback r.values,
        Record.get?_put_self field.id e r.errors⟩

/-! ### Evaluating field after field -/

theorem step_cases {engine : Engine} {context : Context} {r r' : Recalculation}
    {field : CalculatedField} (stepped : step engine context r field = .ok r') :
    ∃ outcome, engine.evaluate field.formula (context.scope r.values) = .ok outcome ∧
      r' = r.note field outcome := by
  unfold step at stepped
  cases evaluated : engine.evaluate field.formula (context.scope r.values) with
  | error d =>
      rw [evaluated] at stepped
      cases stepped
  | ok outcome =>
      rw [evaluated] at stepped
      cases stepped
      exact ⟨outcome, rfl, rfl⟩

theorem run_cons {engine : Engine} {context : Context} {r r' : Recalculation}
    {field : CalculatedField} {rest : List CalculatedField}
    (ran : (field :: rest).foldlM (step engine context) r = .ok r') :
    ∃ outcome, engine.evaluate field.formula (context.scope r.values) = .ok outcome ∧
      rest.foldlM (step engine context) (r.note field outcome) = .ok r' := by
  rw [List.foldlM_cons] at ran
  cases stepped : step engine context r field with
  | error d =>
      rw [stepped] at ran
      cases ran
  | ok next =>
      rw [stepped] at ran
      obtain ⟨outcome, evaluated, rfl⟩ := step_cases stepped
      exact ⟨outcome, evaluated, ran⟩

theorem sameAt_run {engine : Engine} {context : Context} {fields : List CalculatedField}
    {r r' : Recalculation} (ran : fields.foldlM (step engine context) r = .ok r') {name : String}
    (other : name ∉ fields.map (·.id)) : r.SameAt r' name := by
  induction fields generalizing r with
  | nil =>
      cases ran
      exact ⟨rfl, rfl⟩
  | cons field rest ih =>
      obtain ⟨outcome, -, ran⟩ := run_cons ran
      rw [List.map_cons, List.mem_cons, not_or] at other
      exact (sameAt_note r field outcome (Ne.symm other.1)).trans (ih ran other.2)

/-- When no formula reads a name that is still to be settled, every field has at the end what its
formula has in the values at the end. -/
theorem has_run {limits : Limits} {host : Host} {context : Context} {fields : List CalculatedField}
    {r r' : Recalculation} (ran : fields.foldlM (step { limits, host } context) r = .ok r')
    (distinct : (fields.map (·.id)).Nodup)
    (fresh : ∀ name, name ∈ fields.map (·.id) → Record.get? name r.errors = none)
    (settled : ∀ before field after, fields = before ++ field :: after →
      ∀ name, Engine.Reads { limits, host } field.formula name → name ∉ (field :: after).map (·.id))
    {field : CalculatedField} (member : field ∈ fields) :
    ∃ outcome,
      Engine.evaluate { limits, host } field.formula (context.scope r'.values) = .ok outcome ∧
        r'.Has field outcome := by
  induction fields generalizing r with
  | nil => cases member
  | cons first rest ih =>
      obtain ⟨outcome, evaluated, rest_ran⟩ := run_cons ran
      rw [List.map_cons, List.nodup_cons] at distinct
      rcases List.mem_cons.mp member with rfl | later
      · refine ⟨outcome, ?_, ?_⟩
        · rw [← evaluated]
          apply Engine.evaluate_scope_congr
          intro name reads
          exact (sameAt_run ran (settled [] field rest rfl name reads)).1.symm
        · have noted := has_note outcome (fresh field.id List.mem_cons_self)
          exact noted.of_sameAt (sameAt_run rest_ran distinct.1)
      · apply ih rest_ran distinct.2 ?_ ?_ later
        · intro name inside
          have other : first.id ≠ name := fun same => distinct.1 (same ▸ inside)
          rw [← (sameAt_note r first outcome other).2]
          exact fresh name (List.mem_cons_of_mem _ inside)
        · intro before field after split
          exact settled (first :: before) field after (by rw [split, List.cons_append])

/-! ### Circular fields -/

theorem sameAt_circular (fields : List CalculatedField) (r : Recalculation) {name : String}
    (other : name ∉ fields.map (·.id)) : r.SameAt (fields.foldl noteCircular r) name := by
  induction fields generalizing r with
  | nil => exact ⟨rfl, rfl⟩
  | cons field rest ih =>
      rw [List.map_cons, List.mem_cons, not_or] at other
      exact (sameAt_note r field _ (Ne.symm other.1)).trans (ih (r.noteCircular field) other.2)

theorem has_circular {fields : List CalculatedField} (distinct : (fields.map (·.id)).Nodup)
    (r : Recalculation) {field : CalculatedField} (member : field ∈ fields) :
    (fields.foldl noteCircular r).Has field (.error (.circular field.id)) := by
  induction fields generalizing r with
  | nil => cases member
  | cons first rest ih =>
      rw [List.map_cons, List.nodup_cons] at distinct
      rw [List.foldl_cons]
      rcases List.mem_cons.mp member with rfl | later
      · have noted : (r.noteCircular field).Has field (.error (.circular field.id)) :=
          ⟨Record.get?_put_self _ _ _, Record.get?_put_self _ _ _⟩
        exact noted.of_sameAt (sameAt_circular rest _ distinct.1)
      · exact ih distinct.2 (r.noteCircular first) later

end Recalculation

/-! ### The whole recalculation -/

namespace CalculatedField

/-- The fields of some names. -/
def named (fields : List CalculatedField) (ids : List String) : List CalculatedField :=
  ids.filterMap fun id =>
    Record.get? id (Record.ofList (fields.map fun field => (field.id, field)))

variable {fields : List CalculatedField}

theorem get?_byId (distinct : (fields.map (·.id)).Nodup) {field : CalculatedField}
    (member : field ∈ fields) :
    Record.get? field.id (Record.ofList (fields.map fun field => (field.id, field))) =
      some field := by
  apply Record.get?_ofList_of_mem
  · simpa [Record.keys, Function.comp_def] using distinct
  · exact List.mem_map.mpr ⟨field, member, rfl⟩

theorem map_id_named (distinct : (fields.map (·.id)).Nodup) {ids : List String}
    (declared : ids ⊆ fields.map (·.id)) : (named fields ids).map (·.id) = ids := by
  induction ids with
  | nil => rfl
  | cons id rest ih =>
      obtain ⟨field, member, rfl⟩ := List.mem_map.mp (declared List.mem_cons_self)
      simp only [named, List.filterMap_cons, get?_byId distinct member, List.map_cons]
      exact congrArg _ (ih fun name inside => declared (List.mem_cons_of_mem _ inside))

theorem mem_named (distinct : (fields.map (·.id)).Nodup) {ids : List String}
    {field : CalculatedField} (member : field ∈ fields) (listed : field.id ∈ ids) :
    field ∈ named fields ids :=
  List.mem_filterMap.mpr ⟨field.id, listed, get?_byId distinct member⟩

theorem mem_of_mem_named (distinct : (fields.map (·.id)).Nodup) {ids : List String}
    (declared : ids ⊆ fields.map (·.id)) {field : CalculatedField}
    (member : field ∈ named fields ids) : field ∈ fields := by
  obtain ⟨id, listed, found⟩ := List.mem_filterMap.mp member
  obtain ⟨known, inside, rfl⟩ := List.mem_map.mp (declared listed)
  rw [get?_byId distinct inside] at found
  cases found
  exact inside

end CalculatedField

namespace Engine

open CalculatedField

theorem recalculate_cases {engine : Engine} {fields : List CalculatedField}
    {given : Record String Value} {context : Context} {r : Recalculation}
    (returned : engine.recalculate fields given context = .ok r) :
    ∃ placed, (named fields (engine.dependencies fields).order).foldlM
        (Recalculation.step engine context) { values := Record.update context.fields given } =
          .ok placed ∧
      r = (named fields (engine.dependencies fields).cyclic).foldl Recalculation.noteCircular
        placed := by
  unfold recalculate at returned
  cases ran : (named fields (engine.dependencies fields).order).foldlM
      (Recalculation.step engine context) { values := Record.update context.fields given } with
  | error d =>
      simp only [named] at ran
      simp only [ran] at returned
      cases returned
  | ok placed =>
      refine ⟨placed, rfl, ?_⟩
      simp only [named] at ran
      simp only [ran] at returned
      cases returned
      rfl

/-- In the order of dependencies no formula reads a name that is still to be settled. -/
theorem order_settled {engine : Engine} {fields : List CalculatedField}
    (distinct : (fields.map (·.id)).Nodup) {before after : List CalculatedField}
    {field : CalculatedField}
    (split : named fields (engine.dependencies fields).order = before ++ field :: after)
    {name : String} (reads : engine.Reads field.formula name) :
    name ∉ (field :: after).map (·.id) := by
  obtain ⟨nodup, placed, ordered⟩ := order_dependencies engine distinct
  have declared : (engine.dependencies fields).order ⊆ fields.map (·.id) :=
    fun id member => ((placed id).mp member).1
  have ids : (engine.dependencies fields).order =
      before.map (·.id) ++ field.id :: after.map (·.id) := by
    rw [← map_id_named distinct declared, split, List.map_append, List.map_cons]
  have known : field ∈ fields :=
    mem_of_mem_named distinct declared (split ▸ List.mem_append_right _ List.mem_cons_self)
  intro later
  have needed : name ∈ (engine.dependencies fields).needs field.id := by
    refine (mem_needs_dependencies distinct).mpr ⟨field, known, rfl, declared ?_, reads⟩
    exact ids ▸ List.mem_append_right _ later
  rw [ids, List.nodup_append] at nodup
  exact nodup.2.2 name (ordered _ _ _ ids name needed) name later rfl

/-- A field in the order reads no circular field. -/
theorem not_reads_cyclic {engine : Engine} {fields : List CalculatedField}
    (distinct : (fields.map (·.id)).Nodup) {field : CalculatedField} (member : field ∈ fields)
    (listed : field.id ∈ (engine.dependencies fields).order) {name : String}
    (reads : engine.Reads field.formula name) : name ∉ (engine.dependencies fields).cyclic := by
  obtain ⟨-, placed, -⟩ := order_dependencies engine distinct
  intro stuck
  obtain ⟨declared, missing⟩ := mem_cyclic_dependencies.mp stuck
  have needed := (mem_needs_dependencies distinct).mpr ⟨field, member, rfl, declared, reads⟩
  exact missing (((placed field.id).mp listed).2 name needed)

/-- A recalculation is a solution of its formulas. Every field in the order has what its formula
gives in the values at the end: the value and no error, or the fallback and the error. Every field
that a circular reference holds up has its fallback and an error about dependencies. Other names
keep what they were given, and have no errors. -/
theorem recalculate_solution (limits : Limits) (host : Host) (fields : List CalculatedField)
    (given : Record String Value) (context : Context) (r : Recalculation)
    (distinct : (fields.map (·.id)).Nodup)
    (returned : recalculate { limits, host } fields given context = .ok r) :
    let graph := dependencies { limits, host } fields
    (∀ field, field ∈ fields → field.id ∈ graph.order →
      (∃ v, evaluate { limits, host } field.formula (context.scope r.values) = .ok (.value v) ∧
        Record.get? field.id r.values = some v ∧ Record.get? field.id r.errors = none) ∨
      ∃ e, evaluate { limits, host } field.formula (context.scope r.values) = .ok (.error e) ∧
        Record.get? field.id r.values = some field.fallback ∧
        Record.get? field.id r.errors = some e) ∧
    (∀ field, field ∈ fields → field.id ∈ graph.cyclic →
      Record.get? field.id r.values = some field.fallback ∧
        ∃ e, Record.get? field.id r.errors = some e ∧ e.kind = "dependency") ∧
    ∀ name, name ∉ fields.map (·.id) →
      Record.get? name r.values = Record.get? name (Record.update context.fields given) ∧
        Record.get? name r.errors = none := by
  intro graph
  obtain ⟨order_nodup, placed_iff, -⟩ := order_dependencies { limits, host } distinct
  have order_declared : graph.order ⊆ fields.map (·.id) :=
    fun id member => ((placed_iff id).mp member).1
  have cyclic_declared : graph.cyclic ⊆ fields.map (·.id) :=
    fun id member => (mem_cyclic_dependencies.mp member).1
  have order_ids := map_id_named distinct order_declared
  have cyclic_ids := map_id_named distinct cyclic_declared
  obtain ⟨placed, ran, rfl⟩ := recalculate_cases returned
  refine ⟨?_, ?_, ?_⟩
  · intro field member listed
    obtain ⟨outcome, evaluated, has⟩ := Recalculation.has_run ran (order_ids.symm ▸ order_nodup)
      (fun _ _ => rfl) (fun before field after split name reads =>
        order_settled distinct split reads) (mem_named distinct member listed)
    have apart : field.id ∉ (named fields graph.cyclic).map (·.id) := by
      rw [cyclic_ids]
      exact fun stuck => (mem_cyclic_dependencies.mp stuck).2 listed
    -- the circular fields come last, and no formula in the order reads one of them
    have agree : ∀ name, Reads { limits, host } field.formula name →
        Record.get? name placed.values =
          Record.get? name ((named fields graph.cyclic).foldl Recalculation.noteCircular
            placed).values := by
      intro name reads
      apply (Recalculation.sameAt_circular _ placed _).1
      rw [cyclic_ids]
      exact not_reads_cyclic distinct member listed reads
    rw [evaluate_scope_congr limits host context field.formula agree] at evaluated
    have final := has.of_sameAt (Recalculation.sameAt_circular _ placed apart)
    cases outcome with
    | value v => exact .inl ⟨v, evaluated, final⟩
    | error e => exact .inr ⟨e, evaluated, final⟩
  · intro field member listed
    have has := Recalculation.has_circular (cyclic_ids.symm ▸ nodup_cyclic distinct) placed
      (mem_named distinct member listed)
    exact ⟨has.1, _, has.2, rfl⟩
  · intro name other
    have first := Recalculation.sameAt_run ran (order_ids ▸ fun member =>
      other (order_declared member))
    have second := Recalculation.sameAt_circular _ placed (cyclic_ids ▸ fun member =>
      other (cyclic_declared member))
    have same := first.trans second
    exact ⟨same.1.symm, same.2.symm⟩

theorem recalculate_solution_prices :
    let fields : List CalculatedField :=
      [⟨"total", "price * 2", .null⟩, ⟨"loop", "loop", .text "none"⟩]
    let context : Context := {
      clock := .ofMoment .universal (.atMidnight ⟨2024, 1, 15, by decide⟩ none) }
    ∃ r, recalculate { host := .universal } fields [("price", .int 3)] context = .ok r ∧
      Record.get? "loop" r.values = some (.text "none") ∧
      (∃ e, Record.get? "loop" r.errors = some e ∧ e.kind = "dependency") ∧
      Record.get? "price" r.values = some (.int 3) := by
  intro fields context
  have returns :
      (recalculate { host := .universal } fields [("price", .int 3)] context).toBool := by
    decide +kernel
  cases returned : recalculate { host := .universal } fields [("price", .int 3)] context with
  | error d => simp [returned, Except.toBool] at returns
  | ok r =>
      obtain ⟨-, circular, others⟩ :=
        recalculate_solution .default .universal fields _ context r (by decide) returned
      have loop := circular ⟨"loop", "loop", .text "none"⟩ (by simp [fields])
        (by decide +kernel)
      exact ⟨r, rfl, loop.1, loop.2, (others "price" (by decide)).1⟩

end Engine

end Formula
