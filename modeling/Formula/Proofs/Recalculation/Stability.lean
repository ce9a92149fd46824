import Formula.Proofs.Recalculation

/-!
A recalculation depends neither on the order in which its fields are declared nor on what these had
before. Whoever has settled all that a field refers to as another run did evaluates the field as
that run did.
-/

namespace Formula

/-! ### The graph of reordered fields -/

namespace Engine

variable {engine : Engine} {fields fields' : List CalculatedField}

theorem mem_cyclic_iff_heldUp (distinct : (fields.map (·.id)).Nodup) {id : String} :
    id ∈ (engine.dependencies fields).cyclic ↔ (engine.dependencies fields).HeldUp id := by
  rw [← map_fst_referencesOf engine] at distinct
  refine DependencyGraph.mem_cyclic_ofReferences distinct (fun _ => nodup_of_mem_referencesOf) ?_ id
  rw [map_fst_referencesOf]
  exact fun _ => subset_of_mem_referencesOf

theorem refers_perm (distinct : (fields.map (·.id)).Nodup) (perm : fields.Perm fields') :
    (engine.dependencies fields).Refers = (engine.dependencies fields').Refers := by
  have ids := perm.map (·.id)
  funext id name
  simp only [DependencyGraph.Refers, mem_needs_dependencies distinct,
    mem_needs_dependencies (ids.nodup distinct), perm.mem_iff, ids.mem_iff]

/-- The same fields are held up in whatever order they are declared. -/
theorem mem_cyclic_perm (distinct : (fields.map (·.id)).Nodup) (perm : fields.Perm fields')
    {id : String} :
    id ∈ (engine.dependencies fields).cyclic ↔ id ∈ (engine.dependencies fields').cyclic := by
  rw [mem_cyclic_iff_heldUp distinct, mem_cyclic_iff_heldUp ((perm.map (·.id)).nodup distinct),
    DependencyGraph.HeldUp, DependencyGraph.HeldUp, refers_perm distinct perm]

theorem mem_order_iff (distinct : (fields.map (·.id)).Nodup) {id : String} :
    id ∈ (engine.dependencies fields).order ↔
      id ∈ fields.map (·.id) ∧ id ∉ (engine.dependencies fields).cyclic := by
  have declared := ((order_dependencies engine distinct).2.1 id).mp
  rw [mem_cyclic_dependencies]
  tauto

theorem mem_order_perm (distinct : (fields.map (·.id)).Nodup) (perm : fields.Perm fields')
    {id : String} :
    id ∈ (engine.dependencies fields).order ↔ id ∈ (engine.dependencies fields').order := by
  have ids := perm.map (·.id)
  rw [mem_order_iff distinct, mem_order_iff (ids.nodup distinct), mem_cyclic_perm distinct perm,
    ids.mem_iff]

theorem order_declared (distinct : (fields.map (·.id)).Nodup) :
    (engine.dependencies fields).order ⊆ fields.map (·.id) :=
  fun _ placed => ((mem_order_iff distinct).mp placed).1

end Engine

/-! ### Following another run -/

namespace Recalculation

variable {engine : Engine} {context : Context} {r r' : Recalculation}
  {fields : List CalculatedField}

theorem SameAt.symm {name : String} (same : r.SameAt r' name) : r'.SameAt r name :=
  ⟨same.1.symm, same.2.symm⟩

theorem Has.sameAt {field : CalculatedField} {outcome : Outcome} (left : r.Has field outcome)
    (right : r'.Has field outcome) : r.SameAt r' field.id := by
  cases outcome with
  | value v => exact ⟨left.1.trans right.1.symm, left.2.trans right.2.symm⟩
  | error e => exact ⟨left.1.trans right.1.symm, left.2.trans right.2.symm⟩

theorem run_of_evaluate {field : CalculatedField} {rest : List CalculatedField} {outcome : Outcome}
    (evaluated : engine.evaluate field.formula (context.scope r.values) = .ok outcome) :
    (field :: rest).foldlM (step engine context) r =
      rest.foldlM (step engine context) (r.note field outcome) := by
  have stepped : step engine context r field = .ok (r.note field outcome) := by
    rw [step, evaluated]
    rfl
  rw [List.foldlM_cons, stepped]
  rfl

/-- A run comes to what another run, the guide, has, if it starts from the values of the guide under
all names that are read before they are settled. -/
theorem run_follows {limits : Limits} {host : Host} {guide : Recalculation}
    (distinct : (fields.map (·.id)).Nodup)
    (solved : ∀ field, field ∈ fields → ∃ outcome,
      Engine.evaluate { limits, host } field.formula (context.scope guide.values) = .ok outcome ∧
        guide.Has field outcome)
    (settled : ∀ before field after, fields = before ++ field :: after →
      ∀ name, Engine.Reads { limits, host } field.formula name → name ∉ (field :: after).map (·.id))
    (fresh : ∀ name, name ∈ fields.map (·.id) → Record.get? name r.errors = none)
    (agree : ∀ field, field ∈ fields → ∀ name, Engine.Reads { limits, host } field.formula name →
      name ∉ fields.map (·.id) → Record.get? name r.values = Record.get? name guide.values) :
    ∃ r', fields.foldlM (step { limits, host } context) r = .ok r' ∧
      ∀ name, name ∈ fields.map (·.id) → r'.SameAt guide name := by
  induction fields generalizing r with
  | nil => exact ⟨r, rfl, fun name none => nomatch none⟩
  | cons field rest ih =>
      obtain ⟨outcome, evaluated, has⟩ := solved field List.mem_cons_self
      have here : Engine.evaluate { limits, host } field.formula (context.scope r.values) =
          .ok outcome := by
        rw [← evaluated]
        apply Engine.evaluate_scope_congr
        intro name reads
        exact agree field List.mem_cons_self name reads (settled [] field rest rfl name reads)
      have noted : (r.note field outcome).SameAt guide field.id :=
        (has_note outcome (fresh field.id List.mem_cons_self)).sameAt has
      rw [List.map_cons, List.nodup_cons] at distinct
      obtain ⟨r', ran, same⟩ := @ih (r.note field outcome) distinct.2
        (fun other member => solved other (List.mem_cons_of_mem field member))
        (fun before other after split =>
          settled (field :: before) other after (by rw [split, List.cons_append]))
        (fun name member => by
          have other : field.id ≠ name := fun same => distinct.1 (same ▸ member)
          rw [← (sameAt_note r field outcome other).2]
          exact fresh name (List.mem_cons_of_mem field.id member))
        (fun other member name reads outside => by
          by_cases own : field.id = name
          · exact own ▸ noted.1
          · rw [← (sameAt_note r field outcome own).1]
            refine agree other (List.mem_cons_of_mem field member) name reads ?_
            rw [List.map_cons, List.mem_cons, not_or]
            exact ⟨Ne.symm own, outside⟩)
      refine ⟨r', by rw [run_of_evaluate here, ran], ?_⟩
      intro name member
      rcases List.mem_cons.mp member with rfl | later
      · exact (sameAt_run ran distinct.1).symm.trans noted
      · exact same name later

/-! ### The names of values -/

theorem keys_values_note_nodup (field : CalculatedField) (outcome : Outcome)
    (distinct : (Record.keys r.values).Nodup) :
    (Record.keys (r.note field outcome).values).Nodup := by
  cases outcome <;> exact Record.nodup_keys_put distinct _ _

theorem keys_values_run_nodup (ran : fields.foldlM (step engine context) r = .ok r')
    (distinct : (Record.keys r.values).Nodup) : (Record.keys r'.values).Nodup := by
  induction fields generalizing r with
  | nil =>
      cases ran
      exact distinct
  | cons field rest ih =>
      obtain ⟨outcome, -, ran⟩ := run_cons ran
      exact ih ran (keys_values_note_nodup field outcome distinct)

theorem keys_values_circular_nodup (distinct : (Record.keys r.values).Nodup) :
    (Record.keys (fields.foldl noteCircular r).values).Nodup := by
  induction fields generalizing r with
  | nil => exact distinct
  | cons field rest ih => exact ih (keys_values_note_nodup field _ distinct)

end Recalculation

/-! ### Whole recalculations -/

namespace Engine

open CalculatedField Recalculation

variable {limits : Limits} {host : Host} {fields fields' : List CalculatedField}
  {given given' : Record String Value} {context : Context} {r : Recalculation}

theorem recalculate_of_run {engine : Engine} {placed : Recalculation}
    (ran : (named fields (engine.dependencies fields).order).foldlM
      (step engine context) { values := Record.update context.fields given } = .ok placed) :
    engine.recalculate fields given context =
      .ok ((named fields (engine.dependencies fields).cyclic).foldl noteCircular placed) := by
  simp only [named] at ran
  simp only [recalculate, ran]
  rfl

theorem keys_values_recalculate_nodup {engine : Engine}
    (returned : engine.recalculate fields given context = .ok r)
    (distinct : (Record.keys context.fields).Nodup) : (Record.keys r.values).Nodup := by
  obtain ⟨placed, ran, rfl⟩ := recalculate_cases returned
  exact keys_values_circular_nodup
    (keys_values_run_nodup ran (Record.nodup_keys_update distinct given))

/-! #### What a recalculation has -/

theorem map_id_order {engine : Engine} (distinct : (fields.map (·.id)).Nodup) :
    (named fields (engine.dependencies fields).order).map (·.id) =
      (engine.dependencies fields).order :=
  map_id_named distinct (order_declared distinct)

theorem map_id_cyclic {engine : Engine} (distinct : (fields.map (·.id)).Nodup) :
    (named fields (engine.dependencies fields).cyclic).map (·.id) =
      (engine.dependencies fields).cyclic :=
  map_id_named distinct fun _ stuck => (mem_cyclic_dependencies.mp stuck).1

/-- A field of the order has in the run of the order what its formula has in the values of it. -/
theorem has_order_run {placed start : Recalculation} (distinct : (fields.map (·.id)).Nodup)
    (ran : (named fields (dependencies { limits, host } fields).order).foldlM
      (step { limits, host } context) start = .ok placed)
    (fresh : start.errors = []) {field : CalculatedField} (member : field ∈ fields)
    (listed : field.id ∈ (dependencies { limits, host } fields).order) :
    ∃ outcome, evaluate { limits, host } field.formula (context.scope placed.values) = .ok outcome ∧
      placed.Has field outcome := by
  refine has_run ran ?_ ?_ ?_ (mem_named distinct member listed)
  · rw [map_id_order distinct]
    exact (order_dependencies { limits, host } distinct).1
  · intro name inside
    rw [fresh]
    rfl
  · exact fun before other after split name reads => order_settled distinct split reads

theorem has_recalculate_circular {engine : Engine} (distinct : (fields.map (·.id)).Nodup)
    (returned : engine.recalculate fields given context = .ok r) {field : CalculatedField}
    (member : field ∈ fields) (stuck : field.id ∈ (engine.dependencies fields).cyclic) :
    r.Has field (.error (.circular field.id)) := by
  obtain ⟨placed, -, rfl⟩ := recalculate_cases returned
  refine has_circular ?_ placed (mem_named distinct member stuck)
  rw [map_id_cyclic distinct]
  exact nodup_cyclic distinct

/-- Under other names than those of the fields a recalculation has what it starts from. -/
theorem sameAt_recalculate_start {engine : Engine} (distinct : (fields.map (·.id)).Nodup)
    (returned : engine.recalculate fields given context = .ok r) {name : String}
    (other : name ∉ fields.map (·.id)) :
    SameAt { values := Record.update context.fields given } r name := by
  obtain ⟨placed, ran, rfl⟩ := recalculate_cases returned
  refine (sameAt_run ran ?_).trans (sameAt_circular _ placed ?_)
  · rw [map_id_order distinct]
    exact fun listed => other (order_declared distinct listed)
  · rw [map_id_cyclic distinct]
    exact fun stuck => other (mem_cyclic_dependencies.mp stuck).1

/-! #### Two recalculations -/

/-- The run of one order follows that of another order of the same fields. -/
theorem order_run_follows {placed : Recalculation} (distinct : (fields.map (·.id)).Nodup)
    (perm : fields.Perm fields')
    (agree : ∀ name, name ∉ fields.map (·.id) →
      Record.get? name (Record.update context.fields given) =
        Record.get? name (Record.update context.fields given'))
    (ran : (named fields (dependencies { limits, host } fields).order).foldlM
      (step { limits, host } context) { values := Record.update context.fields given } =
        .ok placed) :
    ∃ placed', (named fields' (dependencies { limits, host } fields').order).foldlM
        (step { limits, host } context) { values := Record.update context.fields given' } =
          .ok placed' ∧
      ∀ name, name ∈ (dependencies { limits, host } fields').order →
        placed'.SameAt placed name := by
  have distinct' := (perm.map (·.id)).nodup distinct
  have member : ∀ field, field ∈ named fields' (dependencies { limits, host } fields').order →
      field ∈ fields ∧ field.id ∈ (dependencies { limits, host } fields).order := by
    intro field listed
    refine ⟨perm.mem_iff.mpr (mem_of_mem_named distinct' (order_declared distinct') listed), ?_⟩
    rw [mem_order_perm distinct perm, ← map_id_order distinct']
    exact List.mem_map_of_mem listed
  have run : ∃ placed', (named fields' (dependencies { limits, host } fields').order).foldlM
        (step { limits, host } context) { values := Record.update context.fields given' } =
          .ok placed' ∧
      ∀ name, name ∈ (named fields' (dependencies { limits, host } fields').order).map (·.id) →
        placed'.SameAt placed name := by
    apply run_follows
    case distinct =>
      rw [map_id_order distinct']
      exact (order_dependencies { limits, host } distinct').1
    case solved =>
      exact fun field listed =>
        has_order_run distinct ran rfl (member field listed).1 (member field listed).2
    case settled =>
      exact fun before field after split name reads => order_settled distinct' split reads
    case fresh => exact fun _ _ => rfl
    case agree =>
      intro field listed name reads unplaced
      -- a name that is read and not in the order belongs to no field: no circular field is read
      rw [map_id_order distinct', ← mem_order_perm distinct perm] at unplaced
      have other : name ∉ fields.map (·.id) := fun known =>
        not_reads_cyclic distinct (member field listed).1 (member field listed).2 reads
          (mem_cyclic_dependencies.mpr ⟨known, unplaced⟩)
      rw [← agree name other]
      refine (sameAt_run ran ?_).1
      rwa [map_id_order distinct]
  rwa [map_id_order distinct'] at run

/-- A recalculation that returns is followed by every other one of the same fields that starts from
the same values under all names but theirs. -/
theorem recalculate_follows (distinct : (fields.map (·.id)).Nodup) (perm : fields.Perm fields')
    (agree : ∀ name, name ∉ fields.map (·.id) →
      Record.get? name (Record.update context.fields given) =
        Record.get? name (Record.update context.fields given'))
    (returned : recalculate { limits, host } fields given context = .ok r) :
    ∃ r', recalculate { limits, host } fields' given' context = .ok r' ∧
      ∀ name, r.SameAt r' name := by
  have ids := perm.map (·.id)
  have distinct' := ids.nodup distinct
  obtain ⟨placed, ran, final⟩ := recalculate_cases returned
  obtain ⟨placed', ran', follows⟩ := order_run_follows distinct perm agree ran
  have returned' := recalculate_of_run ran'
  refine ⟨_, returned', fun name => ?_⟩
  by_cases known : name ∈ fields.map (·.id)
  · by_cases stuck : name ∈ (dependencies { limits, host } fields).cyclic
    · obtain ⟨field, member, rfl⟩ := List.mem_map.mp known
      have stuck' := (mem_cyclic_perm distinct perm).mp stuck
      have left := has_recalculate_circular distinct returned member stuck
      have right := has_recalculate_circular distinct' returned' (perm.mem_iff.mp member) stuck'
      exact left.sameAt right
    · have stuck' := (mem_cyclic_perm distinct perm).not.mp stuck
      have listed' := (mem_order_iff distinct').mpr ⟨ids.mem_iff.mp known, stuck'⟩
      have left := sameAt_circular (named fields (dependencies { limits, host } fields).cyclic)
        placed (by rwa [map_id_cyclic distinct])
      have right := sameAt_circular (named fields' (dependencies { limits, host } fields').cyclic)
        placed' (by rwa [map_id_cyclic distinct'])
      rw [final]
      exact left.symm.trans ((follows name listed').symm.trans right)
  · have left := sameAt_recalculate_start distinct returned known
    have right := sameAt_recalculate_start distinct' returned' (ids.mem_iff.not.mp known)
    exact ⟨left.1.symm.trans ((agree name known).trans right.1), left.2.symm.trans right.2⟩

/-- A recalculation depends neither on the order of the fields nor on what was given under their
names. If one of two recalculations of the same fields, on top of values that agree under all other
names, returns, then so does the other, and both have the same values and the same errors under
every name. In particular a recalculation on top of its own values changes nothing. -/
theorem recalculate_independent (limits : Limits) (host : Host)
    (fields fields' : List CalculatedField) (given given' : Record String Value) (context : Context)
    (distinct : (fields.map (·.id)).Nodup) (perm : fields.Perm fields')
    (held : (Record.keys context.fields).Nodup) (once : (Record.keys given).Nodup)
    (once' : (Record.keys given').Nodup)
    (agree : ∀ name, name ∉ fields.map (·.id) →
      Record.get? name given = Record.get? name given') :
    ((∃ r, recalculate { limits, host } fields given context = .ok r) ↔
      ∃ r', recalculate { limits, host } fields' given' context = .ok r') ∧
    (∀ r r', recalculate { limits, host } fields given context = .ok r →
      recalculate { limits, host } fields' given' context = .ok r' →
      ∀ name, Record.get? name r.values = Record.get? name r'.values ∧
        Record.get? name r.errors = Record.get? name r'.errors) ∧
    ∀ r, recalculate { limits, host } fields given context = .ok r →
      ∃ again, recalculate { limits, host } fields r.values context = .ok again ∧
        ∀ name, Record.get? name r.values = Record.get? name again.values ∧
          Record.get? name r.errors = Record.get? name again.errors := by
  have start : ∀ name, name ∉ fields.map (·.id) →
      Record.get? name (Record.update context.fields given) =
        Record.get? name (Record.update context.fields given') := by
    intro name other
    rw [Record.get?_update_of_nodup once, Record.get?_update_of_nodup once', agree name other]
  refine ⟨⟨?_, ?_⟩, ?_, ?_⟩
  · rintro ⟨r, returned⟩
    obtain ⟨r', returned', -⟩ := recalculate_follows distinct perm start returned
    exact ⟨r', returned'⟩
  · rintro ⟨r', returned⟩
    have ids := perm.map (·.id)
    obtain ⟨r, returned', -⟩ := recalculate_follows (ids.nodup distinct) perm.symm
      (fun name other => (start name (ids.mem_iff.not.mpr other)).symm) returned
    exact ⟨r, returned'⟩
  · intro r r' returned returned'
    obtain ⟨other, same, follows⟩ := recalculate_follows distinct perm start returned
    obtain rfl := Except.ok.inj (same.symm.trans returned')
    exact follows
  · intro r returned
    refine recalculate_follows distinct (.refl fields) ?_ returned
    intro name other
    have kept := (sameAt_recalculate_start distinct returned other).1
    rw [Record.get?_update_of_nodup (keys_values_recalculate_nodup returned held), ← kept,
      Record.get?_update_of_nodup once]
    cases Record.get? name given <;> cases Record.get? name context.fields <;> rfl

theorem recalculate_independent_prices :
    let total : CalculatedField := ⟨"total", "price * count", .null⟩
    let count : CalculatedField := ⟨"count", "2", .null⟩
    let context : Context := {
      clock := .ofMoment .universal (.atMidnight ⟨2024, 1, 15, by decide⟩ none) }
    ∃ r r',
      recalculate { host := .universal } [total, count] [("price", .int 3)] context = .ok r ∧
      recalculate { host := .universal } [count, total]
        [("price", .int 3), ("total", .text "old")] context = .ok r' ∧
      Record.get? "total" r.values = Record.get? "total" r'.values := by
  intro total count context
  have returns : (recalculate { host := .universal } [total, count] [("price", .int 3)]
      context).toBool := by
    decide +kernel
  cases returned :
    recalculate { host := .universal } [total, count] [("price", .int 3)] context with
  | error d => simp [returned, Except.toBool] at returns
  | ok r =>
      obtain ⟨both, same, -⟩ := recalculate_independent .default .universal [total, count]
        [count, total] [("price", .int 3)] [("price", .int 3), ("total", .text "old")] context
        (by decide)
        (.swap count total []) (by decide) (by decide) (by decide) (by
          intro name other
          have apart : "total" ≠ name := fun same => other (by simp [total, ← same])
          simp [Record.get?, apart])
      obtain ⟨r', returned'⟩ := both.mp ⟨r, returned⟩
      exact ⟨r, r', rfl, returned', (same r r' returned returned' "total").1⟩

end Engine

end Formula
