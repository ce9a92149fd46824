import Formula.Proofs.Recalculation

/-!
Batches and recalculations evaluate each formula in the context that they are given, with other
fields: in a batch those that the formulas before it gave values to, in a recalculation those that
are given with it. Of the context they pass on the variables, the datasets and the clock. The user,
the time zone and the locale are as in a context that names none, which only a formula can tell that
reads the record of the user or of the system.
-/

namespace Formula

namespace Context

/-- The user, the time zone and the locale of a context are those of one that names none. -/
structure Anonymous (c : Context) : Prop where
  user : c.user = anonymousUser
  timezone : c.timezone = none
  locale : c.locale = "en-US"

/-- A name stands for the record of the user or of the system: no field or variable has it. -/
def NamesRecord (c : Context) (name : String) : Prop :=
  Record.get? name c.fields = none ∧ Record.get? name c.vars = none ∧
    (∀ bare, name.toList ≠ '$' :: bare) ∧ Text.lowerName name ∈ ["user", "system"]

theorem Anonymous.scope_eq {c : Context} (anonymous : c.Anonymous) (fields : Record String Value) :
    c.scope fields = { c with fields } := by
  obtain ⟨_, vars, datasets, clock, user, timezone, locale⟩ := c
  obtain ⟨rfl, rfl, rfl⟩ := anonymous
  rfl

/-- What is not passed on is read by way of the two records only. -/
theorem resolve_scope {c : Context} {fields : Record String Value} {name : String}
    (other : ¬ NamesRecord { c with fields } name) :
    (c.scope fields).resolve name = resolve { c with fields } name := by
  unfold resolve scope
  cases field : Record.get? name fields with
  | some v => rfl
  | none =>
      cases var : Record.get? name c.vars with
      | some v => rfl
      | none =>
          dsimp only
          split
          · rfl
          · rename_i plain
            have apart : Text.lowerName name ∉ ["user", "system"] := fun named =>
              other ⟨field, var, plain, named⟩
            simp only [List.mem_cons, List.not_mem_nil, or_false, not_or] at apart
            unfold ownValue
            split
            · rfl
            · rfl
            · rename_i user
              exact absurd user apart.1
            · rename_i system
              exact absurd system apart.2
            · rfl

end Context

namespace Outcome

/-- Fields with the values of earlier results on top, the later ones last. -/
def extendAll (fields : Record String Value) (results : Record String Outcome) :
    Record String Value :=
  results.foldl (fun fields result => result.2.extend result.1 fields) fields

end Outcome

namespace Engine

/-- A formula has an outcome in a context with other fields but without its user, time zone and
locale; and in the context with all it has, unless the formula reads what is left out. -/
structure EvaluatesWith (limits : Limits) (host : Host) (context : Context) (formula : String)
    (fields : Record String Value) (outcome : Outcome) : Prop where
  reduced : evaluate { limits, host } formula
      { context with fields, user := anonymousUser, timezone := none, locale := "en-US" } =
    .ok outcome
  whole : (context.Anonymous ∨ ∀ name, Reads { limits, host } formula name →
      ¬ Context.NamesRecord { context with fields } name) →
    evaluate { limits, host } formula { context with fields } = .ok outcome

variable {limits : Limits} {host : Host} {context : Context}

theorem evaluate_scope_eq {formula : String} {fields : Record String Value}
    (unread : ∀ name, Reads { limits, host } formula name →
      ¬ Context.NamesRecord { context with fields } name) :
    Engine.evaluate { limits, host } formula (context.scope fields) =
      Engine.evaluate { limits, host } formula { context with fields } := by
  unfold evaluate
  cases parses : Engine.parse { limits, host } formula with
  | error e => rfl
  | ok parsed =>
      have data : Context.SameData (context.scope fields) { context with fields } := ⟨rfl, rfl⟩
      have value := parsed.expr.value_congr data limits.maxDepth host fun name mentions =>
        Context.resolve_scope (unread name ⟨parsed, parses, mentions⟩)
      simp only [evaluateTree, value]

theorem evaluatesWith_of_scope {formula : String} {fields : Record String Value}
    {outcome : Outcome}
    (evaluated : evaluate { limits, host } formula (context.scope fields) = .ok outcome) :
    EvaluatesWith limits host context formula fields outcome where
  reduced := evaluated
  whole := by
    rintro (anonymous | unread)
    · rw [← anonymous.scope_eq, evaluated]
    · rw [← evaluate_scope_eq unread, evaluated]

/-- One after the other the formulas are evaluated with the values of those before them. -/
theorem evaluateEach_entry {engine : Engine} {formulas : Record String String}
    {fields : Record String Value} {results : Record String Outcome}
    (returned : engine.evaluateEach context formulas fields = .ok results) :
    Record.keys results = Record.keys formulas ∧
      ∀ i id formula, formulas[i]? = some (id, formula) →
        ∃ outcome, results[i]? = some (id, outcome) ∧
          engine.evaluate formula
            (context.scope (Outcome.extendAll fields (results.take i))) = .ok outcome := by
  induction formulas generalizing fields results with
  | nil =>
      cases returned
      exact ⟨rfl, fun i id formula none => nomatch none⟩
  | cons first rest ih =>
      obtain ⟨id, formula⟩ := first
      rw [evaluateEach] at returned
      obtain ⟨outcome, evaluated, returned⟩ := bind_eq_ok.mp returned
      obtain ⟨later, followed, returned⟩ := bind_eq_ok.mp returned
      cases returned
      obtain ⟨keys, entries⟩ := ih followed
      refine ⟨congrArg (id :: ·) keys, fun i id' formula' entry => ?_⟩
      cases i with
      | zero =>
          cases entry
          exact ⟨outcome, rfl, evaluated⟩
      | succ i => exact entries i id' formula' entry

/-- A field whose formula refers to no calculated field has at the end what its formula has with the
given values. -/
theorem has_recalculate {fields : List CalculatedField} {given : Record String Value}
    {r : Recalculation} (distinct : (fields.map (·.id)).Nodup)
    (returned : recalculate { limits, host } fields given context = .ok r)
    {field : CalculatedField} (member : field ∈ fields)
    (apart : ∀ name, Reads { limits, host } field.formula name → name ∉ fields.map (·.id)) :
    ∃ outcome, r.Has field outcome ∧ evaluate { limits, host } field.formula
      (context.scope (Record.update context.fields given)) = .ok outcome := by
  obtain ⟨nodup, placed_iff, -⟩ := order_dependencies { limits, host } distinct
  have declared : (dependencies { limits, host } fields).order ⊆ fields.map (·.id) :=
    fun id member => ((placed_iff id).mp member).1
  have order_ids := CalculatedField.map_id_named distinct declared
  have cyclic_declared : (dependencies { limits, host } fields).cyclic ⊆ fields.map (·.id) :=
    fun id member => (mem_cyclic_dependencies.mp member).1
  have cyclic_ids := CalculatedField.map_id_named distinct cyclic_declared
  have listed : field.id ∈ (dependencies { limits, host } fields).order := by
    refine (placed_iff field.id).mpr ⟨List.mem_map_of_mem member, fun name needed => ?_⟩
    obtain ⟨other, inside, same, declared, reads⟩ := (mem_needs_dependencies distinct).mp needed
    have same := List.inj_on_of_nodup_map distinct inside member same
    exact absurd declared (apart name (same ▸ reads))
  obtain ⟨placed, ran, rfl⟩ := recalculate_cases returned
  obtain ⟨outcome, evaluated, has⟩ := Recalculation.has_run ran (order_ids.symm ▸ nodup)
    (fun _ _ => rfl) (fun before field after split name reads => order_settled distinct split reads)
    (CalculatedField.mem_named distinct member listed)
  refine ⟨outcome, has.of_sameAt (Recalculation.sameAt_circular _ placed ?_), ?_⟩
  · rw [cyclic_ids]
    exact fun stuck => (mem_cyclic_dependencies.mp stuck).2 listed
  · rw [← evaluated]
    apply evaluate_scope_congr
    intro name reads
    refine (Recalculation.sameAt_run ran ?_).1
    rw [order_ids]
    exact fun inside => apart name reads (declared inside)

/-- A batch has in its order the outcome of every formula with the fields of the context and, on top
of them, the values that the formulas before it have; one that failed changes nothing. A recalculation
has for every field that refers to no calculated field the outcome of its formula with the fields of
the context and the given values on top. In both the formula is evaluated with the variables, the
datasets and the clock of the context, but not with its user, time zone and locale. -/
theorem batches_and_recalculations_evaluate_with (limits : Limits) (host : Host)
    (context : Context) :
    (∀ (formulas : Record String String) (results : Record String Outcome),
      (Record.keys formulas).Nodup →
        evaluateBatch { limits, host } formulas context = .ok results →
        Record.keys results = Record.keys formulas ∧
          ∀ i id formula, formulas[i]? = some (id, formula) →
            ∃ outcome, results[i]? = some (id, outcome) ∧
              EvaluatesWith limits host context formula
                (Outcome.extendAll context.fields (results.take i)) outcome) ∧
    ∀ (fields : List CalculatedField) (given : Record String Value) (r : Recalculation),
      (fields.map (·.id)).Nodup → recalculate { limits, host } fields given context = .ok r →
        ∀ field, field ∈ fields →
          (∀ name, Reads { limits, host } field.formula name → name ∉ fields.map (·.id)) →
            ∃ outcome, r.Has field outcome ∧ EvaluatesWith limits host context field.formula
              (Record.update context.fields given) outcome := by
  constructor
  · intro formulas results distinct returned
    rw [evaluateBatch, Record.ofList_of_nodup distinct] at returned
    obtain ⟨keys, entries⟩ := evaluateEach_entry returned
    refine ⟨keys, fun i id formula entry => ?_⟩
    obtain ⟨outcome, result, evaluated⟩ := entries i id formula entry
    exact ⟨outcome, result, evaluatesWith_of_scope evaluated⟩
  · intro fields given r distinct returned field member apart
    obtain ⟨outcome, has, evaluated⟩ := has_recalculate distinct returned member apart
    exact ⟨outcome, has, evaluatesWith_of_scope evaluated⟩

theorem batches_and_recalculations_evaluate_with_sum :
    let context : Context := {
      fields := [("x", .int 1)]
      clock := .ofMoment .universal (.atMidnight ⟨2024, 1, 15, by decide⟩ none)
      locale := "de-DE" }
    let total : CalculatedField := ⟨"total", "x * 2", .null⟩
    (∃ results, evaluateBatch { host := .universal } [("bad", "1 / 0"), ("sum", "x + 1")] context =
        .ok results ∧
      ∃ outcome, results[1]? = some ("sum", outcome) ∧
        EvaluatesWith .default .universal context "x + 1"
          (Outcome.extendAll context.fields (results.take 1)) outcome) ∧
    ∃ r, recalculate { host := .universal } [total] [("x", .int 3)] context = .ok r ∧
      ∃ outcome, r.Has total outcome ∧ EvaluatesWith .default .universal context "x * 2"
        (Record.update context.fields [("x", .int 3)]) outcome := by
  intro context total
  obtain ⟨batches, recalculations⟩ :=
    batches_and_recalculations_evaluate_with .default .universal context
  constructor
  · have returns : (evaluateBatch { host := .universal } [("bad", "1 / 0"), ("sum", "x + 1")]
        context).toBool := by
      decide +kernel
    cases returned : evaluateBatch { host := .universal } [("bad", "1 / 0"), ("sum", "x + 1")]
        context with
    | error d => simp [returned, Except.toBool] at returns
    | ok results =>
        obtain ⟨-, entries⟩ := batches _ results (by decide) returned
        exact ⟨results, rfl, entries 1 "sum" "x + 1" rfl⟩
  · have returns : (recalculate { host := .universal } [total] [("x", .int 3)] context).toBool := by
      decide +kernel
    have none : DependencyGraph.referred { host := .universal } ["total"] "x * 2" = [] := by
      decide +kernel
    cases returned : recalculate { host := .universal } [total] [("x", .int 3)] context with
    | error d => simp [returned, Except.toBool] at returns
    | ok r =>
        refine ⟨r, rfl, recalculations [total] _ r (by decide) returned total
          List.mem_cons_self fun name reads declared => ?_⟩
        have referred := DependencyGraph.mem_referred.mpr ⟨declared, reads⟩
        change name ∈ DependencyGraph.referred _ ["total"] "x * 2" at referred
        rw [none] at referred
        cases referred

/-- A batch does not know the user of its context. -/
theorem batch_without_user :
    let context : Context :=
      { clock := .ofMoment .universal (.atMidnight ⟨2024, 1, 15, by decide⟩ none)
        user := [("email", .text "ada@example.com")] }
    ∃ results outcome,
      evaluateBatch { host := .universal } [("mail", "user.email")] context = .ok results ∧
        results[0]? = some ("mail", outcome) ∧
        evaluate { host := .universal } "user.email"
          { context with fields := context.fields } ≠ .ok outcome := by
  intro context
  let textOf := fun (outcome : Outcome) => outcome.value?.bind Value.text?
  have batched : ((evaluateBatch { host := .universal } [("mail", "user.email")]
      context).toOption.bind fun results => results[0]?.map fun entry =>
        (entry.1, textOf entry.2)) = some ("mail", some ("" : Text)) := by
    decide +kernel
  have alone : (evaluate { host := .universal } "user.email" context).toOption.map textOf =
      some (some ("ada@example.com" : Text)) := by
    decide +kernel
  obtain ⟨results, returned, found⟩ := Option.bind_eq_some_iff.mp batched
  obtain ⟨⟨name, outcome⟩, first, mail⟩ := Option.map_eq_some_iff.mp found
  obtain ⟨rfl, empty⟩ := Prod.mk.inj mail
  refine ⟨results, outcome, toOption_eq_some.mp returned, first, fun same => ?_⟩
  obtain ⟨other, returned', full⟩ := Option.map_eq_some_iff.mp alone
  cases same.symm.trans (toOption_eq_some.mp returned')
  cases empty.symm.trans full

end Engine

end Formula
