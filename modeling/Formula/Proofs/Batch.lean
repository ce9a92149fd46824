import Formula.Proofs.Scope

/-!
The order of a batch. A formula sees what those before it have come to under the names that it refers
to, and nothing else of them: two neighbours, neither of which refers to the other, can change places
without any effect on what comes out of them and of those behind them.
-/

namespace Formula

namespace Record

variable {κ α : Type} [DecidableEq κ]

/-- Neighbours with different names are found in either order. -/
theorem get?_swap {i j : κ} (different : i ≠ j) (a b : α) (name : κ) (front rest : Record κ α) :
    get? name (front ++ (i, a) :: (j, b) :: rest) = get? name (front ++ (j, b) :: (i, a) :: rest) := by
  induction front with
  | nil =>
      simp only [List.nil_append, get?]
      by_cases first : i = name
      · have other : j ≠ name := fun second => different (first.trans second.symm)
        rw [if_pos first, if_neg other, if_pos first]
      · rw [if_neg first, if_neg first]
  | cons entry front ih => simp only [List.cons_append, get?, ih]

end Record

namespace Outcome

theorem get?_extend (outcome : Outcome) (id name : String) (fields : Record String Value) :
    Record.get? name (outcome.extend id fields) =
      if id = name then outcome.value?.or (Record.get? name fields)
      else Record.get? name fields := by
  cases outcome with
  | value v => exact Record.get?_put id name v fields
  | error e => exact (ite_self _).symm

theorem get?_extend_of_ne (outcome : Outcome) {id name : String} (other : id ≠ name)
    (fields : Record String Value) :
    Record.get? name (outcome.extend id fields) = Record.get? name fields := by
  rw [get?_extend, if_neg other]

theorem get?_extend_comm (first second : Outcome) {i j : String} (different : i ≠ j)
    (fields : Record String Value) (name : String) :
    Record.get? name (second.extend j (first.extend i fields)) =
      Record.get? name (first.extend i (second.extend j fields)) := by
  by_cases own : i = name
  · have other : j ≠ name := fun same => different (own.trans same.symm)
    rw [get?_extend_of_ne second other, get?_extend, get?_extend first i,
      get?_extend_of_ne second other]
  · rw [get?_extend_of_ne first own, get?_extend, get?_extend second j, get?_extend_of_ne first own]

end Outcome

namespace Engine

variable {limits : Limits} {host : Host} {context : Context}

theorem evaluateEach_congr (formulas : Record String String) {fields fields' : Record String Value}
    (same : ∀ name, Record.get? name fields = Record.get? name fields') :
    evaluateEach { limits, host } context formulas fields =
      evaluateEach { limits, host } context formulas fields' := by
  induction formulas generalizing fields fields' with
  | nil => rfl
  | cons entry rest ih =>
      obtain ⟨id, formula⟩ := entry
      have later : ∀ outcome : Outcome,
          evaluateEach { limits, host } context rest (outcome.extend id fields) =
            evaluateEach { limits, host } context rest (outcome.extend id fields') := by
        intro outcome
        apply ih
        intro name
        rw [Outcome.get?_extend, Outcome.get?_extend, same]
      rw [evaluateEach, evaluateEach,
        evaluate_scope_congr limits host context formula fun name _ => same name]
      simp only [later]

theorem evaluateEach_cons_eq_ok {engine : Engine} {id formula : String}
    {rest : Record String String} {fields : Record String Value} {results : Record String Outcome} :
    engine.evaluateEach context ((id, formula) :: rest) fields = .ok results ↔
      ∃ outcome later, engine.evaluate formula (context.scope fields) = .ok outcome ∧
        engine.evaluateEach context rest (outcome.extend id fields) = .ok later ∧
        results = (id, outcome) :: later := by
  rw [evaluateEach]
  constructor
  · intro returned
    obtain ⟨outcome, evaluated, returned⟩ := bind_eq_ok.mp returned
    obtain ⟨later, followed, returned⟩ := bind_eq_ok.mp returned
    cases returned
    exact ⟨outcome, later, evaluated, followed, rfl⟩
  · rintro ⟨outcome, later, evaluated, followed, rfl⟩
    rw [bind_of_ok evaluated, bind_of_ok followed]
    rfl

/-- Neighbours of which neither refers to the other come to the same in either order, and so do the
formulas behind them. -/
theorem evaluateEach_swap {i j f g : String} {after : Record String String}
    {fields : Record String Value} {results : Record String Outcome} (different : i ≠ j)
    (apart : ¬ Reads { limits, host } f j) (apart' : ¬ Reads { limits, host } g i)
    (returned : evaluateEach { limits, host } context ((i, f) :: (j, g) :: after) fields =
      .ok results) :
    ∃ first second later, results = (i, first) :: (j, second) :: later ∧
      evaluateEach { limits, host } context ((j, g) :: (i, f) :: after) fields =
        .ok ((j, second) :: (i, first) :: later) := by
  obtain ⟨first, rest, evaluated, next, rfl⟩ := evaluateEach_cons_eq_ok.mp returned
  obtain ⟨second, later, evaluated', followed, rfl⟩ := evaluateEach_cons_eq_ok.mp next
  refine ⟨first, second, later, rfl, ?_⟩
  -- each of the two is evaluated as if the other had not come before it
  have early : evaluate { limits, host } g (context.scope fields) = .ok second := by
    rw [← evaluated']
    apply evaluate_scope_congr
    intro name reads
    have other : i ≠ name := fun same => apart' (same.symm ▸ reads)
    exact (first.get?_extend_of_ne other fields).symm
  have late : evaluate { limits, host } f (context.scope (second.extend j fields)) = .ok first := by
    rw [← evaluated]
    apply evaluate_scope_congr
    intro name reads
    have other : j ≠ name := fun same => apart (same.symm ▸ reads)
    exact second.get?_extend_of_ne other fields
  have behind : evaluateEach { limits, host } context after
      (first.extend i (second.extend j fields)) = .ok later := by
    rw [← followed]
    exact evaluateEach_congr after fun name => (first.get?_extend_comm second different fields name).symm
  exact evaluateEach_cons_eq_ok.mpr ⟨second, _, early,
    evaluateEach_cons_eq_ok.mpr ⟨first, later, late, behind, rfl⟩, rfl⟩

theorem evaluateEach_swap_within {i j f g : String} (before : Record String String)
    {after : Record String String} {fields : Record String Value} {results : Record String Outcome}
    (different : i ≠ j) (apart : ¬ Reads { limits, host } f j)
    (apart' : ¬ Reads { limits, host } g i)
    (returned : evaluateEach { limits, host } context (before ++ (i, f) :: (j, g) :: after) fields =
      .ok results) :
    ∃ front first second later, results = front ++ (i, first) :: (j, second) :: later ∧
      evaluateEach { limits, host } context (before ++ (j, g) :: (i, f) :: after) fields =
        .ok (front ++ (j, second) :: (i, first) :: later) := by
  induction before generalizing fields results with
  | nil =>
      obtain ⟨first, second, later, rfl, swapped⟩ :=
        evaluateEach_swap different apart apart' returned
      exact ⟨[], first, second, later, rfl, swapped⟩
  | cons entry before ih =>
      obtain ⟨id, formula⟩ := entry
      obtain ⟨outcome, rest, evaluated, followed, rfl⟩ := evaluateEach_cons_eq_ok.mp returned
      obtain ⟨front, first, second, later, rfl, swapped⟩ := ih followed
      exact ⟨(id, outcome) :: front, first, second, later, rfl,
        evaluateEach_cons_eq_ok.mpr ⟨outcome, _, evaluated, swapped, rfl⟩⟩

theorem not_reads_of_unreferenced {formula name : String}
    (apart : ∀ parsed, parse { limits, host } formula = .ok parsed →
      name ∉ parsed.expr.fieldNames) :
    ¬ Reads { limits, host } formula name := by
  rintro ⟨parsed, parses, mentions⟩
  exact apart parsed parses (Expr.mem_fieldNames.mpr mentions)

/-- Two neighbours of a batch can change places if neither refers to the other, as a formula does that
does not parse: the batch returns in both orders or in neither, with the same outcome under every
name. -/
theorem independent_neighbours_commute (limits : Limits) (host : Host) (context : Context)
    (before after : Record String String) {i j f g : String}
    (distinct : (Record.keys (before ++ (i, f) :: (j, g) :: after)).Nodup)
    (apart : ∀ parsed, parse { limits, host } f = .ok parsed → j ∉ parsed.expr.fieldNames)
    (apart' : ∀ parsed, parse { limits, host } g = .ok parsed → i ∉ parsed.expr.fieldNames) :
    let batch := before ++ (i, f) :: (j, g) :: after
    let swapped := before ++ (j, g) :: (i, f) :: after
    ((∃ results, evaluateBatch { limits, host } batch context = .ok results) ↔
        ∃ results, evaluateBatch { limits, host } swapped context = .ok results) ∧
      ∀ results results', evaluateBatch { limits, host } batch context = .ok results →
        evaluateBatch { limits, host } swapped context = .ok results' →
          ∀ id, Record.get? id results = Record.get? id results' := by
  intro batch swapped
  have perm : (Record.keys batch).Perm (Record.keys swapped) :=
    ((List.Perm.swap _ _ after).append_left before).map Prod.fst
  have different : i ≠ j := by
    rintro rfl
    simp only [Record.keys, List.map_append, List.map_cons, List.nodup_append,
      List.nodup_cons, List.mem_cons, true_or, not_true_eq_false, false_and, and_false] at distinct
  have unread := not_reads_of_unreferenced apart
  have unread' := not_reads_of_unreferenced apart'
  rw [evaluateBatch, evaluateBatch, Record.ofList_of_nodup distinct,
    Record.ofList_of_nodup (perm.nodup distinct)]
  refine ⟨⟨?_, ?_⟩, ?_⟩
  · rintro ⟨results, returned⟩
    obtain ⟨front, first, second, later, -, returned'⟩ :=
      evaluateEach_swap_within before different unread unread' returned
    exact ⟨_, returned'⟩
  · rintro ⟨results, returned⟩
    obtain ⟨front, first, second, later, -, returned'⟩ :=
      evaluateEach_swap_within before different.symm unread' unread returned
    exact ⟨_, returned'⟩
  · intro results results' returned returned' id
    obtain ⟨front, first, second, later, rfl, same⟩ :=
      evaluateEach_swap_within before different unread unread' returned
    obtain rfl := Except.ok.inj (same.symm.trans returned')
    exact Record.get?_swap different first second id front later

theorem independent_neighbours_commute_sum :
    let context : Context := {
      fields := [("x", .int 1)]
      clock := .ofMoment .universal (.atMidnight ⟨2024, 1, 15, by decide⟩ none) }
    ∃ results results',
      evaluateBatch { host := .universal }
        [("bad", "x / 0"), ("next", "x + 1"), ("sum", "bad & next")] context = .ok results ∧
      evaluateBatch { host := .universal }
        [("next", "x + 1"), ("bad", "x / 0"), ("sum", "bad & next")] context = .ok results' ∧
      Record.get? "sum" results = Record.get? "sum" results' := by
  intro context
  have unreferenced : ∀ formula other, formula ∈ ["x / 0", "x + 1"] → other ∈ ["bad", "next"] →
      ∀ parsed, parse { host := .universal } formula = .ok parsed →
        other ∉ parsed.expr.fieldNames := by
    intro formula other listed known parsed parses
    have fields : ∀ formula ∈ ["x / 0", "x + 1"],
        (validate { host := .universal } formula none).fields = ["x"] := by
      decide +kernel
    have own := DependencyGraph.fields_validate { host := .universal } formula none
    rw [fields formula listed, parses] at own
    dsimp only at own
    have apart : ∀ other ∈ ["bad", "next"], other ∉ ["x"] := by decide
    rw [← own]
    exact apart other known
  have returns : (evaluateBatch { host := .universal }
      [("bad", "x / 0"), ("next", "x + 1"), ("sum", "bad & next")] context).toBool := by
    decide +kernel
  obtain ⟨both, same⟩ := independent_neighbours_commute .default .universal context []
    [("sum", "bad & next")] (i := "bad") (j := "next") (f := "x / 0") (g := "x + 1") (by decide)
    (unreferenced _ _ (by decide) (by decide)) (unreferenced _ _ (by decide) (by decide))
  cases returned : evaluateBatch { host := .universal }
      [("bad", "x / 0"), ("next", "x + 1"), ("sum", "bad & next")] context with
  | error d => simp [returned, Except.toBool] at returns
  | ok results =>
      obtain ⟨results', returned'⟩ := both.mp ⟨results, returned⟩
      exact ⟨results, results', rfl, returned', same results results' returned returned' "sum"⟩

end Engine

end Formula
