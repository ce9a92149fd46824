import Formula.Proofs.Evaluation.Faults
import Formula.Proofs.Evaluation.Reach

/-!
How an evaluation stops without a runtime error. Defects and exceeded bounds are passed on as they
are, so a step stops so with a part that it enters or by itself, and an evaluation at a node that it
comes to.
-/

namespace Formula

/-- A stop that is no runtime error, which no node gives a place. -/
def Stop.IsAbrupt (stop : Stop) : Prop := ∀ error, stop ≠ .failed (.runtime error)

namespace Stop.IsAbrupt

variable {stop : Stop}

theorem locate_eq_iff (abrupt : stop.IsAbrupt) {inner : Stop} {position : Nat} :
    inner.locate position = stop ↔ inner = stop := by
  cases inner with
  | broken d => exact Iff.rfl
  | failed e =>
      cases e with
      | runtime error =>
          exact iff_of_false (fun same => abrupt _ same.symm) fun same => abrupt _ same.symm
      | _ => exact Iff.rfl

theorem ne_cause (abrupt : stop.IsAbrupt) (c : RuntimeCause) : Stop.cause c ≠ stop :=
  fun same => abrupt _ same.symm

theorem ne_of_operands {α : Type} {x : Except Stop α} (abrupt : stop.IsAbrupt)
    (fails : FailsOnly Stop.OfOperands x) : x ≠ .error stop := by
  intro failed
  obtain ⟨c, same, -⟩ := fails stop failed
  exact abrupt.ne_cause c same.symm

end Stop.IsAbrupt

namespace Expr

/-- The parts of a node that its evaluation takes for true or false. -/
def tested (env : Environment) (levels : Nat) : Expr → List Expr
  | .unary .not operand _ => [operand]
  | .logical op left right position => (Expr.logical op left right position).entered env levels
  | .conditional test _ _ _ => [test]
  | _ => []

/-- Whether a part is taken for true or false. -/
def decided (env : Environment) (levels : Nat) (e : Expr) : Except Stop Bool :=
  e.evaluate env levels >>= Value.decide

/-- A node stops without a runtime error, and not because a part does: a literal or a name has no
value, a called function stops, or a part has no truth. -/
def StopsItself (env : Environment) (levels : Nat) (stop : Stop) : Expr → Prop
  | .literal kind raw _ => ∃ f, literalValue kind raw = .error f ∧ stop = .broken (.fault f)
  | .identifier name _ => ∃ f, env.context.resolve name = .error f ∧ stop = .broken (.fault f)
  | .call callee arguments _ => ∃ d args, env.registry.find? callee = some d ∧
      evaluateAll env arguments levels = .ok args ∧ d.call env.context args = .error stop ∧
      d.checkArguments args = .ok ()
  | e => ∃ operand ∈ e.tested env levels, ∃ v,
      operand.evaluate env levels = .ok v ∧ v.decide = .error stop

variable {env : Environment} {stop : Stop}

theorem decided_eq_ok_iff {e : Expr} {levels : Nat} {b : Bool} :
    e.decided env levels = .ok b ↔ e.truth? env levels = some b := by
  rw [truth?_eq_some_iff, decided, bind_eq_ok]
  simp only [Value.decide, mapError_eq_ok]

theorem decided_eq_error_iff {e : Expr} {levels : Nat} :
    e.decided env levels = .error stop ↔ e.evaluate env levels = .error stop ∨
      ∃ v, e.evaluate env levels = .ok v ∧ v.decide = .error stop := bind_eq_error

theorem enter_eq_abrupt_iff (abrupt : stop.IsAbrupt) {deeper position : Nat}
    {body : Nat → Except Stop Value} :
    env.enter (deeper + 1) position body = .error stop ↔ body deeper = .error stop := by
  rw [Environment.enter, mapError_eq_error]
  simp only [abrupt.locate_eq_iff, exists_eq_right]

theorem pair_eq_error_iff {first second : Expr} {levels : Nat}
    {finish : Value → Value → Except Stop Value} (finishes : ∀ a b, finish a b ≠ .error stop) :
    (do
      let a ← first.evaluate env levels
      let b ← second.evaluate env levels
      finish a b) = .error stop ↔
    ∃ part ∈ enteredAll env levels [first, second], part.evaluate env levels = .error stop := by
  rw [bind_eq_error]
  simp only [bind_eq_error_iff_left (finishes _), mem_enteredAll_pair]
  constructor
  · rintro (failed | ⟨a, value, failed⟩)
    · exact ⟨first, .inl rfl, failed⟩
    · exact ⟨second, .inr ⟨⟨a, value⟩, rfl⟩, failed⟩
  · rintro ⟨part, rfl | ⟨⟨a, value⟩, rfl⟩, failed⟩
    · exact .inl failed
    · exact .inr ⟨a, value, failed⟩

theorem evaluate_unary_eq_abrupt_iff (abrupt : stop.IsAbrupt) {op : UnaryOp} {operand : Expr}
    {deeper position : Nat} :
    (Expr.unary op operand position).evaluate env (deeper + 1) = .error stop ↔
      operand.evaluate env deeper = .error stop ∨
        (Expr.unary op operand position).StopsItself env deeper stop := by
  rw [evaluate, enter_eq_abrupt_iff abrupt]
  cases op with
  | not =>
      have negation : (operand.evaluate env deeper >>= UnaryOp.not.evaluate) =
          (operand.decided env deeper >>= fun b => return .bool (!b)) := (bind_assoc _ _ _).symm
      rw [negation, bind_eq_error_iff_left fun _ => pure_ne_error, decided_eq_error_iff]
      simp [StopsItself, tested]
  | negate =>
      rw [bind_eq_error_iff_left fun v => abrupt.ne_of_operands (UnaryOp.negate_fails v)]
      simp [StopsItself, tested]
  | other symbol =>
      have unknown : ∀ v, (UnaryOp.other symbol).evaluate v ≠ .error stop := fun v same =>
        abrupt.ne_cause _ (Except.error.inj same)
      rw [bind_eq_error_iff_left unknown]
      simp [StopsItself, tested]

theorem evaluate_logical_eq_abrupt_iff (abrupt : stop.IsAbrupt) {op : LogicalOp}
    {left right : Expr} {deeper position : Nat} :
    (Expr.logical op left right position).evaluate env (deeper + 1) = .error stop ↔
      (∃ part ∈ (Expr.logical op left right position).entered env deeper,
        part.evaluate env deeper = .error stop) ∨
        (Expr.logical op left right position).StopsItself env deeper stop := by
  simp only [StopsItself, tested, ← exists_or, ← and_or_left, ← decided_eq_error_iff]
  rw [evaluate, enter_eq_abrupt_iff abrupt, ← bind_assoc, ← decided, bind_eq_error]
  simp only [decided_eq_ok_iff]
  have second : (right.evaluate env deeper >>= fun w => w.decide >>= fun b => pure (Value.bool b)) =
      .error stop ↔ right.decided env deeper = .error stop := by
    rw [← bind_assoc, bind_eq_error_iff_left fun _ => pure_ne_error, decided]
  cases op with
  | and =>
      rw [entered]
      cases truth : left.truth? env deeper with
      | none => simp
      | some a => cases a <;> simp [-bind_pure_comp, second]
  | or =>
      rw [entered]
      cases truth : left.truth? env deeper with
      | none => simp
      | some a => cases a <;> simp [-bind_pure_comp, second]
  | other symbol => simp [entered, abrupt.ne_cause]

theorem evaluate_conditional_eq_abrupt_iff (abrupt : stop.IsAbrupt)
    {test consequent alternate : Expr} {deeper position : Nat} :
    (Expr.conditional test consequent alternate position).evaluate env (deeper + 1) =
        .error stop ↔
      (∃ part ∈ (Expr.conditional test consequent alternate position).entered env deeper,
        part.evaluate env deeper = .error stop) ∨
        (Expr.conditional test consequent alternate position).StopsItself env deeper stop := by
  rw [evaluate, enter_eq_abrupt_iff abrupt, ← bind_assoc, ← decided, bind_eq_error]
  simp only [decided_eq_ok_iff, decided_eq_error_iff, StopsItself, tested, entered]
  cases truth : test.truth? env deeper with
  | none => simp
  | some a => cases a <;> simp [or_right_comm]

theorem evaluate_call_eq_abrupt_iff (abrupt : stop.IsAbrupt) {callee : String}
    {arguments : List Expr} {deeper position : Nat} :
    (Expr.call callee arguments position).evaluate env (deeper + 1) = .error stop ↔
      (∃ part ∈ (Expr.call callee arguments position).entered env deeper,
        part.evaluate env deeper = .error stop) ∨
        (Expr.call callee arguments position).StopsItself env deeper stop := by
  rw [evaluate, enter_eq_abrupt_iff abrupt, Registry.call, entered, Registry.contains, StopsItself]
  cases found : env.registry.find? callee with
  | none =>
      have unknown : ∀ error, Stop.failed (.runtime error) ≠ stop := fun error same =>
        abrupt error same.symm
      simp [unknown]
  | some d =>
      rw [if_pos Option.isSome_some, ← evaluateAll_eq_error, bind_eq_error]
      simp only [Option.some.injEq, exists_and_left, exists_eq_left']
      refine or_congr_right (exists_congr fun args => and_congr_right fun _ => ?_)
      cases d.checkArguments args with
      | error cause =>
          refine iff_of_false (fun same => abrupt _ (Except.error.inj same).symm) ?_
          rintro ⟨-, checked⟩
          cases checked
      | ok _ => simp [mapError_eq_error, abrupt.locate_eq_iff]

/-- A step of an evaluation stops without a runtime error with the evaluation of a part that it
enters, or by itself. -/
theorem evaluate_succ_eq_abrupt_iff (abrupt : stop.IsAbrupt) {e : Expr} {deeper : Nat} :
    e.evaluate env (deeper + 1) = .error stop ↔
      (∃ part ∈ e.entered env deeper, part.evaluate env deeper = .error stop) ∨
        e.StopsItself env deeper stop := by
  cases e with
  | unknown => simp [evaluate, entered, enteredAll, children, StopsItself, tested, abrupt.ne_cause]
  | literal kind raw position =>
      rw [evaluate, enter_eq_abrupt_iff abrupt, mapError_eq_error]
      simp [entered, enteredAll, children, StopsItself, eq_comm]
  | identifier name position =>
      rw [evaluate, enter_eq_abrupt_iff abrupt, mapError_eq_error]
      simp [entered, enteredAll, children, StopsItself, eq_comm]
  | member base name position =>
      rw [evaluate, enter_eq_abrupt_iff abrupt,
        bind_eq_error_iff_left fun v : Value => abrupt.ne_of_operands (v.property_fails name)]
      simp [entered, children, enteredAll_singleton, StopsItself, tested]
  | index base key position =>
      rw [evaluate, enter_eq_abrupt_iff abrupt,
        pair_eq_error_iff fun v k : Value => abrupt.ne_of_operands (v.at_fails k)]
      simp [entered, children, StopsItself, tested]
  | array elements position =>
      rw [evaluate, enter_eq_abrupt_iff abrupt, bind_eq_error_iff_left fun _ => pure_ne_error,
        evaluateAll_eq_error]
      simp [entered, children, StopsItself, tested]
  | object properties position =>
      rw [evaluate, enter_eq_abrupt_iff abrupt, bind_eq_error_iff_left fun _ => pure_ne_error,
        evaluateProperties_eq_error]
      simp [entered, children, StopsItself, tested]
  | unary op operand position =>
      rw [evaluate_unary_eq_abrupt_iff abrupt]
      simp [entered, children, enteredAll_singleton]
  | binary op left right position =>
      have never : ∀ a b, op.evaluate a b ≠ .error stop := by
        intro a b failed
        rcases op.evaluate_fails a b stop failed with ⟨c, same, -⟩ | ⟨symbol, -, same⟩
        · exact abrupt.ne_cause c same.symm
        · exact abrupt.ne_cause _ same.symm
      rw [evaluate, enter_eq_abrupt_iff abrupt, pair_eq_error_iff never]
      simp [entered, children, StopsItself, tested]
  | logical op left right position => exact evaluate_logical_eq_abrupt_iff abrupt
  | conditional test consequent alternate position =>
      exact evaluate_conditional_eq_abrupt_iff abrupt
  | call callee arguments position => exact evaluate_call_eq_abrupt_iff abrupt

/-! ### Evaluations -/

/-- Evaluating a tree with some levels left comes to a node for which none is left. Nodes of no known
kind take no level. -/
inductive Overruns (env : Environment) (node : Expr) : Expr → Nat → Prop where
  | root (known : node ≠ .unknown) : Overruns env node node 0
  | part {e part : Expr} {deeper : Nat} (entered : part ∈ e.entered env deeper)
      (below : Overruns env node part deeper) : Overruns env node e (deeper + 1)

theorem evaluate_zero_eq_abrupt_iff (abrupt : stop.IsAbrupt) {e : Expr} :
    e.evaluate env 0 = .error stop ↔ e ≠ .unknown ∧ env.tooDeep e.position = stop := by
  by_cases known : e = .unknown
  · subst known
    exact iff_of_false (fun same => abrupt.ne_cause _ (Except.error.inj same)) fun other =>
      other.1 rfl
  · obtain ⟨body, evaluation⟩ := evaluate_eq_enter known
    rw [evaluation, Environment.enter, Except.error.injEq, and_iff_right known]

/-- An evaluation stops without a runtime error exactly if it comes to a node that does so itself, or
to one for which no level is left. -/
theorem evaluate_eq_abrupt_iff (abrupt : stop.IsAbrupt) {e : Expr} {levels : Nat} :
    e.evaluate env levels = .error stop ↔
      (∃ node left, Reaches env node left e levels ∧ node.StopsItself env left stop) ∨
        ∃ node, Overruns env node e levels ∧ env.tooDeep node.position = stop := by
  induction e using partsInduction generalizing levels with
  | node e ih =>
      cases levels with
      | zero =>
          rw [evaluate_zero_eq_abrupt_iff abrupt]
          constructor
          · rintro ⟨known, same⟩
            exact .inr ⟨e, .root known, same⟩
          · rintro (⟨node, left, reaches, -⟩ | ⟨node, overruns, same⟩)
            · exact absurd reaches not_reaches_zero
            · cases overruns with
              | root known => exact ⟨known, same⟩
      | succ deeper =>
          have parts {part : Expr} (entered : part ∈ e.entered env deeper) :
              part.evaluate env deeper = .error stop ↔
                (∃ node left, Reaches env node left part deeper ∧
                  node.StopsItself env left stop) ∨
                  ∃ node, Overruns env node part deeper ∧ env.tooDeep node.position = stop :=
            ih part (mem_children_of_mem_entered entered)
          rw [evaluate_succ_eq_abrupt_iff abrupt]
          constructor
          · rintro (⟨part, entered, failed⟩ | itself)
            · refine ((parts entered).mp failed).imp ?_ ?_
              · rintro ⟨node, left, reaches, stops⟩
                exact ⟨node, left, .part entered reaches, stops⟩
              · rintro ⟨node, overruns, same⟩
                exact ⟨node, .part entered overruns, same⟩
            · exact .inl ⟨e, deeper, .root, itself⟩
          · rintro (⟨node, left, reaches, stops⟩ | ⟨node, overruns, same⟩)
            · rcases reaches_succ_iff.mp reaches with ⟨rfl, rfl⟩ | ⟨part, entered, below⟩
              · exact .inr stops
              · exact .inl ⟨part, entered, (parts entered).mpr (.inl ⟨node, left, below, stops⟩)⟩
            · cases overruns with
              | part entered below =>
                  exact .inl ⟨_, entered, (parts entered).mpr (.inr ⟨node, below, same⟩)⟩

end Expr

end Formula
