import Formula.Proofs.Evaluation.Defects
import Formula.Proofs.Expr.Recognition
import Formula.Proofs.Expr.Stretch
import Formula.Proofs.Function.Registry

/-!
Which node an error of an evaluation is blamed on: the one that the evaluation comes to, whose parts
have values, and whose own step fails on these values.
-/

namespace Formula

/-- An error of the formula in an evaluation. -/
def Stop.runtime (error : RuntimeError) : Stop := .failed (.runtime error)

/-- The result of a function in range. -/
def Definition.result (d : Definition) (context : Context) (args : List Value) :
    Except CallFailure Value := do
  let v ← d.implementation context args
  v.check.mapError .fault

/-- Functions have names in upper case, by which they are found. -/
def Registry.Capital (r : Registry) : Prop :=
  ∀ name d, r.find? name = some d → d.name = Text.upperName name

theorem Registry.capital_builtin : builtin.Capital := by
  intro name d found
  rw [keyed_builtin.upperName_eq found, upperName_builtin (mem_of_find?_builtin found)]

namespace Expr

/-- The own step of a node fails on the values of its parts, with a cause and in a function. A call
fails in its function, which errors name in upper case, unless the function reports an error of the
formula in its own words. -/
inductive StepFails (env : Environment) :
    Expr → List Value → RuntimeCause → Option String → Prop where
  | member {base : Expr} {name : String} {position : Nat} {v : Value} {cause : RuntimeCause}
      (fails : v.property name = .error (.cause cause)) :
      StepFails env (.member base name position) [v] cause none
  | index {base key : Expr} {position : Nat} {v k : Value} {cause : RuntimeCause}
      (fails : v.at_ k = .error (.cause cause)) :
      StepFails env (.index base key position) [v, k] cause none
  | unary {op : UnaryOp} {operand : Expr} {position : Nat} {v : Value} {cause : RuntimeCause}
      (fails : op.evaluate v = .error (.cause cause)) :
      StepFails env (.unary op operand position) [v] cause none
  | binary {op : BinaryOp} {left right : Expr} {position : Nat} {a b : Value}
      {cause : RuntimeCause} (fails : op.evaluate a b = .error (.cause cause)) :
      StepFails env (.binary op left right position) [a, b] cause none
  | unknown {callee : String} {arguments : List Expr} {position : Nat}
      (missing : env.registry.find? callee = none) :
      StepFails env (.call callee arguments position) [] (.unknownFunction callee)
        (some (Text.upperName callee))
  | refused {callee : String} {arguments : List Expr} {position : Nat} {d : Definition}
      {values : List Value} {cause : RuntimeCause} (found : env.registry.find? callee = some d)
      (refuses : d.checkArguments values = .error cause) :
      StepFails env (.call callee arguments position) values cause (some (Text.upperName callee))
  | faulty {callee : String} {arguments : List Expr} {position : Nat} {d : Definition}
      {values : List Value} {fault : Fault} (found : env.registry.find? callee = some d)
      (accepts : d.checkArguments values = .ok ())
      (fails : d.result env.context values = .error (.fault fault)) :
      StepFails env (.call callee arguments position) values (.call (Text.upperName callee) fault)
        (some (Text.upperName callee))
  | reported {callee : String} {arguments : List Expr} {position : Nat} {d : Definition}
      {values : List Value} {cause : RuntimeCause} (found : env.registry.find? callee = some d)
      (accepts : d.checkArguments values = .ok ())
      (fails : d.result env.context values = .error (.cause cause)) :
      StepFails env (.call callee arguments position) values cause none

/-- The parts of a node that its evaluation enters have values, and its own step fails on them with
an error at a place. -/
def FailsAt (env : Environment) (levels : Nat) (place : Option Nat) (error : RuntimeError)
    (e : Expr) : Prop :=
  ∃ values, (e.entered env levels).map (·.evaluate env levels) = values.map .ok ∧
    e.StepFails env values error.cause error.function ∧ error.position = place

variable {env : Environment} {error : RuntimeError} {levels deeper : Nat}

/-! ### Places -/

/-- A runtime error keeps the place that it has, and gets one if it has none. -/
theorem locate_eq_runtime_iff {position : Nat} {stop : Stop} :
    stop.locate position = .runtime error ↔ ∃ inner, stop = .runtime inner ∧
      error = { inner with position := inner.position.or (some position) } := by
  cases stop with
  | broken d =>
      refine iff_of_false (fun same => ?_) ?_
      · cases same
      · rintro ⟨inner, same, -⟩
        cases same
  | failed e =>
      cases e with
      | runtime inner =>
          constructor
          · rintro ⟨⟩
            exact ⟨inner, rfl, rfl⟩
          · rintro ⟨_, ⟨⟩, rfl⟩
            rfl
      | _ =>
          refine iff_of_false (fun same => ?_) ?_
          · cases same
          · rintro ⟨inner, same, -⟩
            cases same

theorem enter_eq_runtime_iff {position : Nat} {body : Nat → Except Stop Value} :
    env.enter (deeper + 1) position body = .error (.runtime error) ↔
      ∃ inner, body deeper = .error (.runtime inner) ∧
        error = { inner with position := inner.position.or (some position) } := by
  rw [Environment.enter, mapError_eq_error]
  simp only [locate_eq_runtime_iff]
  constructor
  · rintro ⟨_, failed, inner, rfl, same⟩
    exact ⟨inner, failed, same⟩
  · rintro ⟨inner, failed, same⟩
    exact ⟨_, failed, inner, rfl, same⟩

theorem enter_zero_ne_runtime {position : Nat} {body : Nat → Except Stop Value} :
    env.enter 0 position body ≠ .error (.runtime error) := by
  intro failed
  rw [Environment.enter, Environment.tooDeep] at failed
  split at failed
  · cases failed
  · cases failed

/-- Whatever comes out of a node that formulas are written with has a place. -/
theorem isSome_position_enter {position : Nat} {body : Nat → Except Stop Value}
    (failed : env.enter levels position body = .error (.runtime error)) :
    error.position.isSome := by
  cases levels with
  | zero => exact absurd failed enter_zero_ne_runtime
  | succ deeper =>
      obtain ⟨inner, -, rfl⟩ := enter_eq_runtime_iff.mp failed
      cases inner.position <;> rfl

theorem IsWritable.ne_unknown {e : Expr} (writable : e.IsWritable) : e ≠ .unknown := by
  rintro rfl
  exact writable

theorem isSome_position_evaluate {e : Expr} (writable : e.IsWritable)
    (failed : e.evaluate env levels = .error (.runtime error)) : error.position.isSome := by
  obtain ⟨body, evaluation⟩ := evaluate_eq_enter writable.ne_unknown
  rw [evaluation] at failed
  exact isSome_position_enter failed

theorem evaluate_zero_ne_runtime {e : Expr} (writable : e.IsWritable) :
    e.evaluate env 0 ≠ .error (.runtime error) := by
  obtain ⟨body, evaluation⟩ := evaluate_eq_enter writable.ne_unknown
  rw [evaluation]
  exact enter_zero_ne_runtime

/-- The errors of the parts have places already; one of the own step gets the place of the node. -/
theorem enter_eq_runtime_iff_of_body {e : Expr} {body : Nat → Except Stop Value}
    (place : Option Nat) (parts : ∀ part ∈ e.children, part.IsWritable)
    (fits : place.or (some e.position) = some e.position)
    (steps : ∀ inner, body deeper = .error (.runtime inner) ↔
      (∃ part ∈ e.entered env deeper, part.evaluate env deeper = .error (.runtime inner)) ∨
        e.FailsAt env deeper place inner) :
    env.enter (deeper + 1) e.position body = .error (.runtime error) ↔
      (∃ part ∈ e.entered env deeper, part.evaluate env deeper = .error (.runtime error)) ∨
        e.FailsAt env deeper (some e.position) error := by
  have kept {part : Expr} {inner : RuntimeError} (entered : part ∈ e.entered env deeper)
      (failed : part.evaluate env deeper = .error (.runtime inner)) :
      { inner with position := inner.position.or (some e.position) } = inner := by
    have writable := parts part (mem_children_of_mem_entered entered)
    obtain ⟨position, located⟩ :=
      Option.isSome_iff_exists.mp (isSome_position_evaluate writable failed)
    obtain ⟨cause, _, function⟩ := inner
    cases located
    rfl
  rw [enter_eq_runtime_iff]
  constructor
  · rintro ⟨inner, failed, rfl⟩
    rcases (steps inner).mp failed with ⟨part, entered, failed⟩ | ⟨values, have_, fails, placed⟩
    · exact .inl ⟨part, entered, (kept entered failed).symm ▸ failed⟩
    · exact .inr ⟨values, have_, fails, by rw [placed, fits]⟩
  · rintro (⟨part, entered, failed⟩ | ⟨values, have_, fails, placed⟩)
    · exact ⟨error, (steps error).mpr (.inl ⟨part, entered, failed⟩), (kept entered failed).symm⟩
    · refine ⟨{ error with position := place },
        (steps _).mpr (.inr ⟨values, have_, fails, rfl⟩), ?_⟩
      obtain ⟨cause, _, function⟩ := error
      cases placed
      rw [fits]

/-! ### Steps -/

/-- A stop that says neither where it is nor in which function. -/
def Bare (stop : Stop) : Prop :=
  ∀ error, stop = .runtime error → error.function = none ∧ error.position = none

theorem bare_cause (c : RuntimeCause) : Bare (.cause c) := by
  rintro _ ⟨⟩
  exact ⟨rfl, rfl⟩

theorem bare_broken (d : Defect) : Bare (.broken d) := by
  rintro _ ⟨⟩

theorem bare_of_operands {α : Type} {x : Except Stop α} (fails : FailsOnly Stop.OfOperands x) :
    FailsOnly Bare x := by
  refine fails.imp ?_
  rintro _ ⟨c, rfl, -⟩
  exact bare_cause c

theorem bare_unary (op : UnaryOp) (v : Value) : FailsOnly Bare (op.evaluate v) := by
  cases op with
  | not =>
      refine FailsOnly.bind (fun stop failed => ?_) fun b => failsOnly_pure _
      rw [(Value.decide_eq_error_iff.mp failed).1]
      exact bare_broken _
  | negate => exact bare_of_operands (UnaryOp.negate_fails v)
  | other symbol => exact failsOnly_error (bare_cause _)

theorem bare_binary (op : BinaryOp) (a b : Value) : FailsOnly Bare (op.evaluate a b) := by
  refine (op.evaluate_fails a b).imp ?_
  rintro _ (⟨c, rfl, -⟩ | ⟨symbol, -, rfl⟩)
  · exact bare_cause c
  · exact bare_cause _

theorem eq_runtime_iff_of_bare {α : Type} {x : Except Stop α} (bare : FailsOnly Bare x) :
    x = .error (.runtime error) ↔
      x = .error (.cause error.cause) ∧ error.function = none ∧ error.position = none := by
  constructor
  · intro failed
    obtain ⟨named, placed⟩ := bare _ failed error rfl
    obtain ⟨cause, position, function⟩ := error
    cases named
    cases placed
    exact ⟨failed, rfl, rfl⟩
  · obtain ⟨cause, position, function⟩ := error
    rintro ⟨failed, rfl, rfl⟩
    exact failed

/-- Of parts that are evaluated one after the other, those that are entered have values exactly if
all have. -/
theorem map_enteredAll_eq_iff {parts : List Expr} {values : List Value} :
    (enteredAll env levels parts).map (·.evaluate env levels) = values.map .ok ↔
      evaluateAll env parts levels = .ok values := by
  induction parts generalizing values with
  | nil => cases values <;> simp [enteredAll, evaluateAll]
  | cons first rest ih =>
      rw [enteredAll, evaluateAll, bind_eq_ok]
      cases value : first.evaluate env levels with
      | error stop => cases values <;> simp [value]
      | ok v =>
          simp only [Except.ok.injEq, exists_eq_left', bind_eq_ok]
          cases values with
          | nil => simp [pure, Except.pure]
          | cons w values => simp [value, ih, pure, Except.pure, and_comm]

section

variable {e first second : Expr}

theorem evaluateAll_pair_eq_ok_iff {a b : Value} :
    evaluateAll env [first, second] levels = .ok [a, b] ↔
      first.evaluate env levels = .ok a ∧ second.evaluate env levels = .ok b := by
  simp only [evaluateAll, bind_eq_ok]
  simp [pure, Except.pure]

theorem one_eq_runtime_iff {finish : Value → Except Stop Value}
    (parts : e.entered env deeper = [first])
    (own : ∀ values cause function, e.StepFails env values cause function ↔
      ∃ v, values = [v] ∧ finish v = .error (.cause cause) ∧ function = none)
    (bare : ∀ v, FailsOnly Bare (finish v)) :
    (first.evaluate env deeper >>= finish) = .error (.runtime error) ↔
      (∃ part ∈ e.entered env deeper, part.evaluate env deeper = .error (.runtime error)) ∨
        e.FailsAt env deeper none error := by
  simp only [FailsAt, own, parts, bind_eq_error, eq_runtime_iff_of_bare (bare _)]
  constructor
  · rintro (failed | ⟨v, value, failed, named, placed⟩)
    · exact .inl ⟨first, List.mem_singleton_self first, failed⟩
    · exact .inr ⟨[v], by simp [value], ⟨v, rfl, failed, named⟩, placed⟩
  · rintro (⟨part, member, failed⟩ | ⟨_, values, ⟨v, rfl, failed, named⟩, placed⟩)
    · exact .inl (List.mem_singleton.mp member ▸ failed)
    · exact .inr ⟨v, by simpa using values, failed, named, placed⟩

theorem two_eq_runtime_iff {finish : Value → Value → Except Stop Value}
    (parts : e.entered env deeper = enteredAll env deeper [first, second])
    (own : ∀ values cause function, e.StepFails env values cause function ↔
      ∃ a b, values = [a, b] ∧ finish a b = .error (.cause cause) ∧ function = none)
    (bare : ∀ a b, FailsOnly Bare (finish a b)) :
    (do
      let a ← first.evaluate env deeper
      let b ← second.evaluate env deeper
      finish a b) = .error (.runtime error) ↔
      (∃ part ∈ e.entered env deeper, part.evaluate env deeper = .error (.runtime error)) ∨
        e.FailsAt env deeper none error := by
  simp only [FailsAt, own, parts, bind_eq_error, eq_runtime_iff_of_bare (bare _ _)]
  constructor
  · rintro (failed | ⟨a, value, failed | ⟨b, value', failed, named, placed⟩⟩)
    · exact .inl ⟨first, mem_enteredAll_pair.mpr (.inl rfl), failed⟩
    · exact .inl ⟨second, mem_enteredAll_pair.mpr (.inr ⟨⟨a, value⟩, rfl⟩), failed⟩
    · refine .inr ⟨[a, b], ?_, ⟨a, b, rfl, failed, named⟩, placed⟩
      simp [enteredAll, value, value']
  · rintro (⟨part, member, failed⟩ | ⟨_, values, ⟨a, b, rfl, failed, named⟩, placed⟩)
    · rcases mem_enteredAll_pair.mp member with rfl | ⟨⟨a, value⟩, rfl⟩
      · exact .inl failed
      · exact .inr ⟨a, value, .inl failed⟩
    · obtain ⟨value, value'⟩ := evaluateAll_pair_eq_ok_iff.mp (map_enteredAll_eq_iff.mp values)
      exact .inr ⟨a, value, .inr ⟨b, value', failed, named, placed⟩⟩

end

theorem not_failsAt {e : Expr} {place : Option Nat}
    (never : ∀ values cause function, ¬ e.StepFails env values cause function) :
    ¬ e.FailsAt env levels place error := by
  rintro ⟨values, -, fails, -⟩
  exact never _ _ _ fails

/-- What is made of the values of parts that are evaluated one after the other cannot fail. -/
theorem all_eq_runtime_iff {α : Type} {e : Expr} {parts : List Expr} {x : Except Stop α}
    {finish : α → Value} (failures : ∀ stop, x = .error stop ↔
      ∃ part ∈ enteredAll env deeper parts, part.evaluate env deeper = .error stop)
    (entered : e.entered env deeper = enteredAll env deeper parts)
    (never : ∀ values cause function, ¬ e.StepFails env values cause function) :
    (x >>= fun a => pure (finish a)) = .error (.runtime error) ↔
      (∃ part ∈ e.entered env deeper, part.evaluate env deeper = .error (.runtime error)) ∨
        e.FailsAt env deeper none error := by
  rw [or_iff_left (not_failsAt never), entered, ← failures, bind_eq_error]
  simp only [pure_ne_error, and_false, exists_false, or_false]

theorem decided_eq_runtime_iff {e : Expr} :
    e.decided env levels = .error (.runtime error) ↔
      e.evaluate env levels = .error (.runtime error) := by
  rw [decided, bind_eq_error, or_iff_left]
  rintro ⟨v, -, failed⟩
  cases (Value.decide_eq_error_iff.mp failed).1

theorem truth_eq_runtime_iff {e : Expr} :
    (e.evaluate env levels >>= fun v => v.decide >>= fun b => pure (Value.bool b)) =
        .error (.runtime error) ↔
      e.evaluate env levels = .error (.runtime error) := by
  rw [← bind_assoc, ← decided, bind_eq_error, decided_eq_runtime_iff]
  simp only [pure_ne_error, and_false, exists_false, or_false]

section

variable {left right test consequent alternate : Expr} {op : LogicalOp} {position : Nat}

theorem logical_eq_runtime_iff (known : (Expr.logical op left right position).IsWritable) :
    (do
      let a ← (← left.evaluate env deeper).decide
      match op with
      | .and =>
          if a then return .bool (← (← right.evaluate env deeper).decide)
          else return .bool false
      | .or =>
          if a then return .bool true
          else return .bool (← (← right.evaluate env deeper).decide)
      | .other symbol => .error (.cause (.unknownLogicalOperator symbol)) :
        Except Stop Value) = .error (.runtime error) ↔
      (∃ part ∈ (Expr.logical op left right position).entered env deeper,
        part.evaluate env deeper = .error (.runtime error)) ∨
        (Expr.logical op left right position).FailsAt env deeper none error := by
  have never : ¬ (Expr.logical op left right position).FailsAt env deeper none error := by
    refine not_failsAt fun values cause function fails => ?_
    cases fails
  rw [or_iff_left never, ← bind_assoc, ← decided, bind_eq_error, decided_eq_runtime_iff]
  simp only [decided_eq_ok_iff]
  cases op with
  | and | or =>
      rw [entered]
      cases truth : left.truth? env deeper with
      | none => simp
      | some a => cases a <;> simp [-bind_pure_comp, truth_eq_runtime_iff]
  | other symbol => exact absurd known id

theorem conditional_eq_runtime_iff :
    (do
      if ← (← test.evaluate env deeper).decide then consequent.evaluate env deeper
      else alternate.evaluate env deeper : Except Stop Value) = .error (.runtime error) ↔
      (∃ part ∈ (Expr.conditional test consequent alternate position).entered env deeper,
        part.evaluate env deeper = .error (.runtime error)) ∨
        (Expr.conditional test consequent alternate position).FailsAt env deeper none error := by
  have never :
      ¬ (Expr.conditional test consequent alternate position).FailsAt env deeper none error := by
    refine not_failsAt fun values cause function fails => ?_
    cases fails
  rw [or_iff_left never, ← bind_assoc, ← decided, bind_eq_error, decided_eq_runtime_iff]
  simp only [decided_eq_ok_iff, entered]
  cases truth : test.truth? env deeper with
  | none => simp
  | some a => cases a <;> simp

end

end Expr

/-! ### Calls -/

theorem Definition.call_eq_runtime_iff {d : Definition} {context : Context} {args : List Value}
    {error : RuntimeError} :
    d.call context args = .error (.runtime error) ↔
      (∃ fault, d.result context args = .error (.fault fault) ∧
        error = ⟨.call d.name fault, none, some d.name⟩) ∨
      ∃ cause, d.result context args = .error (.cause cause) ∧ error = ⟨cause, none, none⟩ := by
  have result : (do
      let v ← d.implementation context args
      v.check.mapError .fault) = d.result context args := rfl
  unfold Definition.call
  dsimp only
  rw [result]
  cases d.result context args with
  | ok v => simp
  | error failure => cases failure <;> simp [Stop.runtime, eq_comm]

namespace Expr

variable {env : Environment} {error : RuntimeError} {deeper : Nat}

theorem stepFails_unknown_iff {callee : String} {arguments : List Expr} {position : Nat}
    (missing : env.registry.find? callee = none) {cause : RuntimeCause} {function : Option String} :
    StepFails env (.call callee arguments position) [] cause function ↔
      cause = .unknownFunction callee ∧ function = some (Text.upperName callee) := by
  constructor
  · intro fails
    cases fails with
    | unknown => exact ⟨rfl, rfl⟩
    | refused found | faulty found | reported found => cases missing.symm.trans found
  · rintro ⟨rfl, rfl⟩
    exact .unknown missing

theorem stepFails_known_iff (capital : env.registry.Capital) {callee : String}
    {arguments : List Expr} {position : Nat} {d : Definition}
    (found : env.registry.find? callee = some d) {values : List Value} :
    StepFails env (.call callee arguments position) values error.cause error.function ∧
        error.position = some position ↔
      (match d.checkArguments values with
      | .error cause => .error (.failed (.runtime ⟨cause, some position, some d.name⟩))
      | .ok () => (d.call env.context values).mapError (Stop.locate position)) =
        (.error (.runtime error) : Except Stop Value) := by
  have same {d' : Definition} (found' : env.registry.find? callee = some d') : d' = d :=
    Option.some.inj (found'.symm.trans found)
  obtain ⟨cause, place, function⟩ := error
  rw [capital callee d found]
  cases checked : d.checkArguments values with
  | error refusal =>
      constructor
      · rintro ⟨fails, rfl⟩
        cases fails with
        | unknown missing => cases missing.symm.trans found
        | refused found' refuses =>
            cases same found'
            cases checked.symm.trans refuses
            rfl
        | faulty found' accepts | reported found' accepts =>
            cases same found'
            cases checked.symm.trans accepts
      · rintro ⟨⟩
        exact ⟨.refused found checked, rfl⟩
  | ok _ =>
      dsimp only
      rw [mapError_eq_error]
      simp only [locate_eq_runtime_iff]
      constructor
      · rintro ⟨fails, rfl⟩
        cases fails with
        | unknown missing => cases missing.symm.trans found
        | refused found' refuses =>
            cases same found'
            cases checked.symm.trans refuses
        | faulty found' accepts fails =>
            cases same found'
            exact ⟨_, Definition.call_eq_runtime_iff.mpr (.inl ⟨_, fails, rfl⟩), _, rfl,
              by rw [capital callee d found]; rfl⟩
        | reported found' accepts fails =>
            cases same found'
            exact ⟨_, Definition.call_eq_runtime_iff.mpr (.inr ⟨_, fails, rfl⟩), _, rfl, rfl⟩
      · rintro ⟨_, failed, inner, rfl, located⟩
        rcases Definition.call_eq_runtime_iff.mp failed with
          ⟨fault, fails, rfl⟩ | ⟨cause, fails, rfl⟩
        · cases located
          rw [capital callee d found]
          exact ⟨.faulty found checked fails, rfl⟩
        · cases located
          exact ⟨.reported found checked fails, rfl⟩

/-- A call stops with an error at its place when its function is not known, refuses the arguments or
fails on them. -/
theorem call_eq_runtime_iff (capital : env.registry.Capital) {callee : String}
    {arguments : List Expr} {position : Nat} :
    env.registry.call env.context callee position (evaluateAll env arguments deeper) =
        .error (.runtime error) ↔
      (∃ part ∈ (Expr.call callee arguments position).entered env deeper,
        part.evaluate env deeper = .error (.runtime error)) ∨
        (Expr.call callee arguments position).FailsAt env deeper (some position) error := by
  rw [Registry.call, FailsAt, entered, Registry.contains]
  cases found : env.registry.find? callee with
  | none =>
      rw [if_neg (by simp)]
      constructor
      · rintro ⟨⟩
        exact .inr ⟨[], rfl, .unknown found, rfl⟩
      · rintro (⟨part, none, -⟩ | ⟨values, entered, fails, placed⟩)
        · cases none
        · obtain ⟨cause, place, function⟩ := error
          cases List.map_eq_nil_iff.mp entered.symm
          obtain ⟨rfl, rfl⟩ := (stepFails_unknown_iff found).mp fails
          cases placed
          rfl
  | some d =>
      rw [if_pos Option.isSome_some, ← evaluateAll_eq_error, bind_eq_error]
      refine or_congr Iff.rfl (exists_congr fun values =>
        and_congr map_enteredAll_eq_iff.symm ?_)
      exact (stepFails_known_iff capital found).symm

/-! ### Trees -/

/-- A node stops with a runtime error that a part it enters stops with, or with one of its own
step. -/
theorem evaluate_succ_eq_runtime_iff (capital : env.registry.Capital) {e : Expr}
    (writable : e.IsWritable) (parts : ∀ part ∈ e.children, part.IsWritable) :
    e.evaluate env (deeper + 1) = .error (.runtime error) ↔
      (∃ part ∈ e.entered env deeper, part.evaluate env deeper = .error (.runtime error)) ∨
        e.FailsAt env deeper (some e.position) error := by
  cases e with
  | unknown => exact absurd writable id
  | literal kind raw position =>
      refine enter_eq_runtime_iff_of_body none parts rfl fun inner => ?_
      refine iff_of_false (fun failed => ?_) ?_
      · obtain ⟨f, -, same⟩ := mapError_eq_error.mp failed
        cases same
      · rintro (⟨part, none, -⟩ | ⟨values, -, fails, -⟩)
        · cases none
        · cases fails
  | identifier name position =>
      refine enter_eq_runtime_iff_of_body none parts rfl fun inner => ?_
      refine iff_of_false (fun failed => ?_) ?_
      · obtain ⟨f, -, same⟩ := mapError_eq_error.mp failed
        cases same
      · rintro (⟨part, none, -⟩ | ⟨values, -, fails, -⟩)
        · cases none
        · cases fails
  | member base name position =>
      refine enter_eq_runtime_iff_of_body none parts rfl fun inner => ?_
      refine one_eq_runtime_iff (enteredAll_singleton base deeper) (fun values cause function => ?_)
        fun v => bare_of_operands (v.property_fails name)
      constructor
      · intro fails
        cases fails with
        | member fails => exact ⟨_, rfl, fails, rfl⟩
      · rintro ⟨v, rfl, fails, rfl⟩
        exact .member fails
  | index base key position =>
      refine enter_eq_runtime_iff_of_body none parts rfl fun inner => ?_
      refine two_eq_runtime_iff rfl (fun values cause function => ?_)
        fun v k => bare_of_operands (v.at_fails k)
      constructor
      · intro fails
        cases fails with
        | index fails => exact ⟨_, _, rfl, fails, rfl⟩
      · rintro ⟨v, k, rfl, fails, rfl⟩
        exact .index fails
  | array elements position =>
      refine enter_eq_runtime_iff_of_body none parts rfl fun inner => ?_
      refine all_eq_runtime_iff (fun stop => evaluateAll_eq_error) rfl
        fun values cause function fails => ?_
      cases fails
  | object properties position =>
      refine enter_eq_runtime_iff_of_body none parts rfl fun inner => ?_
      refine all_eq_runtime_iff (fun stop => evaluateProperties_eq_error) rfl
        fun values cause function fails => ?_
      cases fails
  | unary op operand position =>
      refine enter_eq_runtime_iff_of_body none parts rfl fun inner => ?_
      refine one_eq_runtime_iff (enteredAll_singleton operand deeper)
        (fun values cause function => ?_) (bare_unary op)
      constructor
      · intro fails
        cases fails with
        | unary fails => exact ⟨_, rfl, fails, rfl⟩
      · rintro ⟨v, rfl, fails, rfl⟩
        exact .unary fails
  | binary op left right position =>
      refine enter_eq_runtime_iff_of_body none parts rfl fun inner => ?_
      refine two_eq_runtime_iff rfl (fun values cause function => ?_) (bare_binary op)
      constructor
      · intro fails
        cases fails with
        | binary fails => exact ⟨_, _, rfl, fails, rfl⟩
      · rintro ⟨a, b, rfl, fails, rfl⟩
        exact .binary fails
  | logical op left right position =>
      refine enter_eq_runtime_iff_of_body none parts rfl fun inner => ?_
      exact logical_eq_runtime_iff writable
  | conditional test consequent alternate position =>
      refine enter_eq_runtime_iff_of_body none parts rfl fun inner => ?_
      exact conditional_eq_runtime_iff
  | call callee arguments position =>
      refine enter_eq_runtime_iff_of_body (some position) parts rfl fun inner => ?_
      exact call_eq_runtime_iff capital

/-- A tree that formulas are written with stops with a runtime error exactly if its evaluation comes
to a node whose own step fails with it. -/
theorem evaluate_eq_runtime_iff (capital : env.registry.Capital) (e : Expr)
    (writable : ∀ node, Within node e → node.IsWritable) {levels : Nat} :
    e.evaluate env levels = .error (.runtime error) ↔
      ∃ node left, Reaches env node left e levels ∧
        node.FailsAt env left (some node.position) error := by
  induction e using partsInduction generalizing levels with
  | node e ih =>
      cases levels with
      | zero =>
          refine iff_of_false (evaluate_zero_ne_runtime (writable e .root)) ?_
          rintro ⟨node, left, reaches, -⟩
          exact not_reaches_zero reaches
      | succ deeper =>
          rw [evaluate_succ_eq_runtime_iff capital (writable e .root) fun part member =>
            writable part (.part member .root)]
          have parts {part : Expr} (entered : part ∈ e.entered env deeper) :
              part.evaluate env deeper = .error (.runtime error) ↔
                ∃ node left, Reaches env node left part deeper ∧
                  node.FailsAt env left (some node.position) error := by
            have member := mem_children_of_mem_entered entered
            exact ih part member fun node within => writable node (.part member within)
          constructor
          · rintro (⟨part, entered, failed⟩ | fails)
            · obtain ⟨node, left, reaches, fails⟩ := (parts entered).mp failed
              exact ⟨node, left, .part entered reaches, fails⟩
            · exact ⟨e, deeper, .root, fails⟩
          · rintro ⟨node, left, reaches, fails⟩
            rcases reaches_succ_iff.mp reaches with ⟨rfl, rfl⟩ | ⟨part, entered, below⟩
            · exact .inr fails
            · exact .inl ⟨part, entered, (parts entered).mpr ⟨node, left, below, fails⟩⟩

theorem isWritable_of_parse {host : Host} {source : String} {maxNesting : Int} {tree node : Expr}
    (parses : parse host source maxNesting = .ok tree) (within : Within node tree) :
    node.IsWritable := by
  obtain ⟨tokens, stop, -, derives⟩ := derives_of_parse parses
  obtain ⟨front, inner, back, level, -, whole, -⟩ :=
    derives.allStand tree List.mem_cons_self node within
  exact whole.isWritable rfl

/-- Evaluating a formula ends in a runtime error exactly if it comes to a node whose parts, as far as
they are evaluated, have values and whose own step fails on these values. The error has the position
of this node and no other, and it names the function of a call in upper case. -/
theorem blames_innermost {host : Host} {source : String} {maxNesting : Int} {tree : Expr}
    (parses : parse host source maxNesting = .ok tree) (context : Context) (maxDepth : Int)
    (error : RuntimeError) :
    let env : Environment := ⟨context, .builtin, maxDepth, host⟩
    tree.value context .builtin maxDepth host = .error (.failed (.runtime error)) ↔
      ∃ node left values, Within node tree ∧
        Reaches env node left tree (min maxDepth.toNat host.depth) ∧
        (node.entered env left).map (·.evaluate env left) = values.map .ok ∧
        node.StepFails env values error.cause error.function ∧
        error.position = some node.position := by
  intro env
  have capital : env.registry.Capital := Registry.capital_builtin
  have blamed : tree.evaluate env (min maxDepth.toNat host.depth) = .error (.runtime error) ↔
      ∃ node left, Reaches env node left tree (min maxDepth.toNat host.depth) ∧
        node.FailsAt env left (some node.position) error :=
    evaluate_eq_runtime_iff capital tree fun node => isWritable_of_parse parses
  constructor
  · intro failed
    obtain ⟨node, left, reaches, values, parts, fails, placed⟩ := blamed.mp failed
    exact ⟨node, left, values, reaches.within, reaches, parts, fails, placed⟩
  · rintro ⟨node, left, values, -, reaches, parts, fails, placed⟩
    exact blamed.mpr ⟨node, left, reaches, values, parts, fails, placed⟩

theorem blames_innermost_quotient :
    let context : Context := {
      fields := [("x", .int 1)]
      clock := .ofMoment .universal (.atMidnight ⟨2024, 1, 15, by decide⟩ none) }
    let env : Environment := ⟨context, .builtin, 200, .universal⟩
    ∃ tree error, parse .universal "x + 7 / 0" 32 = .ok tree ∧
      tree.value context .builtin 200 .universal = .error (.failed (.runtime error)) ∧
      error.position = some 6 ∧ error.function = none ∧
      ∃ node left values, Within node tree ∧ Reaches env node left tree 200 ∧
        (node.entered env left).map (·.evaluate env left) = values.map .ok ∧
        node.StepFails env values error.cause none ∧ node.position = 6 := by
  intro context env
  have outcome : ((parse .universal "x + 7 / 0" 32).toOption.any fun tree =>
      match tree.value context .builtin 200 .universal with
      | .error (.failed e) =>
          decide (e.info.kind = "runtime" ∧ e.info.position = some 6 ∧ e.info.function = none)
      | .error (.broken _) | .ok _ => false) = true := by
    decide +kernel
  obtain ⟨tree, parsed, outcome⟩ := (Option.any_eq_true _ _).mp outcome
  have parses := toOption_eq_some.mp parsed
  split at outcome
  · rename_i e failed
    obtain ⟨kind, place, function⟩ := of_decide_eq_true outcome
    cases e with
    | runtime error =>
        change error.position = some 6 at place
        change error.function = none at function
        obtain ⟨node, left, values, within, reaches, parts, fails, placed⟩ :=
          (blames_innermost parses context 200 error).mp failed
        rw [function] at fails
        exact ⟨tree, error, parses, failed, place, function, node, left, values, within, reaches,
          parts, fails, Option.some.inj (placed.symm.trans place)⟩
    | _ => simp [FormulaError.info] at kind
  · cases outcome
  · cases outcome

end Expr

end Formula
