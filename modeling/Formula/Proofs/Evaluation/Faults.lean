import Formula.Evaluation.Basic
import Formula.Proofs.Function.Builtin
import Formula.Proofs.Number.Binary

/-!
Which values have no truth, which names no value, and which operations of a formula fail with nothing
but errors of the formula.
-/

namespace Formula

/-! ### Values without a truth and names without a value -/

theorem Number.toFloat_int_eq_error_iff {n : Int} {f : Fault} :
    (Number.int n).toFloat = .error f ↔
      f = .integerTooLargeForFloat ∧ Binary.BeyondFloats n := by
  rw [← Binary.ofInt?_eq_none_iff, Number.toFloat]
  cases Binary.ofInt? n with
  | some x => simp
  | none => simp [eq_comm]

/-- Only an integer beyond the floats has no truth. -/
theorem Value.truth_eq_error_iff {v : Value} {f : Fault} :
    v.truth = .error f ↔
      f = .integerTooLargeForFloat ∧ ∃ n, v = .int n ∧ Binary.BeyondFloats n := by
  cases v with
  | number x =>
      cases x with
      | int n =>
          rw [truth]
          split
          · rename_i zero
            subst zero
            simp [Value.int, Binary.not_beyondFloats_zero]
          · rw [map_eq_error, Number.toFloat_int_eq_error_iff]
            simp [Value.int]
      | float x => simp [truth, Value.int]
  | _ => simp [truth, Value.int]

/-- The zone of a context cannot be told: nothing names it, and the host cannot place the time. -/
def Context.ZoneUnknown (c : Context) (f : Fault) : Prop :=
  (∀ zone, c.timezone = some zone → zone = "") ∧
    (∀ label, c.clock.zoneLabel = some label → label = "") ∧ c.clock.hostZone = .error f

/-- A name stands for the system record of a context: no field or variable has it. -/
def Context.NamesSystem (c : Context) (name : String) : Prop :=
  Record.get? name c.fields = none ∧ Record.get? name c.vars = none ∧
    (∀ bare, name.toList ≠ '$' :: bare) ∧ Text.lowerName name = "system"

theorem Clock.zoneName_eq_error_iff {c : Clock} {f : Fault} :
    c.zoneName = .error f ↔
      (∀ label, c.zoneLabel = some label → label = "") ∧ c.hostZone = .error f := by
  unfold zoneName
  cases c.zoneLabel with
  | none => simp
  | some label => by_cases empty : label = "" <;> simp [empty]

theorem Context.zoneName_eq_error_iff {c : Context} {f : Fault} :
    c.zoneName = .error f ↔ c.ZoneUnknown f := by
  unfold zoneName ZoneUnknown
  rw [← Clock.zoneName_eq_error_iff]
  cases c.timezone with
  | none => simp
  | some zone => by_cases empty : zone = "" <;> simp [empty]

theorem Context.ownValue_eq_error_iff {c : Context} {name : String} {f : Fault} :
    c.ownValue name = .error f ↔ Text.lowerName name = "system" ∧ c.ZoneUnknown f := by
  have system : c.system = .error f ↔ c.ZoneUnknown f := by
    rw [← zoneName_eq_error_iff, Context.system, bind_eq_error]
    simp only [or_iff_left_iff_imp]
    rintro ⟨zone, -, failed⟩
    cases failed
  unfold Context.ownValue
  split
  · rename_i now
    simp [now]
  · rename_i today
    simp [today]
  · rename_i user
    simp [user]
  · rename_i named
    simp [named, system]
  · rename_i other
    exact iff_of_false (fun failed => nomatch failed) fun found => other found.1

theorem Context.resolve_eq_error_iff {c : Context} {name : String} {f : Fault} :
    c.resolve name = .error f ↔ c.NamesSystem name ∧ c.ZoneUnknown f := by
  unfold Context.resolve NamesSystem
  cases field : Record.get? name c.fields with
  | some v => simp
  | none =>
      cases var : Record.get? name c.vars with
      | some v => simp
      | none =>
          dsimp only
          split
          · rename_i bare letters
            simp [letters]
          · rename_i plain
            rw [ownValue_eq_error_iff]
            have noDollar : ∀ bare, name.toList ≠ '$' :: bare := plain
            simp [noDollar]

/-! ### Operations that fail but never break down -/

/-- An error of the formula, not a defect. -/
def Stop.IsFailure (stop : Stop) : Prop := ∀ d, stop ≠ .broken d

theorem Stop.isFailure_failed (e : FormulaError) : (Stop.failed e).IsFailure :=
  fun _ same => nomatch same

/-- What an operator or an access to a value can find wrong with its operands. -/
def RuntimeCause.OfOperands : RuntimeCause → Prop
  | .noProperty _ _ | .indexNotWhole _ | .notIndexable _ | .cannotNegate _ | .divisionByZero
  | .moduloByZero | .cannotApply _ _ _ | .arithmetic _ _ | .noText _ | .order _ => True
  | _ => False

def Stop.OfOperands (stop : Stop) : Prop := ∃ c, stop = .cause c ∧ c.OfOperands

theorem failsOnly_cause {α : Type} {c : RuntimeCause} (operands : c.OfOperands) :
    FailsOnly Stop.OfOperands (.error (.cause c) : Except Stop α) :=
  failsOnly_error ⟨c, rfl, operands⟩

namespace Value

theorem operandText_fails (v : Value) : FailsOnly Stop.OfOperands v.operandText :=
  failsOnly_mapError _ fun f => ⟨.noText f, rfl, trivial⟩

theorem order_fails (a b : Value) : FailsOnly Stop.OfOperands (a.order b) :=
  failsOnly_mapError _ fun e => ⟨.order e, rfl, trivial⟩

theorem property_fails (v : Value) (name : String) :
    FailsOnly Stop.OfOperands (v.property name) := by
  unfold property
  split
  · exact failsOnly_ok _
  · exact failsOnly_ok _
  · split <;> exact failsOnly_ok _
  · split
    · exact failsOnly_ok _
    · exact failsOnly_cause trivial
  · exact failsOnly_cause trivial

theorem toIndex_fails (key : Value) : FailsOnly Stop.OfOperands key.toIndex := by
  unfold toIndex
  dsimp only
  split
  · exact failsOnly_ok _
  · exact (operandText_fails key).bind fun _ => failsOnly_cause trivial

theorem at_fails (v key : Value) : FailsOnly Stop.OfOperands (v.at_ key) := by
  unfold at_
  split
  · exact failsOnly_ok _
  · exact failsOnly_ok _
  · exact (operandText_fails key).bind fun _ => failsOnly_ok _
  · exact (toIndex_fails key).bind fun _ => failsOnly_ok _
  · exact (toIndex_fails key).bind fun _ => failsOnly_ok _
  · exact failsOnly_cause trivial

theorem decide_eq_error_iff {v : Value} {stop : Stop} :
    v.decide = .error stop ↔
      stop = .broken (.fault .integerTooLargeForFloat) ∧
        ∃ n, v = .int n ∧ Binary.BeyondFloats n := by
  rw [decide, mapError_eq_error]
  constructor
  · rintro ⟨f, failed, rfl⟩
    obtain ⟨rfl, large⟩ := truth_eq_error_iff.mp failed
    exact ⟨rfl, large⟩
  · rintro ⟨rfl, large⟩
    exact ⟨_, truth_eq_error_iff.mpr ⟨rfl, large⟩, rfl⟩

end Value

theorem concatenate_fails (left right : Value) :
    FailsOnly Stop.OfOperands (concatenate left right) :=
  (left.operandText_fails).bind fun _ => (right.operandText_fails).bind fun _ => failsOnly_ok _

theorem Arithmetic.evaluate_fails (op : Arithmetic) (left right : Value) :
    FailsOnly Stop.OfOperands (op.evaluate left right) := by
  unfold evaluate
  split
  · rename_i cause zero _
    refine failsOnly_cause ?_
    cases op <;> cases zero <;> trivial
  · split
    · exact failsOnly_ok _
    · exact failsOnly_ok _
    · split
      · exact failsOnly_ok _
      · exact failsOnly_cause trivial
    · exact failsOnly_cause trivial

theorem UnaryOp.negate_fails (operand : Value) :
    FailsOnly Stop.OfOperands (UnaryOp.negate.evaluate operand) := by
  cases operand with
  | null => exact failsOnly_ok _
  | number x => exact failsOnly_ok _
  | _ => exact failsOnly_cause trivial

/-- Only an operator that no formula is written with is not known itself. -/
theorem BinaryOp.evaluate_fails (op : BinaryOp) (left right : Value) :
    FailsOnly (fun stop => stop.OfOperands ∨
      ∃ symbol, op = .other symbol ∧ stop = .cause (.unknownOperator symbol))
      (op.evaluate left right) := by
  have operands : ∀ {x : Except Stop Value}, FailsOnly Stop.OfOperands x →
      FailsOnly (fun stop => stop.OfOperands ∨
        ∃ symbol, op = .other symbol ∧ stop = .cause (.unknownOperator symbol)) x :=
    fun fails => fails.imp fun _ => .inl
  cases op with
  | equal => exact failsOnly_ok _
  | notEqual => exact failsOnly_ok _
  | less => exact operands ((left.order_fails right).bind fun _ => failsOnly_ok _)
  | lessOrEqual => exact operands ((left.order_fails right).bind fun _ => failsOnly_ok _)
  | greater => exact operands ((left.order_fails right).bind fun _ => failsOnly_ok _)
  | greaterOrEqual => exact operands ((left.order_fails right).bind fun _ => failsOnly_ok _)
  | concat => exact operands (concatenate_fails left right)
  | add =>
      rw [evaluate]
      split
      · exact operands (concatenate_fails left right)
      · exact operands (Arithmetic.evaluate_fails .add left right)
  | subtract => exact operands (Arithmetic.evaluate_fails .subtract left right)
  | multiply => exact operands (Arithmetic.evaluate_fails .multiply left right)
  | divide => exact operands (Arithmetic.evaluate_fails .divide left right)
  | modulo => exact operands (Arithmetic.evaluate_fails .modulo left right)
  | power => exact operands (Arithmetic.evaluate_fails .power left right)
  | other symbol => exact failsOnly_error (.inr ⟨symbol, rfl, rfl⟩)

/-- What is no fault comes from the function itself, and not from the check of its result. -/
theorem Definition.implementation_of_result {d : Definition} {c : Context} {args : List Value}
    {failure : CallFailure}
    (failed : (do
      let v ← d.implementation c args
      v.check.mapError .fault) = .error failure)
    (own : ∀ f, failure ≠ .fault f) : d.implementation c args = .error failure := by
  rcases bind_eq_error.mp failed with failed | ⟨v, -, checked⟩
  · exact failed
  · obtain ⟨f, -, rfl⟩ := mapError_eq_error.mp checked
    exact absurd rfl (own f)

theorem Definition.call_fails {d : Definition} (sturdy : d.Sturdy) (c : Context)
    (args : List Value) : FailsOnly Stop.IsFailure (d.call c args) := by
  have result : FailsOnly CallFailure.Ordinary (do
      let v ← d.implementation c args
      v.check.mapError .fault) :=
    (sturdy c args).bind fun v => failsOnly_mapError _ CallFailure.ordinary_fault
  unfold Definition.call
  dsimp only
  split
  · exact failsOnly_ok _
  · exact failsOnly_error (Stop.isFailure_failed _)
  · exact failsOnly_error (Stop.isFailure_failed _)
  · exact failsOnly_error (Stop.isFailure_failed _)
  · exact failsOnly_error (Stop.isFailure_failed _)
  · rename_i message failed
    exact absurd rfl (result _ failed message)

end Formula
