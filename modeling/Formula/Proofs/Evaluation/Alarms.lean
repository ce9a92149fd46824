import Formula.Proofs.Evaluation.Faults
import Formula.Proofs.Evaluation.Reach
import Formula.Proofs.Expr.Depth
import Formula.Proofs.Expr.Stretch
import Formula.Proofs.Function.Registry

/-!
What evaluating a tree can alarm of. If formulas are written with its nodes and it is not too deep,
that is only a call of a function that is not known.
-/

namespace Formula

/-- No alarm. -/
def Stop.Quiet (stop : Stop) : Prop := ∀ e, stop = .failed e → ¬ IsAlarm e.info.message

namespace Stop

theorem quiet_broken (d : Defect) : (Stop.broken d).Quiet := fun _ same => nomatch same

theorem quiet_failed {e : FormulaError} (quiet : ¬ IsAlarm e.info.message) : (Stop.failed e).Quiet := by
  rintro _ ⟨⟩
  exact quiet

theorem Quiet.locate {stop : Stop} (quiet : stop.Quiet) (position : Nat) :
    (stop.locate position).Quiet := by
  cases stop with
  | broken d => exact quiet_broken d
  | failed e =>
      cases e with
      | runtime error =>
          have same : ¬ IsAlarm error.cause.message := quiet (.runtime error) rfl
          exact quiet_failed same
      | _ => exact quiet

end Stop

theorem RuntimeCause.OfOperands.not_isAlarm {c : RuntimeCause} (operands : c.OfOperands) :
    ¬ IsAlarm c.message := by
  have front (words : String) : Text.Begins words words := Text.begins_self words
  cases c with
  | noProperty name type => exact Formula.not_isAlarm ((((front _).join _).join _).join _) (by decide)
  | indexNotWhole text => exact Formula.not_isAlarm ((front _).join _) (by decide)
  | notIndexable type => exact Formula.not_isAlarm ((front _).join _) (by decide)
  | cannotNegate type => exact Formula.not_isAlarm ((front _).join _) (by decide)
  | divisionByZero => exact Formula.not_isAlarm (front _) (by decide)
  | moduloByZero => exact Formula.not_isAlarm (front _) (by decide)
  | cannotApply symbol left right =>
      exact Formula.not_isAlarm ((((((front _).join _).join _).join _).join _).join _) (by decide)
  | arithmetic symbol fault =>
      exact Formula.not_isAlarm ((((front _).join _).join _).append _) (by decide)
  | noText fault => exact Formula.not_isAlarm ((front _).append _) (by decide)
  | order error => exact not_isAlarm_order error
  | _ => cases operands

theorem LimitCause.not_isAlarm_host : ¬ IsAlarm (LimitCause.message .host) :=
  Formula.not_isAlarm (Text.begins_self _) (by decide)

theorem Stop.OfOperands.quiet {stop : Stop} (operands : stop.OfOperands) : stop.Quiet := by
  obtain ⟨c, rfl, operands⟩ := operands
  exact quiet_failed operands.not_isAlarm

/-! ### Calls -/

section

variable {d : Definition} (noBlank : ' ' ∉ d.name.toList)

include noBlank

theorem Definition.checkArguments_quiet (args : List Value) :
    FailsOnly (fun c => ¬ IsAlarm c.message) (d.checkArguments args) := by
  unfold checkArguments
  split
  · split
    · have front := Text.begins_behind d.name
        (show Text.Begins ": " (Text.ofString ": argument '") by decide)
      exact failsOnly_error (not_isAlarm_of_name noBlank
        (.inl ((((((front.join _).join _).join _).join _).join _))))
    · exact failsOnly_ok _
  · have front := Text.begins_self (d.name ++ " expects ")
    exact failsOnly_error (not_isAlarm_of_name noBlank (.inr (((front.join _).join _).join _)))

theorem Definition.call_quiet {context : Context} {args : List Value}
    (discreet : ∀ failure words, d.implementation context args = .error failure →
      failure.words? = some words → ¬ IsAlarm words) :
    FailsOnly Stop.Quiet (d.call context args) := by
  unfold call
  dsimp only
  split
  · exact failsOnly_ok _
  · refine failsOnly_error (Stop.quiet_failed (not_isAlarm_of_name noBlank (.inl ?_)))
    exact (Text.begins_self _).append _
  · rename_i failed
    have failed := implementation_of_result failed fun _ same => nomatch same
    exact failsOnly_error (Stop.quiet_failed (discreet _ _ failed rfl))
  · exact failsOnly_error (Stop.quiet_failed LimitCause.not_isAlarm_host)
  · rename_i failed
    have failed := implementation_of_result failed fun _ same => nomatch same
    exact failsOnly_error (Stop.quiet_failed (discreet _ _ failed rfl))
  · exact failsOnly_error (Stop.quiet_broken _)

end

/-! ### Trees -/

def Stop.unknownCall (callee : String) (position : Nat) : Stop :=
  .failed (.runtime ⟨.unknownFunction callee, some position, some (Text.upperName callee)⟩)

namespace Expr

/-- What the evaluation of a tree may stop with: no alarm, but for a call of an unknown function. -/
def MayStop (registry : Registry) (e : Expr) (stop : Stop) : Prop :=
  stop.Quiet ∨ ∃ callee arguments position, Within (.call callee arguments position) e ∧
    registry.find? callee = none ∧ stop = .unknownCall callee position

/-- A tree that formulas are written with, no deeper than the levels for it, unless the host stops
its evaluation before. -/
structure Admissible (env : Environment) (levels : Nat) (e : Expr) : Prop where
  writable : ∀ node, Within node e → node.IsWritable
  plain : ∀ callee arguments position, Within (.call callee arguments position) e →
    ' ' ∉ callee.toList
  shallow : env.maxDepth ≤ env.host.depth → e.depth ≤ levels

section

variable {env : Environment} {levels deeper : Nat} {e child : Expr} {stop : Stop}

theorem MayStop.of_part (member : child ∈ e.children) (may : child.MayStop env.registry stop) :
    e.MayStop env.registry stop := by
  refine may.imp_right ?_
  rintro ⟨callee, arguments, position, within, missing⟩
  exact ⟨callee, arguments, position, .part member within, missing⟩

theorem MayStop.locate (may : e.MayStop env.registry stop) (position : Nat) :
    e.MayStop env.registry (stop.locate position) := by
  rcases may with quiet | ⟨callee, arguments, place, within, missing, rfl⟩
  · exact .inl (quiet.locate position)
  · exact .inr ⟨callee, arguments, place, within, missing, rfl⟩

theorem Admissible.part (admissible : e.Admissible env (deeper + 1)) (member : child ∈ e.children) :
    child.Admissible env deeper where
  writable node within := admissible.writable node (.part member within)
  plain callee arguments position within :=
    admissible.plain callee arguments position (.part member within)
  shallow followed := Nat.le_of_lt_succ
    (Nat.lt_of_lt_of_le (depth_lt_of_mem_children member) (admissible.shallow followed))

theorem enter_mayStop (admissible : e.Admissible env levels) {position : Nat}
    {body : Nat → Except Stop Value}
    (fails : ∀ deeper, levels = deeper + 1 → FailsOnly (e.MayStop env.registry) (body deeper)) :
    FailsOnly (e.MayStop env.registry) (env.enter levels position body) := by
  cases levels with
  | zero =>
      -- every tree has a node, so that an admissible one runs out of levels at the host's bound only
      have beyond : ¬ env.maxDepth ≤ env.host.depth := fun followed => by
        have := admissible.shallow followed
        have := depth_eq e
        omega
      rw [Environment.enter, Environment.tooDeep, if_neg beyond]
      exact failsOnly_error (.inl (Stop.quiet_failed LimitCause.not_isAlarm_host))
  | succ deeper =>
      intro stop failed
      obtain ⟨inner, stopped, rfl⟩ := mapError_eq_error.mp failed
      exact (fails deeper rfl inner stopped).locate position

theorem mayStop_operands {α : Type} {x : Except Stop α} (fails : FailsOnly Stop.OfOperands x) :
    FailsOnly (e.MayStop env.registry) x := fails.imp fun _ operands => .inl operands.quiet

theorem evaluateAll_mayStop {P : Stop → Prop} {parts : List Expr}
    (each : ∀ part ∈ parts, FailsOnly P (part.evaluate env levels)) :
    FailsOnly P (evaluateAll env parts levels) := by
  intro stop failed
  obtain ⟨part, entered, failed⟩ := evaluateAll_eq_error.mp failed
  exact each part (mem_of_mem_enteredAll entered) stop failed

theorem evaluateProperties_mayStop {P : Stop → Prop} {properties : List (String × Expr)}
    (each : ∀ part ∈ properties.map Prod.snd, FailsOnly P (part.evaluate env levels)) :
    FailsOnly P (evaluateProperties env properties levels) := by
  intro stop failed
  obtain ⟨part, entered, failed⟩ := evaluateProperties_eq_error.mp failed
  exact each part (mem_of_mem_enteredAll entered) stop failed

theorem mayStop_decide (v : Value) : FailsOnly (e.MayStop env.registry) v.decide :=
  failsOnly_mapError _ fun _ => .inl (Stop.quiet_broken _)

/-- A tree that formulas are written with alarms of unknown functions only, as long as its levels do. -/
theorem evaluate_mayStop (keyed : env.registry.Keyed) (discreet : env.registry.Discreet) (e : Expr)
    {levels : Nat} (admissible : e.Admissible env levels) :
    FailsOnly (e.MayStop env.registry) (e.evaluate env levels) := by
  induction e using partsInduction generalizing levels with
  | node e ih =>
      have writable := admissible.writable e .root
      have parts {deeper : Nat} (less : levels = deeper + 1) {part : Expr}
          (member : part ∈ e.children) :
          FailsOnly (e.MayStop env.registry) (part.evaluate env deeper) :=
        (ih part member ((less ▸ admissible).part member)).imp fun _ => .of_part member
      cases e with
      | unknown => exact absurd writable id
      | literal kind raw position =>
          refine enter_mayStop admissible fun deeper _ => ?_
          exact failsOnly_mapError _ fun _ => .inl (Stop.quiet_broken _)
      | identifier name position =>
          refine enter_mayStop admissible fun deeper _ => ?_
          exact failsOnly_mapError _ fun _ => .inl (Stop.quiet_broken _)
      | member base name position =>
          refine enter_mayStop admissible fun deeper less => ?_
          exact (parts less (by simp [children])).bind fun v => mayStop_operands (v.property_fails name)
      | index base key position =>
          refine enter_mayStop admissible fun deeper less => ?_
          exact (parts less (by simp [children])).bind fun v =>
            (parts less (by simp [children])).bind fun k => mayStop_operands (v.at_fails k)
      | array elements position =>
          refine enter_mayStop admissible fun deeper less => ?_
          exact (evaluateAll_mayStop fun part => parts less).bind fun _ => failsOnly_ok _
      | object properties position =>
          refine enter_mayStop admissible fun deeper less => ?_
          exact (evaluateProperties_mayStop fun part => parts less).bind fun _ => failsOnly_ok _
      | unary op operand position =>
          refine enter_mayStop admissible fun deeper less => ?_
          refine (parts less (by simp [children])).bind fun v => ?_
          cases op with
          | not => exact (mayStop_decide v).bind fun _ => failsOnly_ok _
          | negate => exact mayStop_operands (UnaryOp.negate_fails v)
          | other symbol => exact absurd writable id
      | binary op left right position =>
          refine enter_mayStop admissible fun deeper less => ?_
          refine (parts less (by simp [children])).bind fun a =>
            (parts less (by simp [children])).bind fun b => (op.evaluate_fails a b).imp fun stop why => ?_
          rcases why with operands | ⟨symbol, rfl, rfl⟩
          · exact .inl operands.quiet
          · exact absurd writable id
      | logical op left right position =>
          refine enter_mayStop admissible fun deeper less => ?_
          refine (parts less (by simp [children])).bind fun v => (mayStop_decide v).bind fun a => ?_
          have second : FailsOnly ((Expr.logical op left right position).MayStop env.registry)
              (do return Value.bool (← (← right.evaluate env deeper).decide)) :=
            (parts less (by simp [children])).bind fun w => (mayStop_decide w).bind fun _ =>
              failsOnly_ok _
          cases op with
          | and =>
              cases a with
              | false => exact failsOnly_ok _
              | true => exact second
          | or =>
              cases a with
              | false => exact second
              | true => exact failsOnly_ok _
          | other symbol => exact absurd writable id
      | conditional test consequent alternate position =>
          refine enter_mayStop admissible fun deeper less => ?_
          refine (parts less (by simp [children])).bind fun v => (mayStop_decide v).bind fun a => ?_
          cases a with
          | false => exact parts less (by simp [children])
          | true => exact parts less (by simp [children])
      | call callee arguments position =>
          refine enter_mayStop admissible fun deeper less => ?_
          have noBlank := admissible.plain callee arguments position .root
          unfold Registry.call
          cases found : env.registry.find? callee with
          | none => exact failsOnly_error (.inr ⟨callee, arguments, position, .root, found, rfl⟩)
          | some d =>
              have noBlank := keyed.blank_notMem found noBlank
              refine (evaluateAll_mayStop fun part => parts less).bind fun args => ?_
              split
              · rename_i c refused
                have quiet := Definition.checkArguments_quiet noBlank args c refused
                exact failsOnly_error (.inl (Stop.quiet_failed quiet))
              · intro stop failed
                obtain ⟨inner, called, rfl⟩ := mapError_eq_error.mp failed
                have quiet := Definition.call_quiet noBlank
                  (discreet callee d found env.context args) inner called
                exact .inl (quiet.locate position)

end

end Expr

end Formula
