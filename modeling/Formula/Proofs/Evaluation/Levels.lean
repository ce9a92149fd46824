import Formula.Evaluation.Basic
import Formula.Proofs.Except
import Formula.Proofs.Expr.Parts

/-!
The levels of an evaluation are a gate: with more of them a tree has the same value, or fails in the
same way, unless it was too deep for those that it had.
-/

namespace Formula

/-- An evaluation that was stopped by a bound. -/
def Stop.IsLimit (stop : Stop) : Prop := ∃ cause position, stop = .failed (.limit cause position)

theorem Stop.IsLimit.locate {stop : Stop} (limit : stop.IsLimit) (position : Nat) :
    (stop.locate position).IsLimit := by
  obtain ⟨cause, place, rfl⟩ := limit
  exact ⟨cause, place, rfl⟩

namespace Environment

variable {env env' : Environment}

theorem isLimit_tooDeep (env : Environment) (position : Nat) : (env.tooDeep position).IsLimit := by
  unfold tooDeep
  split <;> exact ⟨_, _, rfl⟩

theorem enter_more {levels levels' position : Nat} {body body' : Nat → Except Stop Value}
    (less : levels ≤ levels')
    (bodies : ∀ deeper deeper', deeper ≤ deeper' →
      FailsOr Stop.IsLimit (body deeper) (body' deeper')) :
    FailsOr Stop.IsLimit (env.enter levels position body) (env'.enter levels' position body') := by
  cases levels with
  | zero => exact failsOr_error (env.isLimit_tooDeep position) _
  | succ deeper =>
      obtain ⟨deeper', rfl⟩ : ∃ deeper', levels' = deeper' + 1 := ⟨levels' - 1, by omega⟩
      exact (bodies deeper deeper' (Nat.le_of_succ_le_succ less)).mapError fun _ limit =>
        limit.locate position

end Environment

namespace Expr

variable {env env' : Environment}

theorem evaluateAll_more {parts : List Expr} {levels levels' : Nat}
    (more : ∀ part ∈ parts,
      FailsOr Stop.IsLimit (part.evaluate env levels) (part.evaluate env' levels')) :
    FailsOr Stop.IsLimit (evaluateAll env parts levels) (evaluateAll env' parts levels') := by
  induction parts with
  | nil => exact failsOr_self _
  | cons first rest ih =>
      obtain ⟨head, tail⟩ := List.forall_mem_cons.mp more
      exact head.bind fun _ => (ih tail).bind fun _ => failsOr_self _

theorem evaluateProperties_more {properties : List (String × Expr)} {levels levels' : Nat}
    (more : ∀ part ∈ properties.map Prod.snd,
      FailsOr Stop.IsLimit (part.evaluate env levels) (part.evaluate env' levels')) :
    FailsOr Stop.IsLimit (evaluateProperties env properties levels)
      (evaluateProperties env' properties levels') := by
  induction properties with
  | nil => exact failsOr_self _
  | cons first rest ih =>
      obtain ⟨head, tail⟩ := List.forall_mem_cons.mp more
      exact head.bind fun _ => (ih tail).bind fun _ => failsOr_self _

/-- With more levels, and whatever bound errors would name, an evaluation comes to the same, unless
a bound stopped it. -/
theorem evaluate_more (context : Context) (registry : Registry) (host : Host)
    (maxDepth maxDepth' : Int) (e : Expr) {levels levels' : Nat} (less : levels ≤ levels') :
    FailsOr Stop.IsLimit (e.evaluate ⟨context, registry, maxDepth, host⟩ levels)
      (e.evaluate ⟨context, registry, maxDepth', host⟩ levels') := by
  induction e using partsInduction generalizing levels levels' with
  | node e ih =>
      cases e with
      | unknown => exact failsOr_self _
      | literal kind raw position => exact Environment.enter_more less fun _ _ _ => failsOr_self _
      | identifier name position => exact Environment.enter_more less fun _ _ _ => failsOr_self _
      | member base name position =>
          refine Environment.enter_more less fun _ _ less => ?_
          exact (ih base (by simp [children]) less).bind fun _ => failsOr_self _
      | index base key position =>
          refine Environment.enter_more less fun _ _ less => ?_
          exact (ih base (by simp [children]) less).bind fun _ =>
            (ih key (by simp [children]) less).bind fun _ => failsOr_self _
      | array elements position =>
          refine Environment.enter_more less fun _ _ less => ?_
          exact (evaluateAll_more fun part member => ih part member less).bind fun _ => failsOr_self _
      | object properties position =>
          refine Environment.enter_more less fun _ _ less => ?_
          exact (evaluateProperties_more fun part member => ih part member less).bind fun _ =>
            failsOr_self _
      | unary op operand position =>
          refine Environment.enter_more less fun _ _ less => ?_
          exact (ih operand (by simp [children]) less).bind fun _ => failsOr_self _
      | binary op left right position =>
          refine Environment.enter_more less fun _ _ less => ?_
          exact (ih left (by simp [children]) less).bind fun _ =>
            (ih right (by simp [children]) less).bind fun _ => failsOr_self _
      | logical op left right position =>
          refine Environment.enter_more less fun deeper deeper' less => ?_
          have second : FailsOr Stop.IsLimit
              (do
                let v ← right.evaluate ⟨context, registry, maxDepth, host⟩ deeper
                return Value.bool (← v.decide))
              (do
                let v ← right.evaluate ⟨context, registry, maxDepth', host⟩ deeper'
                return Value.bool (← v.decide)) :=
            (ih right (by simp [children]) less).bind fun _ => failsOr_self _
          refine (ih left (by simp [children]) less).bind fun v => ?_
          refine (failsOr_self v.decide).bind fun a => ?_
          cases op with
          | and =>
              cases a with
              | true => exact second
              | false => exact failsOr_self _
          | or =>
              cases a with
              | true => exact failsOr_self _
              | false => exact second
          | other symbol => exact failsOr_self _
      | conditional test consequent alternate position =>
          refine Environment.enter_more less fun deeper deeper' less => ?_
          refine (ih test (by simp [children]) less).bind fun v => ?_
          refine (failsOr_self v.decide).bind fun a => ?_
          cases a with
          | true => exact ih consequent (by simp [children]) less
          | false => exact ih alternate (by simp [children]) less
      | call callee arguments position =>
          refine Environment.enter_more less fun deeper deeper' less => ?_
          unfold Registry.call
          dsimp only
          cases registry.find? callee with
          | none => exact failsOr_self _
          | some d =>
              exact (evaluateAll_more fun part member => ih part member less).bind fun _ =>
                failsOr_self _

end Expr

end Formula
