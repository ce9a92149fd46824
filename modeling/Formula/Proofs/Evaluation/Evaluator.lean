import Formula.Evaluation.Evaluator
import Formula.Proofs.Expr.Parts

/-!
An evaluator that is kept gives every tree what a new one gives: whatever a tree comes to, the
evaluator has counted the same nodes after it as before.
-/

namespace Formula

namespace Counting

variable {α β : Type} {env : Environment} {count : Nat}

/-- From a count on, a part of an evaluation comes to an outcome and is back at that count. -/
def ComesTo (part : Counting α) (count : Nat) (outcome : Except Stop α) : Prop :=
  part.run.run count = (outcome, count)

theorem comesTo_pure (a : α) : ComesTo (pure a) count (.ok a) := rfl

theorem comesTo_throw (stop : Stop) : ComesTo (throw stop : Counting α) count (.error stop) := rfl

theorem comesTo_lift (x : Except Stop α) : ComesTo (liftM x) count x := by
  cases x <;> rfl

theorem ComesTo.bind {part : Counting α} {outcome : Except Stop α}
    (first : ComesTo part count outcome) {next : α → Counting β} {further : α → Except Stop β}
    (second : ∀ a, ComesTo (next a) count (further a)) :
    ComesTo (part >>= next) count (outcome >>= further) := by
  have run : (part >>= next).run.run count =
      (ExceptT.bindCont next (part.run.run count).1).run (part.run.run count).2 := rfl
  rw [ComesTo, run, first]
  cases outcome with
  | error stop => rfl
  | ok a => exact second a

theorem ComesTo.catching {part : Counting α} {outcome : Except Stop α}
    (comes : ComesTo part count outcome) (f : Stop → Stop) :
    ComesTo (tryCatch part fun stop => throw (f stop)) count (outcome.mapError f) := by
  change part count = _ at comes
  change tryCatch part (fun stop => throw (f stop)) count = _
  simp only [tryCatch, tryCatchThe, MonadExceptOf.tryCatch, ExceptT.tryCatch, ExceptT.mk,
    Bind.bind, StateT.bind, comes]
  cases outcome <;> rfl

/-- What is done in the end is done after a value and after a stop. -/
theorem run_finally {part : Counting α} {outcome : Except Stop α} {after : Nat}
    (comes : part.run.run count = (outcome, after)) (f : Nat → Nat) :
    (tryFinally part (modify f)).run.run count = (outcome, f after) := by
  change part count = _ at comes
  change (tryFinally part (modify f) : Counting α) count = _
  simp only [tryFinally, tryFinally', MonadFinally.tryFinally', Bind.bind, Functor.map,
    StateT.bind, ExceptT.map, ExceptT.mk, comes]
  cases outcome <;> rfl

/-! ### Nodes -/

/-- The levels that are left for a tree when some nodes are counted. -/
def room (env : Environment) (count : Nat) : Nat :=
  min env.maxDepth.toNat env.host.depth - count

theorem admits_succ_iff :
    admits env (count + 1) = true ↔ room env count = room env (count + 1) + 1 := by
  unfold admits room
  rw [Bool.and_eq_true, decide_eq_true_eq, decide_eq_true_eq]
  omega

/-- A node is counted out again, whether it was refused, stopped or has a value. -/
theorem ComesTo.enter {position : Nat} {body : Counting Value} {inside : Nat → Except Stop Value}
    (within : ComesTo body (count + 1) (inside (room env (count + 1)))) :
    ComesTo (Counting.enter env position body) count
      (env.enter (room env count) position inside) := by
  have entered : (Counting.enter env position body).run.run count =
      (if admits env (count + 1) then
        tryFinally (tryCatch body fun stop => throw (stop.locate position)) (modify (· - 1))
      else do
        modify (· - 1)
        throw (env.tooDeep position) : Counting Value).run.run (count + 1) := rfl
  rw [ComesTo, entered]
  split
  · rename_i admitted
    rw [admits_succ_iff.mp admitted]
    exact run_finally (within.catching (Stop.locate position)) (· - 1)
  · rename_i refused
    have full : room env count = 0 := by
      have := mt admits_succ_iff.mpr refused
      unfold room at this ⊢
      omega
    rw [full]
    rfl

theorem comesTo_evaluateAll {parts : List Expr}
    (each : ∀ part ∈ parts,
      ComesTo (evaluate env part) count (part.evaluate env (room env count))) :
    ComesTo (evaluateAll env parts) count (Expr.evaluateAll env parts (room env count)) := by
  induction parts with
  | nil => exact comesTo_pure []
  | cons first rest ih =>
      obtain ⟨head, tail⟩ := List.forall_mem_cons.mp each
      exact head.bind fun v => (ih tail).bind fun vs => comesTo_pure (v :: vs)

theorem comesTo_evaluateProperties {properties : List (String × Expr)}
    (each : ∀ part ∈ properties.map Prod.snd,
      ComesTo (evaluate env part) count (part.evaluate env (room env count))) :
    ComesTo (evaluateProperties env properties) count
      (Expr.evaluateProperties env properties (room env count)) := by
  induction properties with
  | nil => exact comesTo_pure []
  | cons first rest ih =>
      obtain ⟨head, tail⟩ := List.forall_mem_cons.mp each
      exact head.bind fun v => (ih tail).bind fun vs => comesTo_pure _

section

variable {registry : Registry} {callee : String} (context : Context) (position : Nat)
  (arguments : Except Stop (List Value))

theorem call_of_contains (known : registry.contains callee = true) :
    registry.call context callee position arguments =
      arguments >>= fun args => registry.call context callee position (.ok args) := by
  obtain ⟨d, found⟩ := Option.isSome_iff_exists.mp known
  unfold Registry.call
  rw [found]
  cases arguments <;> rfl

/-- The call of a function that is not known stops before its arguments. -/
theorem call_of_not_contains (unknown : ¬ registry.contains callee = true) :
    registry.call context callee position arguments =
      registry.call context callee position (.ok []) := by
  unfold Registry.call
  rw [Option.not_isSome_iff_eq_none.mp unknown]

end

/-- An evaluator that has counted some nodes gives a tree the value that it has with the levels that
are left, and has counted the same nodes afterwards. -/
theorem comesTo_evaluate (env : Environment) (e : Expr) (count : Nat) :
    ComesTo (evaluate env e) count (e.evaluate env (room env count)) := by
  induction e using Expr.partsInduction generalizing count with
  | node e ih =>
      cases e with
      | unknown => exact comesTo_throw _
      | literal kind raw position => exact ComesTo.enter (comesTo_lift _)
      | identifier name position => exact ComesTo.enter (comesTo_lift _)
      | member base name position =>
          refine ComesTo.enter ?_
          exact (ih base (by simp [Expr.children]) _).bind fun v => comesTo_lift _
      | index base key position =>
          refine ComesTo.enter ?_
          exact (ih base (by simp [Expr.children]) _).bind fun v =>
            (ih key (by simp [Expr.children]) _).bind fun k => comesTo_lift _
      | array elements position =>
          refine ComesTo.enter ?_
          exact (comesTo_evaluateAll fun part member => ih part member _).bind fun vs =>
            comesTo_pure _
      | object properties position =>
          refine ComesTo.enter ?_
          exact (comesTo_evaluateProperties fun part member => ih part member _).bind fun vs =>
            comesTo_pure _
      | unary op operand position =>
          refine ComesTo.enter ?_
          exact (ih operand (by simp [Expr.children]) _).bind fun v => comesTo_lift _
      | binary op left right position =>
          refine ComesTo.enter ?_
          exact (ih left (by simp [Expr.children]) _).bind fun a =>
            (ih right (by simp [Expr.children]) _).bind fun b => comesTo_lift _
      | logical op left right position =>
          refine ComesTo.enter ?_
          refine (ih left (by simp [Expr.children]) _).bind fun v =>
            (comesTo_lift v.decide).bind fun a => ?_
          have second : ComesTo
              (do return Value.bool (← (← evaluate env right).decide)) (count + 1)
              (do return Value.bool (← (← right.evaluate env (room env (count + 1))).decide)) :=
            (ih right (by simp [Expr.children]) _).bind fun w =>
              (comesTo_lift w.decide).bind fun b => comesTo_pure _
          cases op with
          | and =>
              cases a with
              | true => exact second
              | false => exact comesTo_pure _
          | or =>
              cases a with
              | true => exact comesTo_pure _
              | false => exact second
          | other symbol => exact comesTo_throw _
      | conditional test consequent alternate position =>
          refine ComesTo.enter ?_
          refine (ih test (by simp [Expr.children]) _).bind fun v =>
            (comesTo_lift v.decide).bind fun a => ?_
          cases a with
          | true => exact ih consequent (by simp [Expr.children]) _
          | false => exact ih alternate (by simp [Expr.children]) _
      | call callee arguments position =>
          refine ComesTo.enter ?_
          split
          · rename_i known
            rw [call_of_contains _ _ (Expr.evaluateAll _ _ _) known]
            exact (comesTo_evaluateAll fun part member => ih part member _).bind fun args =>
              comesTo_lift _
          · rename_i unknown
            rw [call_of_not_contains _ _ (Expr.evaluateAll _ _ _) unknown]
            exact comesTo_lift _

end Counting

namespace Evaluator

/-- One call leaves the evaluator as it was, and a new one gives the tree its value. -/
theorem evaluate_eq (evaluator : Evaluator) (e : Expr) :
    evaluator.evaluate e =
      (e.evaluate evaluator.env (Counting.room evaluator.env evaluator.count), evaluator) := by
  unfold evaluate
  rw [Counting.comesTo_evaluate]

theorem evaluateEach_eq (evaluator : Evaluator) (trees : List Expr) :
    evaluator.evaluateEach trees =
      (trees.map fun e => (evaluator.evaluate e).1, evaluator) := by
  induction trees with
  | nil => rfl
  | cons e rest ih =>
      have kept : (evaluator.evaluate e).2 = evaluator := by rw [evaluate_eq]
      rw [evaluateEach, List.map_cons]
      dsimp only
      rw [kept, ih]

/-- An evaluator that is used for one tree after the other gives each of them what a new one gives,
whatever the trees come to: after every call it has counted the nodes that it had counted before. -/
theorem evaluateEach_eq_new (context : Context) (registry : Registry) (maxDepth : Int) (host : Host)
    (trees : List Expr) :
    let fresh := Evaluator.new context registry maxDepth host
    fresh.evaluateEach trees = (trees.map fun e => (fresh.evaluate e).1, fresh) ∧
      (∀ e, (fresh.evaluate e).1 = e.value context registry maxDepth host) ∧
      ∀ (evaluator : Evaluator) (e : Expr), (evaluator.evaluate e).2 = evaluator := by
  intro fresh
  refine ⟨evaluateEach_eq fresh trees, fun e => ?_, fun evaluator e => ?_⟩
  · rw [evaluate_eq]
    rfl
  · rw [evaluate_eq]

end Evaluator

end Formula
