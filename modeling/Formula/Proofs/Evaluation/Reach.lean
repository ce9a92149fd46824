import Formula.Evaluation.Basic
import Formula.Proofs.Except
import Formula.Proofs.Expr.Parts

/-!
Which nodes of a tree its evaluation comes to. Parts are evaluated one after the other up to the
first that gives no value; the logical operators and the conditional choose among theirs.
-/

namespace Formula.Expr

/-- Of parts that are evaluated one after the other, those up to the first that gives no value. -/
def enteredAll (env : Environment) (levels : Nat) : List Expr → List Expr
  | [] => []
  | part :: rest =>
      match part.evaluate env levels with
      | .ok _ => part :: enteredAll env levels rest
      | .error _ => [part]

/-- What an operator takes a tree for. -/
def truth? (env : Environment) (levels : Nat) (e : Expr) : Option Bool :=
  match e.evaluate env levels with
  | .ok v => v.truth.toOption
  | .error _ => none

/-- The parts of a node that its evaluation enters. -/
def entered (env : Environment) (levels : Nat) : Expr → List Expr
  | .logical .and left right _ =>
      if left.truth? env levels = some true then [left, right] else [left]
  | .logical .or left right _ =>
      if left.truth? env levels = some false then [left, right] else [left]
  | .logical (.other _) left _ _ => [left]
  | .conditional test consequent alternate _ =>
      match test.truth? env levels with
      | some true => [test, consequent]
      | some false => [test, alternate]
      | none => [test]
  | .call callee arguments _ =>
      if env.registry.contains callee then enteredAll env levels arguments else []
  | e => enteredAll env levels e.children

/-- Evaluating a tree with some levels left comes to a node, with some levels left for its parts. -/
inductive Reaches (env : Environment) (node : Expr) (left : Nat) : Expr → Nat → Prop where
  | root : Reaches env node left node (left + 1)
  | part {e part : Expr} {deeper : Nat} (entered : part ∈ e.entered env deeper)
      (below : Reaches env node left part deeper) : Reaches env node left e (deeper + 1)

variable {env : Environment}

/-- Evaluating a node of a known kind enters it at its place. -/
theorem evaluate_eq_enter {e : Expr} (known : e ≠ .unknown) :
    ∃ body, ∀ levels, e.evaluate env levels = env.enter levels e.position body := by
  cases e with
  | unknown => exact absurd rfl known
  | _ =>
      simp only [evaluate]
      exact ⟨_, fun _ => rfl⟩

theorem truth?_eq_some_iff {levels : Nat} {e : Expr} {b : Bool} :
    e.truth? env levels = some b ↔ ∃ v, e.evaluate env levels = .ok v ∧ v.truth = .ok b := by
  unfold truth?
  cases e.evaluate env levels with
  | error stop => simp
  | ok v => cases truth : v.truth <;> simp [truth, Except.toOption]

theorem reaches_succ_iff {node e : Expr} {left deeper : Nat} :
    Reaches env node left e (deeper + 1) ↔
      (node = e ∧ left = deeper) ∨ ∃ part ∈ e.entered env deeper, Reaches env node left part deeper := by
  constructor
  · intro reaches
    cases reaches with
    | root => exact .inl ⟨rfl, rfl⟩
    | part entered below => exact .inr ⟨_, entered, below⟩
  · rintro (⟨rfl, rfl⟩ | ⟨part, entered, below⟩)
    · exact .root
    · exact .part entered below

theorem not_reaches_zero {node e : Expr} {left : Nat} : ¬ Reaches env node left e 0 := by
  intro reaches
  cases reaches

/-! ### Parts one after the other -/

theorem mem_of_mem_enteredAll {levels : Nat} {part : Expr} {parts : List Expr}
    (member : part ∈ enteredAll env levels parts) : part ∈ parts := by
  induction parts with
  | nil => exact member
  | cons first rest ih =>
      rw [enteredAll] at member
      split at member
      · rcases List.mem_cons.mp member with rfl | later
        · exact List.mem_cons_self
        · exact List.mem_cons_of_mem first (ih later)
      · exact List.mem_singleton.mp member ▸ List.mem_cons_self

/-- A list of parts fails as the last of those that are entered does. -/
theorem evaluateAll_eq_error {levels : Nat} {parts : List Expr} {stop : Stop} :
    evaluateAll env parts levels = .error stop ↔
      ∃ part ∈ enteredAll env levels parts, part.evaluate env levels = .error stop := by
  induction parts with
  | nil => simp [evaluateAll, enteredAll]
  | cons first rest ih =>
      rw [evaluateAll, bind_eq_error, enteredAll]
      cases result : first.evaluate env levels with
      | error e => simp [result]
      | ok v =>
          simp only [reduceCtorEq, Except.ok.injEq, exists_eq_left', false_or, bind_eq_error, ih,
            pure_ne_error, and_false, exists_false, or_false, List.mem_cons, or_and_right,
            exists_or, exists_eq_left, result]

theorem evaluateProperties_eq_error {levels : Nat} {properties : List (String × Expr)}
    {stop : Stop} :
    evaluateProperties env properties levels = .error stop ↔
      ∃ part ∈ enteredAll env levels (properties.map Prod.snd),
        part.evaluate env levels = .error stop := by
  rw [← evaluateAll_eq_error]
  induction properties with
  | nil => exact iff_of_false (fun failed => nomatch failed) fun failed => nomatch failed
  | cons first rest ih =>
      obtain ⟨name, part⟩ := first
      simp only [evaluateProperties, evaluateAll, List.map_cons, bind_eq_error, ih, pure_ne_error,
        and_false, exists_false, or_false]

theorem enteredAll_singleton (part : Expr) (levels : Nat) :
    enteredAll env levels [part] = [part] := by
  rw [enteredAll]
  split <;> rfl

theorem mem_enteredAll_pair {part first second : Expr} {levels : Nat} :
    part ∈ enteredAll env levels [first, second] ↔
      part = first ∨ (∃ v, first.evaluate env levels = .ok v) ∧ part = second := by
  rw [enteredAll, enteredAll_singleton]
  cases result : first.evaluate env levels with
  | error e => simp
  | ok v => simp

theorem mem_children_of_mem_entered {part e : Expr} {levels : Nat}
    (member : part ∈ e.entered env levels) : part ∈ e.children := by
  cases e with
  | logical op left right position =>
      have first : part ∈ [left] → part ∈ [left, right] := fun inside =>
        List.mem_singleton.mp inside ▸ List.mem_cons_self
      cases op with
      | and =>
          rw [entered] at member
          split at member
          · exact member
          · exact first member
      | or =>
          rw [entered] at member
          split at member
          · exact member
          · exact first member
      | other symbol => exact first member
  | conditional test consequent alternate position =>
      rw [entered] at member
      split at member
      all_goals
        simp only [List.mem_cons, List.not_mem_nil, or_false] at member
        simp only [children, List.mem_cons, List.not_mem_nil, or_false]
      · exact member.imp_right .inl
      · exact member.imp_right .inr
      · exact .inl member
  | call callee arguments position =>
      rw [entered] at member
      split at member
      · exact mem_of_mem_enteredAll member
      · cases member
  | _ => exact @mem_of_mem_enteredAll env levels part _ member

theorem Reaches.within {node e : Expr} {left levels : Nat} (reaches : Reaches env node left e levels) :
    Within node e := by
  induction reaches with
  | root => exact .root
  | part entered below ih => exact .part (mem_children_of_mem_entered entered) ih

end Formula.Expr
