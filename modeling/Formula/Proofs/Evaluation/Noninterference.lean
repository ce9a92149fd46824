import Formula.Evaluation.Basic
import Formula.Proofs.Expr.References
import Formula.Proofs.Function.Builtin

/-!
The value of a tree depends on the names that it refers to, on the datasets and on the time. Whatever
else a context holds makes no difference.
-/

namespace Formula

/-! ### Environments that a tree cannot tell apart -/

namespace Environment

/-- Two environments with the same functions, bound and host, datasets and time. -/
structure Alike (env₁ env₂ : Environment) : Prop where
  registry : env₁.registry = env₂.registry
  maxDepth : env₁.maxDepth = env₂.maxDepth
  host : env₁.host = env₂.host
  data : Context.SameData env₁.context env₂.context
  calls : ∀ name d, env₁.registry.find? name = some d → d.ReadsDataOnly

variable {env₁ env₂ : Environment}

theorem Alike.enter (alike : Alike env₁ env₂) (levels position : Nat)
    {body₁ body₂ : Nat → Except Stop Value} (bodies : ∀ deeper, body₁ deeper = body₂ deeper) :
    env₁.enter levels position body₁ = env₂.enter levels position body₂ := by
  cases levels with
  | zero => simp only [Environment.enter, tooDeep, alike.maxDepth, alike.host]
  | succ deeper => simp only [Environment.enter, bodies]

theorem Alike.call (alike : Alike env₁ env₂) (callee : String) (position : Nat)
    (arguments : Except Stop (List Value)) :
    env₁.registry.call env₁.context callee position arguments =
      env₂.registry.call env₂.context callee position arguments := by
  unfold Registry.call
  rw [← alike.registry]
  cases found : env₁.registry.find? callee with
  | none => rfl
  | some d =>
      have same := d.call_eq_of_sameData (alike.calls callee d found) alike.data
      simp only [same]

/-- The built-in functions read nothing but the datasets and the time. -/
theorem alike_builtin {c₁ c₂ : Context} (same : Context.SameData c₁ c₂) (maxDepth : Int)
    (host : Host) : Alike ⟨c₁, .builtin, maxDepth, host⟩ ⟨c₂, .builtin, maxDepth, host⟩ := by
  refine ⟨rfl, rfl, rfl, same, fun name d found => ?_⟩
  exact Definition.readsDataOnly_builtin (Registry.mem_of_find?_builtin found)

end Environment

/-! ### Trees -/

namespace Expr

variable {env₁ env₂ : Environment}

theorem evaluateAll_map {f : Expr → Expr} {parts : List Expr} {levels₁ levels₂ : Nat}
    (same : ∀ part, part ∈ parts → (f part).evaluate env₁ levels₁ = part.evaluate env₂ levels₂) :
    evaluateAll env₁ (parts.map f) levels₁ = evaluateAll env₂ parts levels₂ := by
  induction parts with
  | nil => rfl
  | cons first rest ih =>
      simp only [List.map_cons, evaluateAll]
      rw [same first List.mem_cons_self,
        ih fun part member => same part (List.mem_cons_of_mem first member)]

theorem evaluateProperties_map {f : Expr → Expr} {properties : List (String × Expr)}
    {levels₁ levels₂ : Nat}
    (same : ∀ part, part ∈ properties.map Prod.snd →
      (f part).evaluate env₁ levels₁ = part.evaluate env₂ levels₂) :
    evaluateProperties env₁ (properties.map (Prod.map id f)) levels₁ =
      evaluateProperties env₂ properties levels₂ := by
  induction properties with
  | nil => rfl
  | cons first rest ih =>
      obtain ⟨name, part⟩ := first
      simp only [List.map_cons, Prod.map, id, evaluateProperties]
      rw [same part List.mem_cons_self,
        ih fun part member => same part (List.mem_cons_of_mem _ member)]

theorem evaluateAll_congr {parts : List Expr} {levels : Nat}
    (same : ∀ part, part ∈ parts → part.evaluate env₁ levels = part.evaluate env₂ levels) :
    evaluateAll env₁ parts levels = evaluateAll env₂ parts levels := by
  rw [← evaluateAll_map same, List.map_id']

theorem evaluateProperties_congr {properties : List (String × Expr)} {levels : Nat}
    (same : ∀ part, part ∈ properties.map Prod.snd →
      part.evaluate env₁ levels = part.evaluate env₂ levels) :
    evaluateProperties env₁ properties levels = evaluateProperties env₂ properties levels := by
  have all := evaluateProperties_map (f := id) same
  rwa [Prod.map_id, List.map_id] at all

theorem evaluate_congr (alike : env₁.Alike env₂) (e : Expr) (levels : Nat)
    (agree : ∀ name, e.Mentions name → env₁.context.resolve name = env₂.context.resolve name) :
    e.evaluate env₁ levels = e.evaluate env₂ levels := by
  induction e using partsInduction generalizing levels with
  | node e ih =>
      have parts : ∀ part, part ∈ e.children → ∀ deeper,
          part.evaluate env₁ deeper = part.evaluate env₂ deeper :=
        fun part member deeper => ih part member deeper fun name mentions =>
          agree name (mentions.of_part member)
      cases e with
      | unknown => rfl
      | literal kind raw position => exact alike.enter levels position fun _ => rfl
      | identifier name position =>
          have own := agree name ⟨position, .root⟩
          exact alike.enter levels position fun _ => by rw [own]
      | member base name position =>
          refine alike.enter levels position fun deeper => ?_
          rw [parts base (by simp [children])]
      | index base key position =>
          refine alike.enter levels position fun deeper => ?_
          rw [parts base (by simp [children]), parts key (by simp [children])]
      | array elements position =>
          refine alike.enter levels position fun deeper => ?_
          have same : evaluateAll env₁ elements deeper = evaluateAll env₂ elements deeper :=
            evaluateAll_congr fun part member => parts part member deeper
          rw [same]
      | object properties position =>
          refine alike.enter levels position fun deeper => ?_
          rw [evaluateProperties_congr fun part member => parts part member deeper]
      | unary op operand position =>
          refine alike.enter levels position fun deeper => ?_
          rw [parts operand (by simp [children])]
      | binary op left right position =>
          refine alike.enter levels position fun deeper => ?_
          rw [parts left (by simp [children]), parts right (by simp [children])]
      | logical op left right position =>
          refine alike.enter levels position fun deeper => ?_
          rw [parts left (by simp [children]), parts right (by simp [children])]
      | conditional test consequent alternate position =>
          refine alike.enter levels position fun deeper => ?_
          rw [parts test (by simp [children]), parts consequent (by simp [children]),
            parts alternate (by simp [children])]
      | call callee arguments position =>
          refine alike.enter levels position fun deeper => ?_
          have same : evaluateAll env₁ arguments deeper = evaluateAll env₂ arguments deeper :=
            evaluateAll_congr fun part member => parts part member deeper
          rw [same]
          exact alike.call callee position _

theorem value_congr {c₁ c₂ : Context} (same : Context.SameData c₁ c₂) (e : Expr) (maxDepth : Int)
    (host : Host) (agree : ∀ name, e.Mentions name → c₁.resolve name = c₂.resolve name) :
    e.value c₁ .builtin maxDepth host = e.value c₂ .builtin maxDepth host := by
  unfold value
  exact evaluate_congr (Environment.alike_builtin same maxDepth host) e _ agree

/-- A tree has one value, or stops in one way, in all contexts that resolve the names it refers to
alike and have the same datasets and the same time. -/
theorem value_eq_of_same_references (e : Expr) (c₁ c₂ : Context) (maxDepth : Int) (host : Host)
    (references : ∀ name, name ∈ e.references.fields.map Prod.fst →
      c₁.resolve name = c₂.resolve name)
    (datasets : c₁.datasets = c₂.datasets) (now : c₁.clock.now = c₂.clock.now) :
    e.value c₁ .builtin maxDepth host = e.value c₂ .builtin maxDepth host :=
  value_congr ⟨datasets, now⟩ e maxDepth host fun name mentions =>
    references name (mem_fieldNames.mpr mentions)

theorem value_eq_of_same_references_year :
    let sum : Expr := .binary .add (.identifier "x" 0) (.call "YEAR" [.call "NOW" [] 9] 4) 2
    let clock : Clock := .ofMoment .universal (.atMidnight ⟨2024, 1, 15, by decide⟩ none)
    let first : Context := { fields := [("x", .int 1), ("y", .int 5)], clock }
    let second : Context := { vars := [("x", .int 1)], clock, locale := "de-DE" }
    sum.value first .builtin 200 .universal = sum.value second .builtin 200 .universal := by
  intro sum clock first second
  refine value_eq_of_same_references sum first second 200 .universal ?_ rfl rfl
  have references : sum.references.fields.map Prod.fst = ["x"] := by decide +kernel
  intro name listed
  rw [references, List.mem_singleton] at listed
  subst listed
  rfl

end Expr

end Formula
