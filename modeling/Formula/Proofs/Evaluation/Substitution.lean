import Formula.Proofs.Evaluation.Levels
import Formula.Proofs.Evaluation.Noninterference
import Formula.Proofs.Expr.Depth

/-!
Trees in the place of names. A tree with another one in the place of a name comes to what the tree
itself comes to where the name stands for the value of the other one. Its depth bounds the levels
that it needs; with these or more the levels make no difference.
-/

namespace Formula

namespace Expr

/-! ### Substitution -/

mutual

/-- The tree with other trees in the place of its names. -/
def substitute (σ : String → Nat → Expr) : Expr → Expr
  | .literal kind raw position => .literal kind raw position
  | .identifier name position => σ name position
  | .member base property position => .member (substitute σ base) property position
  | .index base key position => .index (substitute σ base) (substitute σ key) position
  | .array elements position => .array (substituteAll σ elements) position
  | .object properties position => .object (substituteProperties σ properties) position
  | .unary op operand position => .unary op (substitute σ operand) position
  | .binary op left right position => .binary op (substitute σ left) (substitute σ right) position
  | .logical op left right position => .logical op (substitute σ left) (substitute σ right) position
  | .conditional test consequent alternate position =>
      .conditional (substitute σ test) (substitute σ consequent) (substitute σ alternate) position
  | .call callee arguments position => .call callee (substituteAll σ arguments) position
  | .unknown => .unknown

def substituteAll (σ : String → Nat → Expr) : List Expr → List Expr
  | [] => []
  | e :: rest => substitute σ e :: substituteAll σ rest

def substituteProperties (σ : String → Nat → Expr) : List (String × Expr) → List (String × Expr)
  | [] => []
  | (name, e) :: rest => (name, substitute σ e) :: substituteProperties σ rest

end

/-- The tree with another one in the place of a name. -/
def inline (e : Expr) (name : String) (g : Expr) : Expr :=
  e.substitute fun other position => if other = name then g else .identifier other position

variable {σ : String → Nat → Expr}

theorem substituteAll_eq (es : List Expr) : substituteAll σ es = es.map (substitute σ) := by
  induction es with
  | nil => rfl
  | cons e rest ih => rw [substituteAll, ih, List.map_cons]

theorem substituteProperties_eq (properties : List (String × Expr)) :
    substituteProperties σ properties = properties.map (Prod.map id (substitute σ)) := by
  induction properties with
  | nil => rfl
  | cons property rest ih => rw [substituteProperties, ih, List.map_cons, Prod.map, id]

theorem children_substitute {e : Expr} (other : ∀ name position, e ≠ .identifier name position) :
    (e.substitute σ).children = e.children.map (substitute σ) := by
  cases e with
  | identifier name position => exact absurd rfl (other name position)
  | array elements position => exact substituteAll_eq elements
  | call callee arguments position => exact substituteAll_eq arguments
  | object properties position =>
      rw [substitute, children, children, substituteProperties_eq, List.map_map, List.map_map]
      rfl
  | _ => rfl

theorem substitute_identifier (e : Expr) : e.substitute .identifier = e := by
  induction e using partsInduction with
  | node e ih =>
      have all : ∀ es : List Expr, (∀ part, part ∈ es → part.substitute .identifier = part) →
          es.map (substitute .identifier) = es := fun es own =>
        (List.map_congr_left own).trans (List.map_id es)
      cases e with
      | array elements position => rw [substitute, substituteAll_eq, all elements ih]
      | call callee arguments position => rw [substitute, substituteAll_eq, all arguments ih]
      | object properties position =>
          have own : ∀ property ∈ properties,
              Prod.map id (substitute .identifier) property = property := fun property member =>
            Prod.ext rfl (ih property.2 (List.mem_map_of_mem member))
          rw [substitute, substituteProperties_eq, List.map_congr_left own, List.map_id']
      | _ => simp_all [substitute, children]

/-! ### Depth -/

theorem depth_pos (e : Expr) : 0 < e.depth := by
  rw [depth_eq]
  exact Nat.succ_pos _

theorem depthAll_map_le {f : Expr → Expr} {es : List Expr}
    (deeper : ∀ part ∈ es, part.depth ≤ (f part).depth) : depthAll es ≤ depthAll (es.map f) := by
  induction es with
  | nil => exact Nat.le_refl 0
  | cons e rest ih =>
      obtain ⟨first, others⟩ := List.forall_mem_cons.mp deeper
      rw [List.map_cons, depthAll, depthAll]
      have := ih others
      omega

theorem depth_le_substitute (e : Expr) : e.depth ≤ (e.substitute σ).depth := by
  induction e using partsInduction with
  | node e ih =>
      by_cases name : ∃ name position, e = .identifier name position
      · obtain ⟨name, position, rfl⟩ := name
        exact depth_pos (σ name position)
      · have other : ∀ name position, e ≠ .identifier name position := fun own position same =>
          name ⟨own, position, same⟩
        rw [depth_eq, depth_eq, children_substitute other]
        exact Nat.succ_le_succ (depthAll_map_le ih)

/-! ### Evaluation -/

variable {env env' : Environment}

theorem enter_succ_congr {deeper deeper' : Nat} {body body' : Nat → Except Stop Value}
    (position : Nat) (same : body deeper = body' deeper') :
    env.enter (deeper + 1) position body = env'.enter (deeper' + 1) position body' := by
  simp only [Environment.enter, same]

/-- Where the trees in the place of names come to what the names come to, the whole tree comes to
what it comes to without them. -/
theorem evaluate_substitute
    (calls : ∀ callee position arguments,
      env.registry.call env.context callee position arguments =
        env'.registry.call env'.context callee position arguments)
    (names : ∀ name position levels levels', (σ name position).depth ≤ levels → 0 < levels' →
      (σ name position).evaluate env levels = (identifier name position).evaluate env' levels')
    (e : Expr) {levels levels' : Nat} (deep : (e.substitute σ).depth ≤ levels)
    (deep' : e.depth ≤ levels') :
    (e.substitute σ).evaluate env levels = e.evaluate env' levels' := by
  induction e using partsInduction generalizing levels levels' with
  | node e ih =>
      obtain ⟨deeper, rfl⟩ : ∃ deeper, levels = deeper + 1 :=
        Nat.exists_eq_succ_of_ne_zero (Nat.ne_of_gt (Nat.lt_of_lt_of_le (depth_pos _) deep))
      obtain ⟨deeper', rfl⟩ : ∃ deeper', levels' = deeper' + 1 :=
        Nat.exists_eq_succ_of_ne_zero (Nat.ne_of_gt (Nat.lt_of_lt_of_le (depth_pos _) deep'))
      have parts : (∀ name position, e ≠ .identifier name position) → ∀ part, part ∈ e.children →
          (part.substitute σ).evaluate env deeper = part.evaluate env' deeper' := by
        intro other part member
        have below : (part.substitute σ).depth < (e.substitute σ).depth := by
          apply depth_lt_of_mem_children
          rw [children_substitute other]
          exact List.mem_map_of_mem member
        have below' := depth_lt_of_mem_children member
        exact ih part member (by omega) (by omega)
      cases e with
      | unknown => rfl
      | literal kind raw position => exact enter_succ_congr position rfl
      | identifier name position => exact names name position _ _ deep (Nat.succ_pos deeper')
      | member base name position =>
          have parts := parts (by simp)
          refine enter_succ_congr position ?_
          rw [parts base (by simp [children])]
      | index base key position =>
          have parts := parts (by simp)
          refine enter_succ_congr position ?_
          rw [parts base (by simp [children]), parts key (by simp [children])]
      | array elements position =>
          have all : evaluateAll env (elements.map (substitute σ)) deeper =
              evaluateAll env' elements deeper' := evaluateAll_map (parts (by simp))
          refine enter_succ_congr position ?_
          rw [substituteAll_eq, all]
      | object properties position =>
          refine enter_succ_congr position ?_
          rw [substituteProperties_eq, evaluateProperties_map (parts (by simp))]
      | unary op operand position =>
          have parts := parts (by simp)
          refine enter_succ_congr position ?_
          rw [parts operand (by simp [children])]
      | binary op left right position =>
          have parts := parts (by simp)
          refine enter_succ_congr position ?_
          rw [parts left (by simp [children]), parts right (by simp [children])]
      | logical op left right position =>
          have parts := parts (by simp)
          refine enter_succ_congr position ?_
          rw [parts left (by simp [children]), parts right (by simp [children])]
      | conditional test consequent alternate position =>
          have parts := parts (by simp)
          refine enter_succ_congr position ?_
          rw [parts test (by simp [children]), parts consequent (by simp [children]),
            parts alternate (by simp [children])]
      | call callee arguments position =>
          have all : evaluateAll env (arguments.map (substitute σ)) deeper =
              evaluateAll env' arguments deeper' := evaluateAll_map (parts (by simp))
          refine enter_succ_congr position ?_
          rw [substituteAll_eq, all]
          exact calls callee position _

/-- Levels beyond the depth of a tree make no difference. -/
theorem evaluate_levels (e : Expr) {levels levels' : Nat} (deep : e.depth ≤ levels)
    (deep' : e.depth ≤ levels') : e.evaluate env levels = e.evaluate env levels' := by
  have own : ∀ name position levels levels', (identifier name position).depth ≤ levels →
      0 < levels' → (identifier name position).evaluate env levels =
        (identifier name position).evaluate env levels' := by
    intro name position levels levels' first second
    obtain ⟨deeper, rfl⟩ := Nat.exists_eq_succ_of_ne_zero (Nat.ne_of_gt first)
    obtain ⟨deeper', rfl⟩ := Nat.exists_eq_succ_of_ne_zero (Nat.ne_of_gt second)
    rfl
  have same : (e.substitute .identifier).evaluate env levels = e.evaluate env levels' :=
    evaluate_substitute (fun _ _ _ => rfl) own e (by rwa [substitute_identifier]) deep'
  rwa [substitute_identifier] at same

/-- A value that comes out with some levels comes out with all that the depth asks for. -/
theorem evaluate_of_deep {context : Context} {registry : Registry} {host : Host} {e : Expr}
    {v : Value} {maxDepth : Int} {few : Nat}
    (evaluated : e.evaluate ⟨context, registry, maxDepth, host⟩ few = .ok v) (maxDepth' : Int)
    {levels : Nat} (deep : e.depth ≤ levels) :
    e.evaluate ⟨context, registry, maxDepth', host⟩ levels = .ok v := by
  have more := e.evaluate_more context registry host maxDepth maxDepth' (Nat.le_max_left few levels)
  rcases more with ⟨stop, failed, -⟩ | same
  · cases evaluated.symm.trans failed
  · rw [e.evaluate_levels deep (Nat.le_trans deep (Nat.le_max_right few levels)), ← same, evaluated]

end Expr

theorem Context.resolve_put (c : Context) (name : String) (v : Value) (other : String) :
    ({ c with fields := Record.put name v c.fields } : Context).resolve other =
      if other = name then .ok v else c.resolve other := by
  unfold resolve
  rw [Record.get?_put]
  by_cases same : name = other
  · rw [if_pos same, if_pos same.symm]
  · rw [if_neg same, if_neg (Ne.symm same)]
    rfl

namespace Expr

section

variable {e g : Expr} {name : String} {context : Context} {host : Host} {v : Value}
  {maxDepth : Int} {few : Nat}

theorem evaluate_inline (evaluated : g.evaluate ⟨context, .builtin, maxDepth, host⟩ few = .ok v)
    (maxDepth' : Int) {levels : Nat} (deep : (e.inline name g).depth ≤ levels) :
    (e.inline name g).evaluate ⟨context, .builtin, maxDepth', host⟩ levels =
      e.evaluate ⟨{ context with fields := Record.put name v context.fields }, .builtin, maxDepth',
        host⟩ levels := by
  unfold inline at deep ⊢
  have data : Context.SameData context
      { context with fields := Record.put name v context.fields } := ⟨rfl, rfl⟩
  have alike := Environment.alike_builtin data maxDepth' host
  refine evaluate_substitute alike.call ?_ e deep (Nat.le_trans (depth_le_substitute e) deep)
  intro other position levels levels' deep some
  obtain ⟨deeper', rfl⟩ := Nat.exists_eq_succ_of_ne_zero (Nat.ne_of_gt some)
  have resolved := context.resolve_put name v other
  by_cases same : other = name
  · rw [if_pos same] at deep resolved ⊢
    rw [evaluate_of_deep evaluated maxDepth' deep, evaluate, Environment.enter, resolved]
    rfl
  · rw [if_neg same] at deep resolved ⊢
    obtain ⟨deeper, rfl⟩ := Nat.exists_eq_succ_of_ne_zero (Nat.ne_of_gt deep)
    exact enter_succ_congr position (by rw [resolved])

end

/-- A tree with another one in the place of a name comes to what it comes to itself in the context
where the field of that name has the other one's value, with all levels that its depth asks for, and
so within every bound on the depth that it keeps and the host can follow. -/
theorem inline_same (e g : Expr) (name : String) (context : Context) (v : Value) (few : Nat)
    (maxDepth maxDepth' : Int) (host : Host)
    (evaluated : g.evaluate ⟨context, .builtin, maxDepth, host⟩ few = .ok v) :
    let inlined := e.inline name g
    let extended : Context := { context with fields := Record.put name v context.fields }
    (∀ levels, inlined.depth ≤ levels →
      inlined.evaluate ⟨context, .builtin, maxDepth', host⟩ levels =
        e.evaluate ⟨extended, .builtin, maxDepth', host⟩ levels) ∧
      ((inlined.depth : Int) ≤ maxDepth' → inlined.depth ≤ host.depth →
        inlined.value context .builtin maxDepth' host =
          e.value extended .builtin maxDepth' host) := by
  intro inlined extended
  refine ⟨fun levels deep => evaluate_inline evaluated maxDepth' deep, fun within followed => ?_⟩
  have enough : inlined.depth ≤ min maxDepth'.toNat host.depth := by omega
  exact evaluate_inline evaluated maxDepth' enough

theorem inline_same_sum :
    let tree : Expr := .binary .multiply (.identifier "x" 0) (.identifier "y" 4) 2
    let sum : Expr := .binary .add (.identifier "y" 0) (.identifier "y" 4) 2
    let clock : Clock := .ofMoment .universal (.atMidnight ⟨2024, 1, 15, by decide⟩ none)
    let context : Context := { fields := [("y", .int 3), ("x", .text "old")], clock }
    let extended : Context := { context with fields := [("y", .int 3), ("x", .int 6)] }
    sum.evaluate ⟨context, .builtin, 200, .universal⟩ 2 = .ok (.int 6) ∧
      (tree.inline "x" sum).value context .builtin 3 .universal =
        tree.value extended .builtin 3 .universal := by
  intro tree sum clock context extended
  have evaluated : sum.evaluate ⟨context, .builtin, 200, .universal⟩ 2 = .ok (.int 6) := rfl
  have same := (inline_same tree sum "x" context (.int 6) 2 200 3 .universal evaluated).2
  exact ⟨evaluated, same (by decide) (by decide)⟩

end Expr

end Formula
