import Formula.Proofs.Expr.Parts
import Formula.Proofs.Expr.Recognition

/-!
How deep the parts of a parsed tree are nested. Every parser of a layer builds its trees from parts that
the same layer or a deeper one has made, and where a part is nested it is a deeper one. So no way down a
tree goes into more nested parts than there were levels of nesting.
-/

namespace Formula.Expr

/-- The parts that are as nested as the node itself: what is read from, the operands of an operator but
for an exponent, and the test of a conditional. -/
def openParts : Expr → List Expr
  | .member base _ _ | .index base _ _ | .binary .power base _ _ => [base]
  | .binary _ left right _ | .logical _ left right _ => [left, right]
  | .conditional test _ _ _ => [test]
  | _ => []

/-- The parts that are nested in a node: arguments, elements, the values of properties, a computed
index, what a conditional chooses from, the operand of a sign and an exponent. -/
def nestedParts : Expr → List Expr
  | .index _ key _ => [key]
  | .array elements _ => elements
  | .object properties _ => properties.map Prod.snd
  | .unary _ operand _ => [operand]
  | .binary .power _ exponent _ => [exponent]
  | .conditional _ consequent alternate _ => [consequent, alternate]
  | .call _ arguments _ => arguments
  | _ => []

theorem children_eq_parts (e : Expr) : e.children = e.openParts ++ e.nestedParts := by
  cases e with
  | binary op => cases op <;> rfl
  | _ => rfl

/-- A way from a node down to one of its nodes, with so many steps into nested parts. -/
inductive Way : Expr → Expr → Nat → Prop where
  | here {e : Expr} : Way e e 0
  | along {e part below : Expr} {steps : Nat} (member : part ∈ e.openParts)
      (rest : Way part below steps) : Way e below steps
  | into {e part below : Expr} {steps : Nat} (member : part ∈ e.nestedParts)
      (rest : Way part below steps) : Way e below (steps + 1)

/-- There is a way to every node of a tree. -/
theorem exists_way_iff {e below : Expr} : (∃ steps, Way e below steps) ↔ Within below e := by
  constructor
  · rintro ⟨steps, way⟩
    induction way with
    | here => exact .root
    | @along e part below steps member rest ih =>
        have child : part ∈ e.children := by
          rw [children_eq_parts]
          exact List.mem_append_left _ member
        exact .part child ih
    | @into e part below steps member rest ih =>
        have child : part ∈ e.children := by
          rw [children_eq_parts]
          exact List.mem_append_right _ member
        exact .part child ih
  · intro within
    induction within with
    | root => exact ⟨0, .here⟩
    | part member rest ih =>
        obtain ⟨steps, way⟩ := ih
        rw [children_eq_parts] at member
        rcases List.mem_append.mp member with member | member
        · exact ⟨steps, .along member way⟩
        · exact ⟨steps + 1, .into member way⟩

/-- No way down a tree has as many steps into nested parts. -/
def Shallow (bound : Nat) (e : Expr) : Prop := ∀ below steps, Way e below steps → steps < bound

variable {bound : Nat}

theorem Shallow.mono {bound' : Nat} {e : Expr} (shallow : e.Shallow bound) (le : bound ≤ bound') :
    e.Shallow bound' := fun below steps way => Nat.lt_of_lt_of_le (shallow below steps way) le

theorem Shallow.node {e : Expr} (along : ∀ part ∈ e.openParts, part.Shallow (bound + 1))
    (into : ∀ part ∈ e.nestedParts, part.Shallow bound) : e.Shallow (bound + 1) := by
  intro below steps way
  cases way with
  | here => exact Nat.succ_pos bound
  | along member rest => exact along _ member below steps rest
  | into member rest => exact Nat.succ_lt_succ (into _ member below _ rest)

theorem shallow_leaf {e : Expr} (leaf : e.children = []) : e.Shallow (bound + 1) := by
  rw [children_eq_parts, List.append_eq_nil_iff] at leaf
  refine .node (fun part member => ?_) fun part member => ?_
  · rw [leaf.1] at member
    cases member
  · rw [leaf.2] at member
    cases member

/-- The operators of the chains nest neither operand. -/
theorem Shallow.join {level : Level} {kind : Token.Kind} {join : Expr → Expr → Nat → Expr}
    (joins : level.join? kind = some join) {left right : Expr} (first : left.Shallow (bound + 1))
    (second : right.Shallow (bound + 1)) (position : Nat) :
    (join left right position).Shallow (bound + 1) := by
  have parts : (join left right position).openParts = [left, right] ∧
      (join left right position).nestedParts = [] := by
    cases level <;> cases kind <;> cases joins <;> exact ⟨rfl, rfl⟩
  refine .node ?_ ?_
  · rw [parts.1]
    exact List.forall_mem_cons.mpr ⟨first, List.forall_mem_singleton.mpr second⟩
  · rw [parts.2]
    exact fun part none => nomatch none

/-! ### What a parser makes -/

section

variable {α : Type} {P : α → Prop}

/-- What a parser returns has a property, whatever it is given. -/
def Makes (P : α → Prop) (p : Parser α) : Prop := ∀ s, ReturnsOnly (fun x => P x.1) (run p s)

/-- What every round of a loop keeps holds in the end. A round ends the loop, or it parses something and
goes on with less before it. -/
theorem returnsOnly_loop {σ β : Type} {f : σ → Stream → Except ParseError (β × Stream)}
    {I : σ → Prop} {Q : β × Stream → Prop}
    (round : ∀ done s, I done → ReturnsOnly Q (f done s) ∨
      ∃ (γ : Type) (p : Parser γ) (next : Stream) (longer : γ → σ), next.size < s.size ∧
        f done s = (run p next >>= fun x => f (longer x.1) x.2) ∧
        ReturnsOnly (fun x => I (longer x.1)) (run p next)) {done : σ} (holds : I done)
    (s : Stream) : ReturnsOnly Q (f done s) := by
  induction size : s.size using Nat.strongRecOn generalizing done s with
  | ind n ih =>
      subst size
      rcases round done s holds with stops | ⟨γ, p, next, longer, less, goesOn, kept⟩
      · exact stops
      · rw [goesOn]
        intro all returned
        obtain ⟨⟨x, r⟩, came, returned⟩ := bind_eq_ok.mp returned
        have shorter := Nat.lt_trans (size_lt_of_run came) less
        exact ih r.size shorter (kept _ came) r rfl all returned

theorem returnsOnly_closedBy {x : Except ParseError (α × Stream)}
    (returns : ReturnsOnly (fun v => P v.1) x) (close : Token.Kind) (cause : GrammarCause) :
    ReturnsOnly (fun v => P v.1) (closedBy close cause x) :=
  returns.bind fun _ holds => returnsOnly_bind _ fun _ => returnsOnly_ok holds

/-! ### Lists -/

variable {item : Parser α}

theorem moreItems_makes (each : Makes P item) {done : List α} (before : ∀ x ∈ done, P x)
    (s : Stream) :
    ReturnsOnly (fun v => ∀ x ∈ v.1, P x) (continued (moreItems item done s)) := by
  refine returnsOnly_loop (f := fun done s => continued (moreItems item done s))
    (I := fun done => ∀ x ∈ done, P x) (Q := fun v => ∀ x ∈ v.1, P x)
    (fun done s before => ?_) before s
  rcases next_or_lacks (fun token => Decidable.em (token.kind = .comma)) s with
    ⟨previous, token, rest, stop, rfl, comma⟩ | none
  · refine .inr ⟨α, item, _, (· :: done), Nat.lt_succ_self _, moreItems_goes_on done comma, ?_⟩
    exact (each _).imp fun x holds => List.forall_mem_cons.mpr ⟨holds, before⟩
  · refine .inl ?_
    rw [moreItems_stops done none]
    exact returnsOnly_ok fun x member => before x (List.mem_reverse.mp member)

theorem items_makes (each : Makes P item) (close : Token.Kind) (cause : GrammarCause) :
    Makes (fun xs => ∀ x ∈ xs, P x) (items item close cause) := by
  intro s
  rcases next_or_lacks (fun token => Decidable.em (token.kind = close)) s with
    ⟨previous, token, rest, stop, rfl, closes⟩ | other
  · rw [run_items_none cause closes]
    exact returnsOnly_ok fun x none => nomatch none
  · rw [run_items_some cause other]
    have listed := (each s).bind fun first holds =>
      moreItems_makes each (List.forall_mem_singleton.mpr holds) first.2
    exact returnsOnly_closedBy (P := fun xs => ∀ x ∈ xs, P x) listed close cause

end

/-! ### Chains -/

section

variable {l : Layer} {level next : Level}

theorem after_makes (below : level.tighter? = some next) (chains : level.isChain = true)
    (operands : Makes (Shallow (bound + 1)) (l.parser next)) {e : Expr}
    (first : e.Shallow (bound + 1)) (s : Stream) :
    ReturnsOnly (fun v => v.1.Shallow (bound + 1)) (l.after level e s) := by
  refine returnsOnly_loop (fun e s first => ?_) first s
  rcases next_or_lacks (fun token => (level.join? token.kind).eq_none_or_eq_some.symm) s with
    ⟨previous, token, rest, stop, rfl, join, joins⟩ | none
  · refine .inr ⟨Expr, l.parser next, _, fun right => join e right token.position, Nat.lt_succ_self _,
      after_goes_on joins below e previous rest stop, ?_⟩
    exact (operands _).imp fun right second => first.join joins second token.position
  · rw [after_stops chains e none]
    exact .inl (returnsOnly_ok first)

theorem chain_makes (below : level.tighter? = some next) (chains : level.isChain = true)
    (operands : Makes (Shallow (bound + 1)) (l.parser next)) :
    Makes (Shallow (bound + 1)) (l.parser level) := by
  intro s
  rw [run_parser_chain chains below]
  exact (operands s).bind fun first holds => after_makes below chains operands holds first.2

theorem disjunction_makes (powers : Makes (Shallow (bound + 1)) l.power) :
    Makes (Shallow (bound + 1)) (disjunction l.power) := by
  have multiplicative : Makes (Shallow (bound + 1)) (l.parser .multiplicative) :=
    chain_makes rfl rfl powers
  have additive : Makes (Shallow (bound + 1)) (l.parser .additive) :=
    chain_makes rfl rfl multiplicative
  have relational : Makes (Shallow (bound + 1)) (l.parser .relational) :=
    chain_makes rfl rfl additive
  have equality : Makes (Shallow (bound + 1)) (l.parser .equality) :=
    chain_makes rfl rfl relational
  have conjunction : Makes (Shallow (bound + 1)) (l.parser .conjunction) :=
    chain_makes rfl rfl equality
  exact @chain_makes bound l .disjunction .conjunction rfl rfl conjunction

end

/-! ### Primary expressions and suffixes -/

section

variable {expression : Parser Expr}

theorem property_makes (nested : Makes (Shallow bound) expression) :
    Makes (fun pair => pair.2.Shallow bound) (property expression) := by
  intro s
  rcases next_or_lacks (fun token => Decidable.em (token.kind = .string ∨ token.kind = .identifier)) s
    with ⟨previous, token, rest, stop, rfl, named⟩ | other
  · rw [run_property_named named]
    refine returnsOnly_bind _ fun colon => ?_
    exact (nested colon.2).bind fun value holds => returnsOnly_ok holds
  · rw [run_property_nameless other]
    exact returnsOnly_error _

theorem ofName_children (name : String) (position : Nat) : (ofName name position).children = [] := by
  unfold ofName
  cases keyword? name <;> rfl

theorem primary_makes (nested : Makes (Shallow bound) expression) :
    Makes (Shallow (bound + 1)) (primary expression) := by
  intro s
  have either : ∀ token : Token,
      startsPrimary token.kind = true ∨ startsPrimary token.kind = false :=
    fun token => Bool.eq_false_or_eq_true _
  rcases next_or_lacks either s with ⟨previous, token, rest, stop, rfl, starts⟩ | other
  · cases kind : token.kind with
    | number =>
        rw [run_primary_number kind]
        exact returnsOnly_ok (shallow_leaf rfl)
    | string =>
        rw [run_primary_string kind]
        exact returnsOnly_ok (shallow_leaf rfl)
    | identifier =>
        rw [run_primary_word kind]
        exact returnsOnly_ok (shallow_leaf (ofName_children _ _))
    | openParen =>
        -- what is in a group is not nested in anything
        rw [run_primary_group kind, run_group]
        refine (returnsOnly_closedBy (nested _) _ _).imp fun inner holds => ?_
        exact holds.mono (Nat.le_succ bound)
    | openBracket =>
        rw [run_primary_array kind]
        refine (items_makes nested _ _ _).bind fun elements each => returnsOnly_ok ?_
        exact .node (fun part none => nomatch none) each
    | openBrace =>
        rw [run_primary_object kind]
        refine (items_makes (property_makes nested) _ _ _).bind fun properties each =>
          returnsOnly_ok ?_
        exact .node (fun part none => nomatch none) (List.forall_mem_map.mpr each)
    | _ =>
        rw [kind] at starts
        cases starts
  · rw [run_primary_other other]
    exact returnsOnly_error _

theorem suffix_makes (nested : Makes (Shallow bound) expression) {e : Expr}
    (holds : e.Shallow (bound + 1)) {token : Token} {suffix : Parser Expr}
    (found : suffix? expression e token = some suffix) : Makes (Shallow (bound + 1)) suffix := by
  have base : ∀ part ∈ [e], part.Shallow (bound + 1) := List.forall_mem_singleton.mpr holds
  intro s
  unfold suffix? at found
  split at found
  · cases found
    rw [run_memberSuffix]
    refine returnsOnly_bind _ fun name => returnsOnly_ok ?_
    exact .node base fun part none => nomatch none
  · cases found
    rw [run_indexSuffix]
    refine (returnsOnly_closedBy (nested s) _ _).bind fun key inner => returnsOnly_ok ?_
    exact .node base (List.forall_mem_singleton.mpr inner)
  · cases found
    by_cases named : ∃ name position, e = .identifier name position
    · obtain ⟨name, position, rfl⟩ := named
      rw [run_callSuffix_name]
      refine (items_makes nested _ _ _).bind fun arguments each => returnsOnly_ok ?_
      exact .node (fun part none => nomatch none) each
    · rw [run_callSuffix_other fun name position is => named ⟨name, position, is⟩]
      exact returnsOnly_error _
  · cases found

theorem suffixes_make (nested : Makes (Shallow bound) expression) {e : Expr}
    (holds : e.Shallow (bound + 1)) (s : Stream) :
    ReturnsOnly (fun v => v.1.Shallow (bound + 1)) (continued (suffixes expression e s)) := by
  refine returnsOnly_loop (f := fun e s => continued (suffixes expression e s))
    (fun e s holds => ?_) holds s
  rcases next_or_lacks (fun token => (suffix? expression e token).eq_none_or_eq_some.symm) s with
    ⟨previous, token, rest, stop, rfl, suffix, found⟩ | none
  · exact .inr ⟨Expr, suffix, _, id, Nat.lt_succ_self _, suffixes_go_on found,
      suffix_makes nested holds found _⟩
  · refine .inl ?_
    rw [suffixes_stop e none]
    exact returnsOnly_ok holds

theorem postfixed_makes (nested : Makes (Shallow bound) expression) :
    Makes (Shallow (bound + 1)) (postfixed expression) := by
  intro s
  rw [run_postfixed]
  exact (primary_makes nested s).bind fun first holds => suffixes_make nested holds first.2

end

/-! ### Conditionals, signs and powers -/

theorem branches_make {deeper : Layer} (nested : Makes (Shallow bound) deeper.expression) {test : Expr}
    (holds : test.Shallow (bound + 1)) (s : Stream) :
    ReturnsOnly (fun v => v.1.Shallow (bound + 1)) (branches deeper test s) := by
  rcases next_or_lacks (fun token => Decidable.em (token.kind = .question)) s with
    ⟨previous, token, rest, stop, rfl, asks⟩ | none
  · rw [branches_go_on test asks]
    refine (nested _).bind fun consequent first => returnsOnly_bind _ fun colon => ?_
    refine (nested _).bind fun alternate second => returnsOnly_ok ?_
    refine .node (List.forall_mem_singleton.mpr holds) ?_
    exact List.forall_mem_cons.mpr ⟨first, List.forall_mem_singleton.mpr second⟩
  · rw [branches_stop test none]
    exact returnsOnly_ok holds

theorem exponent_makes {deeper : Parser Expr} (nested : Makes (Shallow bound) deeper) {base : Expr}
    (holds : base.Shallow (bound + 1)) (s : Stream) :
    ReturnsOnly (fun v => v.1.Shallow (bound + 1)) (exponent deeper base s) := by
  rcases next_or_lacks (fun token => Decidable.em (token.kind = .power)) s with
    ⟨previous, token, rest, stop, rfl, raises⟩ | none
  · rw [exponent_goes_on base raises]
    refine (nested _).bind fun exponent inner => returnsOnly_ok ?_
    exact .node (List.forall_mem_singleton.mpr holds) (List.forall_mem_singleton.mpr inner)
  · rw [exponent_stops base none]
    exact returnsOnly_ok holds

theorem unaryWith_makes {deeper expression : Parser Expr} (operands : Makes (Shallow bound) deeper)
    (nested : Makes (Shallow bound) expression) :
    Makes (Shallow (bound + 1)) (unaryWith deeper expression) := by
  intro s
  rcases next_or_lacks (fun token => (sign? token.kind).eq_none_or_eq_some.symm) s with
    ⟨previous, token, rest, stop, rfl, op, sign⟩ | unsigned
  · rw [run_unaryWith_sign sign]
    refine (operands _).bind fun operand inner => returnsOnly_ok ?_
    exact .node (fun part none => nomatch none) (List.forall_mem_singleton.mpr inner)
  · rw [run_unaryWith_plain unsigned]
    exact postfixed_makes nested s

theorem powerWith_makes {deeper unary : Parser Expr} (exponents : Makes (Shallow bound) deeper)
    (bases : Makes (Shallow (bound + 1)) unary) :
    Makes (Shallow (bound + 1)) (powerWith deeper unary) := by
  intro s
  rw [run_powerWith]
  exact (bases s).bind fun base holds => exponent_makes exponents holds base.2

theorem conditionalWith_makes {deeper : Layer} (nested : Makes (Shallow bound) deeper.expression)
    (powers : Makes (Shallow (bound + 1)) deeper.power) :
    Makes (Shallow (bound + 1)) (conditionalWith deeper) := by
  intro s
  rw [run_conditionalWith]
  exact (disjunction_makes powers s).bind fun test holds => branches_make nested holds test.2

/-! ### Layers -/

/-- What the parsers of a layer make: what is nested elsewhere is nested once less. -/
structure Layer.Nests (bound : Nat) (l : Layer) : Prop where
  expression : Makes (Shallow bound) l.expression
  power : Makes (Shallow (bound + 1)) l.power
  unary : Makes (Shallow (bound + 1)) l.unary

theorem Layer.nests_above {deeper : Layer} (expression : Makes (Shallow bound) deeper.above.expression)
    (powers : Makes (Shallow bound) deeper.power) (operands : Makes (Shallow bound) deeper.unary) :
    deeper.above.Nests bound := by
  have unary := unaryWith_makes operands expression
  exact ⟨expression, powerWith_makes powers unary, unary⟩

theorem layer_nests (levels : Nat) : (layer levels).Nests levels := by
  induction levels with
  | zero =>
      -- below the deepest nesting nothing is made at all
      exact Layer.nests_above (fun s => returnsOnly_error _) (fun s => returnsOnly_error _) fun s =>
        returnsOnly_error _
  | succ levels ih =>
      exact Layer.nests_above (conditionalWith_makes ih.expression ih.power) ih.power ih.unary

theorem shallow_of_ofTokens {tokens : List Token} {stop levels : Nat} {t : Expr}
    (parsed : ofTokens tokens stop levels = .ok t) : t.Shallow levels := by
  have present : tokens ≠ [] := by
    rintro rfl
    cases parsed
  rw [ofTokens_eq present] at parsed
  obtain ⟨⟨e, r⟩, came, finished⟩ := bind_eq_ok.mp parsed
  have made : e.Shallow levels := (layer_nests levels).expression _ _ came
  unfold finish at finished
  split at finished
  · cases finished
    exact made
  · cases finished

/-- No way down a parsed tree, to a leaf or to another node, has as many steps into nested parts as the
nesting that is allowed. -/
theorem nesting_bounded {host : Host} {source : String} {maxNesting : Int} {t below : Expr}
    {steps : Nat} (parses : parse host source maxNesting = .ok t) (way : Way t below steps) :
    (steps : Int) ≤ maxNesting - 1 := by
  obtain ⟨tokens, stop, -, parsed⟩ := ofTokens_of_parse parses
  have less := shallow_of_ofTokens parsed below steps way
  omega

theorem nesting_bounded_call :
    ∃ t x, parse .universal "-f(x)" 3 = .ok t ∧ Way t x 2 ∧ ((2 : Nat) : Int) ≤ 3 - 1 := by
  have parsed : ((parse .universal "-f(x)" 3).toOption.any fun t =>
      (t.nestedParts.flatMap nestedParts).length == 1) = true := by
    decide +kernel
  obtain ⟨t, found, single⟩ := (Option.any_eq_true _ _).mp parsed
  have parses := toOption_eq_some.mp found
  obtain ⟨x, argument⟩ := List.length_eq_one_iff.mp (eq_of_beq single)
  obtain ⟨call, operand, member⟩ := List.mem_flatMap.mp (argument ▸ List.mem_singleton_self x)
  have way : Way t x 2 := .into operand (.into member .here)
  exact ⟨t, x, parses, way, nesting_bounded parses way⟩

end Formula.Expr
