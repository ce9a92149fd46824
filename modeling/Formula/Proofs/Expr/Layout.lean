import Formula.Proofs.Expr.Calls

/-!
How trees lie in the tokens that derive them. Every node owns a token, which stands behind what is
written of the node before it and before the rest, and no token is owned twice.
-/

namespace Formula.Expr

/-- A token that a node owns. Some parts of the node stand before it and the others behind it. -/
inductive Owns (token : Token) : List Expr → List Expr → Expr → Prop where
  | number (number : token.kind = .number) :
      Owns token [] [] (.literal .number token.value token.position)
  | string (string : token.kind = .string) :
      Owns token [] [] (.literal .string token.value token.position)
  | keyword {kind : LiteralKind} (word : token.kind = .identifier)
      (literal : keyword? token.value = some kind) :
      Owns token [] [] (.literal kind token.value token.position)
  | name (word : token.kind = .identifier) (plain : keyword? token.value = none) :
      Owns token [] [] (.identifier token.value token.position)
  | member {base : Expr} {property : String} (selects : token.kind = .dot) :
      Owns token [base] [] (.member base property base.position)
  | index {base key : Expr} (opening : token.kind = .openBracket) :
      Owns token [base] [key] (.index base key base.position)
  | array {es : List Expr} (opening : token.kind = .openBracket) :
      Owns token [] es (.array es token.position)
  | object {pairs : List (String × Expr)} (opening : token.kind = .openBrace) :
      Owns token [] (pairs.map Prod.snd) (.object pairs token.position)
  | unary {op : UnaryOp} {operand : Expr}
      (symbol : (op.symbol.toList, token.kind) ∈ Token.symbols) :
      Owns token [] [operand] (.unary op operand token.position)
  | binary {op : BinaryOp} {a b : Expr}
      (symbol : (op.symbol.toList, token.kind) ∈ Token.symbols) :
      Owns token [a] [b] (.binary op a b token.position)
  | logical {op : LogicalOp} {a b : Expr}
      (symbol : (op.symbol.toList, token.kind) ∈ Token.symbols) :
      Owns token [a] [b] (.logical op a b token.position)
  | conditional {a b c : Expr} (asks : token.kind = .question) :
      Owns token [a] [b, c] (.conditional a b c a.position)
  | call {es : List Expr} (word : token.kind = .identifier) (plain : keyword? token.value = none) :
      Owns token [] es (.call token.value es token.position)

/-- Trees lie in tokens one behind the other. -/
inductive Lies : List Token → List Expr → Prop where
  | nil : Lies [] []
  | skip {token : Token} {ts : List Token} {trees : List Expr} (rest : Lies ts trees) :
      Lies (token :: ts) trees
  | node {token : Token} {before after : List Expr} {e : Expr} {front back : List Token}
      (owns : Owns token before after e) (left : Lies front before) (right : Lies back after) :
      Lies (front ++ token :: back) [e]
  | join {ts us : List Token} {trees others : List Expr} (first : Lies ts trees)
      (second : Lies us others) : Lies (ts ++ us) (trees ++ others)

section

variable {token : Token} {before after trees : List Expr} {e : Expr} {ts : List Token}

theorem Owns.children_eq (owns : Owns token before after e) : e.children = before ++ after := by
  cases owns <;> rfl

theorem owns_join {level : Level} {join : Expr → Expr → Nat → Expr}
    (joins : level.join? token.kind = some join) (a b : Expr) :
    Owns token [a] [b] (join a b token.position) := by
  rcases join?_cases joins with ⟨op, rfl, symbol⟩ | ⟨op, rfl, symbol⟩
  · exact .binary symbol
  · exact .logical symbol

theorem lies_nil (ts : List Token) : Lies ts [] := by
  induction ts with
  | nil => exact .nil
  | cons token ts ih => exact .skip ih

theorem Lies.closed (lies : Lies ts trees) (back : List Token) : Lies (ts ++ back) trees := by
  have whole := lies.join (lies_nil back)
  rwa [List.append_nil] at whole

theorem Named.lies {name : String} {position : Nat} (named : Named name position ts)
    {back : List Token} {es : List Expr} (arguments : Lies back es) :
    Lies (ts ++ back) [.call name es position] := by
  obtain ⟨front, token, behind, rfl, -, same, -⟩ := List.filterMap_eq_cons_iff.mp named.names_eq
  obtain ⟨word, plain, there⟩ := name?_eq_some same
  cases there
  rw [List.append_assoc]
  -- parentheses around the name are no one's own
  exact .node (.call word plain) (lies_nil front) ((lies_nil behind).join arguments)

theorem Derives.lies {phrase : Phrase} (derives : Derives ts phrase) : Lies ts phrase.trees := by
  induction derives with
  | tighter below whole ih => exact ih
  | conditional first asks second parts third ih₁ ih₂ ih₃ =>
      exact .node (.conditional asks) ih₁ (ih₂.join ih₃.skip)
  | chain first joins below second ih₁ ih₂ => exact .node (owns_join joins _ _) ih₁ ih₂
  | power first raises second ih₁ ih₂ =>
      exact .node (.binary (by rw [raises]; decide)) ih₁ ih₂
  | not negates only ih => exact .node (.unary (by rw [negates]; decide)) .nil ih
  | negate negates only ih => exact .node (.unary (by rw [negates]; decide)) .nil ih
  | member first selects names ih => exact .node (.member selects) ih (lies_nil _)
  | index first opening second closing ih₁ ih₂ =>
      exact .node (.index opening) ih₁ (ih₂.closed _)
  | call first opening inner closing ih₁ ih₂ => exact (first.named rfl).lies (ih₂.closed _).skip
  | number number => exact .node (.number number) .nil .nil
  | string string => exact .node (.string string) .nil .nil
  | keyword word literal => exact .node (.keyword word literal) .nil .nil
  | name word plain => exact .node (.name word plain) .nil .nil
  | group opening inner closing ih => exact (ih.closed _).skip
  | array opening inner closing ih => exact .node (.array opening) .nil (ih.closed _)
  | object opening inner closing ih => exact .node (.object opening) .nil (ih.closed _)
  | property named parts only ih => exact ih.skip.skip
  | noElements => exact .nil
  | oneElement only ih => exact ih
  | moreElements before some parts next ih₁ ih₂ => exact ih₁.join ih₂.skip
  | noProperties => exact .nil
  | oneProperty only ih => exact ih
  | moreProperties before some parts next ih₁ ih₂ =>
      rw [Phrase.trees, List.map_append]
      exact ih₁.join ih₂.skip

/-! ### Nodes -/

/-- A node lies among some tokens, its parts to the left and to the right of the token that it
owns. -/
inductive Placed (ts : List Token) (node : Expr) : Prop where
  | intro {token : Token} {before after : List Expr} {front back : List Token}
      (owns : Owns token before after node) (left : Lies front before) (right : Lies back after)
      (among : (front ++ token :: back).Sublist ts)

theorem Placed.widen {node : Expr} {us : List Token} (placed : Placed ts node)
    (wider : ts.Sublist us) : Placed us node := by
  obtain ⟨owns, left, right, among⟩ := placed
  exact ⟨owns, left, right, among.trans wider⟩

theorem Lies.within (lies : Lies ts trees) {tree node : Expr} (member : tree ∈ trees)
    (within : Within node tree) : Placed ts node := by
  induction lies generalizing tree with
  | nil => cases member
  | skip rest ih => exact (ih member within).widen (List.sublist_cons_self _ _)
  | @node token before after e front back owns left right ih₁ ih₂ =>
      cases List.mem_singleton.mp member
      rcases within_iff.mp within with rfl | ⟨part, child, below⟩
      · exact ⟨owns, left, right, .refl _⟩
      · rw [owns.children_eq] at child
        rcases List.mem_append.mp child with child | child
        · exact (ih₁ child below).widen (List.sublist_append_left _ _)
        · exact (ih₂ child below).widen
            ((List.sublist_cons_self _ _).trans (List.sublist_append_right _ _))
  | join first second ih₁ ih₂ =>
      rcases List.mem_append.mp member with member | member
      · exact (ih₁ member within).widen (List.sublist_append_left _ _)
      · exact (ih₂ member within).widen (List.sublist_append_right _ _)

/-- A word is no literal that is written otherwise. -/
theorem keyword?_cases {word : String} {kind : LiteralKind} (literal : keyword? word = some kind) :
    kind = .boolean ∨ kind = .null := by
  unfold keyword? at literal
  split at literal <;> cases literal
  · exact .inl rfl
  · exact .inl rfl
  · exact .inr rfl

/-- A literal is one of the tokens, and if it is a number, one of their numbers. -/
theorem Placed.literal {kind : LiteralKind} {raw : String} {position : Nat}
    (placed : Placed ts (.literal kind raw position)) :
    ∃ token ∈ ts, token.value = raw ∧ (kind = .number → token.kind = .number) := by
  obtain ⟨owns, left, right, among⟩ := placed
  have member := among.subset (List.mem_append_right _ List.mem_cons_self)
  cases owns with
  | number number => exact ⟨_, member, rfl, fun _ => number⟩
  | string string => exact ⟨_, member, rfl, fun other => nomatch other⟩
  | keyword word literal =>
      refine ⟨_, member, rfl, fun number => ?_⟩
      rcases keyword?_cases literal with same | same <;> cases number.symm.trans same

/-- A node stands where the token that it owns is, or where one of the parts before it stands. -/
theorem Owns.position_eq (owns : Owns token before after e) :
    e.position = token.position ∨ ∃ part ∈ before, e.position = part.position := by
  cases owns with
  | member | index | conditional => exact .inr ⟨_, List.mem_cons_self, rfl⟩
  | _ => exact .inl rfl

theorem Lies.position_mem (lies : Lies ts trees) {tree : Expr} (member : tree ∈ trees) :
    tree.position ∈ ts.map (·.position) := by
  induction lies generalizing tree with
  | nil => cases member
  | skip rest ih => exact List.mem_cons_of_mem _ (ih member)
  | node owns left right ih₁ ih₂ =>
      cases List.mem_singleton.mp member
      rw [List.map_append, List.map_cons]
      rcases owns.position_eq with here | ⟨part, child, there⟩
      · rw [here]
        exact List.mem_append_right _ List.mem_cons_self
      · rw [there]
        exact List.mem_append_left _ (ih₁ child)
  | join first second ih₁ ih₂ =>
      rw [List.map_append]
      exact (List.mem_append.mp member).elim (fun member => List.mem_append_left _ (ih₁ member))
        fun member => List.mem_append_right _ (ih₂ member)

theorem Placed.position_mem {node : Expr} (placed : Placed ts node) :
    node.position ∈ ts.map (·.position) := by
  obtain ⟨owns, left, right, among⟩ := placed
  have lies : Lies _ [node] := .node owns left right
  exact (among.map _).subset (lies.position_mem List.mem_cons_self)

/-! ### Operands -/

def operands? : Expr → Option (Expr × Expr)
  | .binary _ left right _ | .logical _ left right _ => some (left, right)
  | _ => none

theorem Placed.between {node a b : Expr} (placed : Placed ts node)
    (operands : node.operands? = some (a, b))
    (ordered : ts.Pairwise fun a b => a.position < b.position) :
    (∀ part, Within part a → part.position < node.position) ∧
      ∀ part, Within part b → node.position < part.position := by
  obtain ⟨operator, front, back, left, right, here, among⟩ : ∃ operator front back,
      Lies front [a] ∧ Lies back [b] ∧ node.position = operator.position ∧
        (front ++ operator :: back).Sublist ts := by
    obtain ⟨owns, left, right, among⟩ := placed
    cases owns <;> cases operands <;> exact ⟨_, _, _, left, right, rfl, among⟩
  obtain ⟨-, behind, before⟩ := List.pairwise_append.mp (ordered.sublist among)
  obtain ⟨behind, -⟩ := List.pairwise_cons.mp behind
  rw [here]
  refine ⟨fun part within => ?_, fun part within => ?_⟩
  · obtain ⟨token, member, there⟩ :=
      List.mem_map.mp (left.within List.mem_cons_self within).position_mem
    rw [← there]
    exact before token member operator List.mem_cons_self
  · obtain ⟨token, member, there⟩ :=
      List.mem_map.mp (right.within List.mem_cons_self within).position_mem
    rw [← there]
    exact behind token member

/-! ### Names -/

/-- The name that a node is: one that is read, or one that is called. -/
def ownName? : Expr → Option (Nat × String)
  | .identifier name position | .call name _ position => some (position, name)
  | _ => none

def ownNames (e : Expr) : List (Nat × String) := e.nodes.filterMap ownName?

theorem ownNames_eq (e : Expr) : e.ownNames = e.ownName?.toList ++ e.children.flatMap ownNames :=
  filterMap_nodes_eq ownName? e

theorem names_cons (token : Token) (ts : List Token) :
    names (token :: ts) = (name? token).toList ++ names ts := by
  rw [names, List.filterMap_cons]
  cases name? token <;> rfl

theorem Owns.ownName? (owns : Owns token before after e) :
    e.ownName? = none ∨ before = [] ∧ e.ownName? = name? token := by
  cases owns with
  | name word plain => exact .inr ⟨rfl, (if_pos ⟨word, plain⟩).symm⟩
  | call word plain => exact .inr ⟨rfl, (if_pos ⟨word, plain⟩).symm⟩
  | _ => exact .inl rfl

theorem Lies.ownNames_sublist (lies : Lies ts trees) :
    (trees.flatMap ownNames).Sublist (names ts) := by
  induction lies with
  | nil => exact .slnil
  | skip rest ih => exact ih.trans ((List.sublist_cons_self _ _).filterMap name?)
  | @node token before after e front back owns left right ih₁ ih₂ =>
      rw [List.flatMap_singleton, ownNames_eq, owns.children_eq, List.flatMap_append, names,
        List.filterMap_append]
      -- a name comes before its parts in the walk, and nothing of the node before the name
      rcases owns.ownName? with none | ⟨rfl, own⟩
      · rw [none]
        exact ih₁.append (ih₂.trans ((List.sublist_cons_self _ _).filterMap name?))
      · rw [own]
        have behind := (List.Sublist.refl (name? token).toList).append ih₂
        rw [← names_cons] at behind
        exact behind.trans (List.sublist_append_right _ _)
  | join first second ih₁ ih₂ =>
      rw [List.flatMap_append, names, List.filterMap_append]
      exact ih₁.append ih₂

end

end Formula.Expr
