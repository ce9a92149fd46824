import Formula.Proofs.Expr.Grammar
import Formula.Proofs.Expr.Parts

/-!
Every node of a tree is derived itself, from a stretch of the tokens that derive the tree. What is
behind such a stretch never calls the node.
-/

namespace Formula.Expr

def Phrase.trees : Phrase → List Expr
  | .expression _ e => [e]
  | .property pair => [pair.2]
  | .elements es => es
  | .properties pairs => pairs.map Prod.snd

/-- The next token, if there is one, is no opening parenthesis. -/
def Uncalled (rest : List Token) : Prop :=
  ∀ token, rest.head? = some token → token.kind ≠ .openParen

theorem uncalled_nil : Uncalled [] := fun _ none => nomatch none

theorem uncalled_cons {token : Token} (rest : List Token) (other : token.kind ≠ .openParen) :
    Uncalled (token :: rest) := by
  intro next found
  cases found
  exact other

theorem uncalled_of_kind {token : Token} {kind : Token.Kind} (rest : List Token)
    (same : token.kind = kind) (other : kind ≠ .openParen) : Uncalled (token :: rest) :=
  uncalled_cons rest (same ▸ other)

theorem Uncalled.append {ts rest : List Token} (first : Uncalled ts) (second : Uncalled rest) :
    Uncalled (ts ++ rest) := by
  cases ts with
  | nil => exact second
  | cons token ts => exact first

/-- What joins operands is an operator, and no token of any other kind. -/
theorem ne_of_join? {level : Level} {kind other : Token.Kind} {join : Expr → Expr → Nat → Expr}
    (joins : level.join? kind = some join) (plain : other.isBinaryOperator = false) :
    kind ≠ other := by
  have operator : kind.isBinaryOperator = true := by
    cases level <;> cases kind <;> cases joins <;> rfl
  rintro rfl
  exact Bool.false_ne_true (plain.symm.trans operator)

theorem children_join {level : Level} {kind : Token.Kind} {join : Expr → Expr → Nat → Expr}
    (joins : level.join? kind = some join) (a b : Expr) (position : Nat) :
    (join a b position).children = [a, b] := by
  rcases join?_cases joins with ⟨op, rfl, -⟩ | ⟨op, rfl, -⟩ <;> rfl

theorem join_ne_call {level : Level} {kind : Token.Kind} {join : Expr → Expr → Nat → Expr}
    (joins : level.join? kind = some join) (a b : Expr) (place : Nat) (name : String)
    (arguments : List Expr) (position : Nat) : join a b place ≠ .call name arguments position := by
  intro same
  rcases join?_cases joins with ⟨op, rfl, -⟩ | ⟨op, rfl, -⟩ <;> cases same

/-- A node is derived from a stretch of some tokens, and not called behind it. -/
def Stands (ts : List Token) (node : Expr) : Prop :=
  ∃ front inner back level, ts = front ++ (inner ++ back) ∧
    Derives inner (.expression level node) ∧ Uncalled back

theorem stands_whole {ts : List Token} {level : Level} {e : Expr}
    (whole : Derives ts (.expression level e)) : Stands ts e :=
  ⟨[], ts, [], level, (List.append_nil ts).symm, whole, uncalled_nil⟩

theorem Stands.widen {ts : List Token} {node : Expr} (stands : Stands ts node) (front : List Token)
    {back : List Token} (uncalled : Uncalled back) : Stands (front ++ (ts ++ back)) node := by
  obtain ⟨before, inner, behind, level, rfl, derives, closed⟩ := stands
  refine ⟨front ++ before, inner, behind ++ back, level, ?_, derives, closed.append uncalled⟩
  simp only [List.append_assoc]

def AllStand (ts : List Token) (trees : List Expr) : Prop :=
  ∀ tree ∈ trees, ∀ node, Within node tree → Stands ts node

theorem allStand_nil (ts : List Token) : AllStand ts [] := fun _ none => nomatch none

theorem AllStand.behind {ts : List Token} {trees : List Expr} (all : AllStand ts trees)
    (front : List Token) : AllStand (front ++ ts) trees := by
  intro tree member node within
  have wide := (all tree member node within).widen front uncalled_nil
  rwa [List.append_nil] at wide

theorem AllStand.cons {ts : List Token} {trees : List Expr} (all : AllStand ts trees)
    (token : Token) : AllStand (token :: ts) trees := all.behind [token]

theorem AllStand.join {ts us : List Token} {trees others : List Expr} (first : AllStand ts trees)
    (second : AllStand us others) (uncalled : Uncalled us) :
    AllStand (ts ++ us) (trees ++ others) := by
  intro tree member node within
  rcases List.mem_append.mp member with before | after
  · exact (first tree before node within).widen [] uncalled
  · exact second.behind ts tree after node within

theorem AllStand.closed {ts : List Token} {trees : List Expr} (all : AllStand ts trees)
    {token : Token} {kind : Token.Kind} (same : token.kind = kind) (other : kind ≠ .openParen) :
    AllStand (ts ++ [token]) trees := by
  have whole := all.join (allStand_nil [token]) (uncalled_of_kind [] same other)
  rwa [List.append_nil] at whole

theorem allStand_node {ts : List Token} {level : Level} {e : Expr}
    (whole : Derives ts (.expression level e)) (parts : AllStand ts e.children) :
    AllStand ts [e] := by
  intro tree member node within
  rw [List.mem_singleton] at member
  subst member
  rcases within_iff.mp within with rfl | ⟨part, member, below⟩
  · exact stands_whole whole
  · exact parts part member node below

theorem Derives.allStand {ts : List Token} {phrase : Phrase} (derives : Derives ts phrase) :
    AllStand ts phrase.trees := by
  induction derives with
  | tighter below whole ih => exact ih
  | conditional first asks second parts third ih₁ ih₂ ih₃ =>
      have branches := ih₂.join (ih₃.cons _) (uncalled_of_kind _ parts nofun)
      have whole := ih₁.join (branches.cons _) (uncalled_of_kind _ asks nofun)
      exact allStand_node (.conditional first asks second parts third) whole
  | chain first joins below second ih₁ ih₂ =>
      have operands := ih₁.join (ih₂.cons _) (uncalled_cons _ (ne_of_join? joins rfl))
      refine allStand_node (.chain first joins below second) ?_
      rw [children_join joins]
      exact operands
  | power first raises second ih₁ ih₂ =>
      have operands := ih₁.join (ih₂.cons _) (uncalled_of_kind _ raises nofun)
      exact allStand_node (.power first raises second) operands
  | not negates only ih => exact allStand_node (.not negates only) (ih.cons _)
  | negate negates only ih => exact allStand_node (.negate negates only) (ih.cons _)
  | @member base dot name a first selects names ih =>
      have base := ih.join (allStand_nil [dot, name]) (uncalled_of_kind [name] selects nofun)
      exact allStand_node (.member first selects names) base
  | @index base key opens closes a b first opening second closing ih₁ ih₂ =>
      have inside := (ih₂.closed closing nofun).cons opens
      have whole := ih₁.join inside (uncalled_of_kind _ opening nofun)
      exact allStand_node (.index first opening second closing) whole
  | @call callee arguments opens closes name position es first opening inner closing ih₁ ih₂ =>
      have behind := ((ih₂.closed closing nofun).cons opens).behind callee
      exact allStand_node (.call first opening inner closing) behind
  | number number => exact allStand_node (.number number) (allStand_nil _)
  | string string => exact allStand_node (.string string) (allStand_nil _)
  | keyword word literal => exact allStand_node (.keyword word literal) (allStand_nil _)
  | name word plain => exact allStand_node (.name word plain) (allStand_nil _)
  | group opening inner closing ih => exact (ih.closed closing nofun).cons _
  | array opening inner closing ih =>
      exact allStand_node (.array opening inner closing) ((ih.closed closing nofun).cons _)
  | object opening inner closing ih =>
      exact allStand_node (.object opening inner closing) ((ih.closed closing nofun).cons _)
  | property named parts only ih => exact (ih.cons _).cons _
  | noElements => exact allStand_nil _
  | oneElement only ih => exact ih
  | moreElements before some parts next ih₁ ih₂ =>
      exact ih₁.join (ih₂.cons _) (uncalled_of_kind _ parts nofun)
  | noProperties => exact allStand_nil _
  | oneProperty only ih => exact ih
  | moreProperties before some parts next ih₁ ih₂ =>
      have both := ih₁.join (ih₂.cons _) (uncalled_of_kind _ parts nofun)
      rwa [Phrase.trees, List.map_append]

/-! ### The nodes of derived trees -/

/-- A node that formulas are written with. -/
def IsWritable : Expr → Prop
  | .unary (.other _) _ _ | .binary (.other _) _ _ _ | .logical (.other _) _ _ _ | .unknown => False
  | _ => True

theorem isWritable_join {level : Level} {kind : Token.Kind} {join : Expr → Expr → Nat → Expr}
    (joins : level.join? kind = some join) (a b : Expr) (position : Nat) :
    (join a b position).IsWritable := by
  cases level <;> cases kind <;> cases joins <;> trivial

theorem Derives.isWritable {ts : List Token} {phrase : Phrase} (derives : Derives ts phrase)
    {level : Level} {e : Expr} (whole : phrase = .expression level e) : e.IsWritable := by
  induction derives generalizing level with
  | tighter below whole ih =>
      cases whole
      exact ih rfl
  | chain first joins below second =>
      cases whole
      exact isWritable_join joins _ _ _
  | group opening inner closing ih =>
      cases whole
      exact ih rfl
  | _ => cases whole <;> trivial

/-- What is derived as a call holds the name that is called, bare or in parentheses, before the
parenthesis of the arguments. -/
theorem Derives.callee {ts : List Token} {phrase : Phrase} (derives : Derives ts phrase)
    {level : Level} {name : String} {arguments : List Expr} {position : Nat}
    (whole : phrase = .expression level (.call name arguments position)) :
    ∃ front callee opens back, ts = front ++ (callee ++ opens :: back) ∧
      Named name position callee ∧ opens.kind = .openParen := by
  induction derives generalizing level with
  | tighter below derives ih =>
      cases whole
      exact ih rfl
  | chain first joins below second =>
      injection whole with _ same
      exact absurd same (join_ne_call joins _ _ _ name arguments position)
  | @call callee arguments opens closes name position es first opening inner closing =>
      cases whole
      exact ⟨[], callee, opens, _, rfl, first.named rfl, opening⟩
  | @group inside opens closes a opening inner closing ih =>
      cases whole
      obtain ⟨front, callee, opens', back, rfl, named, opening'⟩ := ih rfl
      refine ⟨opens :: front, callee, opens', back ++ [closes], ?_, named, opening'⟩
      simp only [List.cons_append, List.append_assoc]
  | _ => cases whole

end Formula.Expr
