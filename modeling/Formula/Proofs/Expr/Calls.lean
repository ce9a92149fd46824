import Formula.Proofs.Expr.Stretch
import Formula.Proofs.Expr.Walk

/-!
The calls of a tree and the names among the tokens that derive it. What is called are some of the
names, in their order, and every name that stands before an opening parenthesis is called.
-/

namespace Formula.Expr

def call? : Expr → Option (Nat × String)
  | .call callee _ position => some (position, callee)
  | _ => none

def calls (e : Expr) : List (Nat × String) := e.nodes.filterMap call?

def callsOf (trees : List Expr) : List (Nat × String) := trees.flatMap calls

theorem callsOf_append (trees others : List Expr) :
    callsOf (trees ++ others) = callsOf trees ++ callsOf others := List.flatMap_append

theorem calls_eq (e : Expr) : e.calls = e.call?.toList ++ callsOf e.children :=
  filterMap_nodes_eq call? e

theorem callsOf_singleton (e : Expr) : callsOf [e] = e.calls := List.flatMap_singleton calls e

theorem mem_calls_iff {e : Expr} {call : Nat × String} :
    call ∈ e.calls ↔ ∃ arguments, Within (.call call.2 arguments call.1) e := by
  simp only [calls, List.mem_filterMap, mem_nodes_iff]
  constructor
  · rintro ⟨node, within, named⟩
    cases node with
    | call callee arguments position =>
        cases named
        exact ⟨arguments, within⟩
    | _ => cases named
  · rintro ⟨arguments, within⟩
    exact ⟨_, within, rfl⟩

/-- A token that is a name but no word for a literal, as the name with its position. -/
def name? (token : Token) : Option (Nat × String) :=
  if token.kind = .identifier ∧ keyword? token.value = none then
    some (token.position, token.value)
  else none

def names (ts : List Token) : List (Nat × String) := ts.filterMap name?

/-- The names that stand before an opening parenthesis. -/
def called : List Token → List (Nat × String)
  | [] => []
  | token :: rest =>
      if rest.head?.map (·.kind) = some .openParen then (name? token).toList ++ called rest
      else called rest

theorem name?_eq_some {token : Token} {name : Nat × String} (named : name? token = some name) :
    token.kind = .identifier ∧ keyword? token.value = none ∧ name = (token.position, token.value) := by
  unfold name? at named
  split at named
  · rename_i word
    cases named
    exact ⟨word.1, word.2, rfl⟩
  · cases named

theorem pairwise_names {tokens : List Token}
    (ordered : tokens.Pairwise fun a b => a.position < b.position) :
    (names tokens).Pairwise fun a b => a.1 < b.1 := by
  refine List.Pairwise.filterMap name? (fun a b before name named name' named' => ?_) ordered
  obtain ⟨-, -, rfl⟩ := name?_eq_some named
  obtain ⟨-, -, rfl⟩ := name?_eq_some named'
  exact before

theorem name?_of_kind {token : Token} {kind : Token.Kind} (same : token.kind = kind)
    (other : kind ≠ .identifier) : name? token = none :=
  if_neg fun word => other (same.symm.trans word.1)

theorem called_cons_of_opening (token : Token) {opens : Token} (opening : opens.kind = .openParen)
    (rest : List Token) :
    called (token :: opens :: rest) = (name? token).toList ++ called (opens :: rest) :=
  if_pos (congrArg some opening)

theorem called_cons_of_uncalled (token : Token) {rest : List Token} (uncalled : Uncalled rest) :
    called (token :: rest) = called rest := by
  refine if_neg fun opens => ?_
  obtain ⟨next, first, opening⟩ := Option.map_eq_some_iff.mp opens
  exact uncalled next first opening

theorem called_cons_of_nameless {token : Token} (nameless : name? token = none)
    (rest : List Token) : called (token :: rest) = called rest := by
  rw [called, nameless]
  exact ite_self _

theorem called_append (ts : List Token) {rest : List Token} (uncalled : Uncalled rest) :
    called (ts ++ rest) = called ts ++ called rest := by
  induction ts with
  | nil => rfl
  | cons token ts ih =>
      cases ts with
      | nil => exact called_cons_of_uncalled token uncalled
      | cons next ts =>
          rw [List.cons_append] at ih ⊢
          rw [List.cons_append]
          by_cases opening : next.kind = .openParen
          · rw [called_cons_of_opening token opening, called_cons_of_opening token opening, ih,
              List.append_assoc]
          · rw [called_cons_of_uncalled token (uncalled_cons _ opening),
              called_cons_of_uncalled token (uncalled_cons _ opening), ih]

/-! ### Calls among names -/

/-- Tokens and trees agree on what is called. -/
structure Matched (ts : List Token) (trees : List Expr) : Prop where
  among : (callsOf trees).Sublist (names ts)
  complete : (called ts).Sublist (callsOf trees)

theorem matched_nil : Matched [] [] := ⟨.slnil, .slnil⟩

theorem matched_single (token : Token) : Matched [token] [] :=
  ⟨List.nil_sublist _, .slnil⟩

theorem Matched.join {ts us : List Token} {trees others : List Expr} (first : Matched ts trees)
    (second : Matched us others) (uncalled : Uncalled us) : Matched (ts ++ us) (trees ++ others) where
  among := by
    rw [callsOf_append, names, List.filterMap_append]
    exact first.among.append second.among
  complete := by
    rw [callsOf_append, called_append ts uncalled]
    exact first.complete.append second.complete

theorem Matched.behind {ts : List Token} {trees : List Expr} (matched : Matched ts trees)
    {token : Token} (same : called (token :: ts) = called ts) : Matched (token :: ts) trees where
  among := matched.among.trans ((List.sublist_cons_self token ts).filterMap name?)
  complete := same ▸ matched.complete

theorem Matched.cons {ts : List Token} {trees : List Expr} (matched : Matched ts trees)
    {token : Token} {kind : Token.Kind} (same : token.kind = kind) (other : kind ≠ .identifier) :
    Matched (token :: ts) trees :=
  matched.behind (called_cons_of_nameless (name?_of_kind same other) ts)

theorem Matched.closed {ts : List Token} {trees : List Expr} (matched : Matched ts trees)
    {token : Token} {kind : Token.Kind} (same : token.kind = kind) (other : kind ≠ .openParen) :
    Matched (ts ++ [token]) trees := by
  have whole := matched.join (matched_single token) (uncalled_of_kind [] same other)
  rwa [List.append_nil] at whole

theorem matched_node {ts : List Token} {e : Expr} (parts : Matched ts e.children)
    (uncalling : e.call? = none) : Matched ts [e] := by
  have same : callsOf [e] = callsOf e.children := by
    rw [callsOf_singleton, calls_eq, uncalling]
    rfl
  exact ⟨same ▸ parts.among, same ▸ parts.complete⟩

theorem call?_join {level : Level} {kind : Token.Kind} {join : Expr → Expr → Nat → Expr}
    (joins : level.join? kind = some join) (a b : Expr) (position : Nat) :
    (join a b position).call? = none := by
  rcases join?_cases joins with ⟨op, rfl, -⟩ | ⟨op, rfl, -⟩ <;> rfl

section

variable {name : String} {position : Nat} {callee : List Token}

theorem Named.names_eq (named : Named name position callee) : names callee = [(position, name)] := by
  induction named with
  | bare word plain same there =>
      subst same there
      rw [names, List.filterMap_cons, name?, if_pos ⟨word, plain⟩]
      rfl
  | grouped opening inner closing ih =>
      rw [names, List.filterMap_cons, name?_of_kind opening nofun, List.filterMap_append, ← names, ih,
        List.filterMap_cons, name?_of_kind closing nofun]
      rfl

theorem Named.called_eq_nil (named : Named name position callee) : called callee = [] := by
  induction named with
  | bare => rfl
  | grouped opening inner closing ih =>
      rw [called_cons_of_nameless (name?_of_kind opening nofun),
        called_append _ (uncalled_of_kind [] closing nofun), ih]
      rfl

theorem Named.matched (named : Named name position callee) {opens : Token} {rest : List Token}
    {arguments : List Expr} (opening : opens.kind = .openParen) (inner : Matched rest arguments) :
    Matched (callee ++ opens :: rest) [.call name arguments position] := by
  have opened := inner.cons opening nofun
  have call : callsOf [.call name arguments position] = (position, name) :: callsOf arguments := by
    rw [callsOf_singleton, calls_eq]
    rfl
  refine ⟨?_, ?_⟩
  · rw [call, names, List.filterMap_append, ← names, named.names_eq]
    exact opened.among.cons_cons _
  · rw [call]
    cases named with
    | bare word plain same there =>
        subst same there
        rw [List.cons_append, List.nil_append, called_cons_of_opening _ opening, name?,
          if_pos ⟨word, plain⟩]
        exact opened.complete.cons_cons _
    | @grouped inside left right opens' inside' closes =>
        -- what stands before the parenthesis of the arguments is a closing one, and no name
        have closed : Uncalled ([right] ++ opens :: rest) := uncalled_of_kind _ closes nofun
        rw [List.cons_append, List.append_assoc, called_cons_of_nameless (name?_of_kind opens' nofun),
          called_append inside closed, inside'.called_eq_nil, List.nil_append, List.cons_append,
          called_cons_of_nameless (name?_of_kind closes nofun)]
        exact opened.complete.cons _

end

/-- What tokens derive calls some of their names in order, and all that stand before an opening
parenthesis. -/
theorem Derives.matched {ts : List Token} {phrase : Phrase} (derives : Derives ts phrase) :
    Matched ts phrase.trees := by
  induction derives with
  | tighter below whole ih => exact ih
  | conditional first asks second parts third ih₁ ih₂ ih₃ =>
      have branches := ih₂.join (ih₃.cons parts nofun) (uncalled_of_kind _ parts nofun)
      exact matched_node
        (ih₁.join (branches.cons asks nofun) (uncalled_of_kind _ asks nofun)) rfl
  | chain first joins below second ih₁ ih₂ =>
      have right := ih₂.cons rfl (ne_of_join? joins rfl)
      have operands := ih₁.join right (uncalled_cons _ (ne_of_join? joins rfl))
      refine matched_node ?_ (call?_join joins _ _ _)
      rw [children_join joins]
      exact operands
  | power first raises second ih₁ ih₂ =>
      have operands := ih₁.join (ih₂.cons raises nofun) (uncalled_of_kind _ raises nofun)
      exact matched_node operands rfl
  | not negates only ih => exact matched_node (ih.cons negates nofun) rfl
  | negate negates only ih => exact matched_node (ih.cons negates nofun) rfl
  | @member base dot name a first selects names ih =>
      have selected := (matched_single name).cons selects nofun
      exact matched_node (ih.join selected (uncalled_of_kind _ selects nofun)) rfl
  | index first opening second closing ih₁ ih₂ =>
      have inside := (ih₂.closed closing nofun).cons opening nofun
      exact matched_node (ih₁.join inside (uncalled_of_kind _ opening nofun)) rfl
  | call first opening inner closing ih₁ ih₂ =>
      exact (first.named rfl).matched opening (ih₂.closed closing nofun)
  | @number token number => exact matched_node (matched_single token) rfl
  | @string token string => exact matched_node (matched_single token) rfl
  | @keyword token kind word literal => exact matched_node (matched_single token) rfl
  | @name token word plain => exact matched_node (matched_single token) rfl
  | group opening inner closing ih => exact (ih.closed closing nofun).cons opening nofun
  | array opening inner closing ih =>
      exact matched_node ((ih.closed closing nofun).cons opening nofun) rfl
  | object opening inner closing ih =>
      exact matched_node ((ih.closed closing nofun).cons opening nofun) rfl
  | property named parts only ih =>
      have value := ih.cons parts nofun
      exact value.behind (called_cons_of_uncalled _ (uncalled_of_kind _ parts nofun))
  | noElements => exact matched_nil
  | oneElement only ih => exact ih
  | moreElements before some parts next ih₁ ih₂ =>
      exact ih₁.join (ih₂.cons parts nofun) (uncalled_of_kind _ parts nofun)
  | noProperties => exact matched_nil
  | oneProperty only ih => exact ih
  | moreProperties before some parts next ih₁ ih₂ =>
      have both := ih₁.join (ih₂.cons parts nofun) (uncalled_of_kind _ parts nofun)
      rwa [Phrase.trees, List.map_append]

end Formula.Expr
