import Formula.Proofs.Expr.Levels
import Formula.Proofs.Token.Lexeme

/-!
Trees but for their positions. The parsers look at what tokens say and not at where they stand: from
tokens that say the same they make the same trees, but for the positions, or fail for the same
cause.
-/

namespace Formula

namespace Expr

mutual

/-- A tree with no positions. -/
def unplaced : Expr → Expr
  | .literal kind raw _ => .literal kind raw 0
  | .identifier name _ => .identifier name 0
  | .member base property _ => .member base.unplaced property 0
  | .index base key _ => .index base.unplaced key.unplaced 0
  | .array elements _ => .array (unplacedAll elements) 0
  | .object properties _ => .object (unplacedProperties properties) 0
  | .unary op operand _ => .unary op operand.unplaced 0
  | .binary op left right _ => .binary op left.unplaced right.unplaced 0
  | .logical op left right _ => .logical op left.unplaced right.unplaced 0
  | .conditional test consequent alternate _ =>
      .conditional test.unplaced consequent.unplaced alternate.unplaced 0
  | .call callee arguments _ => .call callee (unplacedAll arguments) 0
  | .unknown => .unknown

def unplacedAll : List Expr → List Expr
  | [] => []
  | e :: rest => e.unplaced :: unplacedAll rest

def unplacedProperties : List (String × Expr) → List (String × Expr)
  | [] => []
  | (name, e) :: rest => (name, e.unplaced) :: unplacedProperties rest

end

def unplacedProperty (property : String × Expr) : String × Expr :=
  (property.1, property.2.unplaced)

theorem unplacedAll_eq (es : List Expr) : unplacedAll es = es.map unplaced := by
  induction es with
  | nil => rfl
  | cons e rest ih => rw [unplacedAll, ih, List.map_cons]

theorem unplacedProperties_eq (properties : List (String × Expr)) :
    unplacedProperties properties = properties.map unplacedProperty := by
  induction properties with
  | nil => rfl
  | cons property rest ih => rw [unplacedProperties, ih, List.map_cons, unplacedProperty]

theorem unplaced_eq_identifier_iff {e : Expr} {name : String} :
    e.unplaced = .identifier name 0 ↔ ∃ position, e = .identifier name position := by
  constructor
  · intro same
    cases e with
    | identifier other position =>
        cases same
        exact ⟨position, rfl⟩
    | _ => cases same
  · rintro ⟨position, rfl⟩
    rfl

theorem unplaced_join {level : Level} {kind : Token.Kind} {join : Expr → Expr → Nat → Expr}
    (joins : level.join? kind = some join) {a a' b b' : Expr} (left : a'.unplaced = a.unplaced)
    (right : b'.unplaced = b.unplaced) (position position' : Nat) :
    (join a' b' position').unplaced = (join a b position).unplaced := by
  rcases join?_cases joins with ⟨op, rfl, -⟩ | ⟨op, rfl, -⟩ <;> simp only [unplaced, left, right]

end Expr

/-! ### Like streams -/

/-- Two streams whose tokens say the same. -/
structure Stream.Like (s s' : Stream) : Prop where
  previous : s'.previous.map Token.content = s.previous.map Token.content
  ahead : s'.ahead.map Token.content = s.ahead.map Token.content

/-- What comes next in two like streams: a token of one sort in both of them, or none. -/
inductive Stream.Next (P Q : Token.Kind → Prop) : Stream → Stream → Prop where
  | token {previous previous' : Option Token} {token token' : Token} {rest rest' : List Token}
      {stop stop' : Nat} (same : token'.content = token.content) (holds : P token.kind)
      (like : Stream.Like ⟨some token, rest, stop⟩ ⟨some token', rest', stop'⟩) :
      Next P Q ⟨previous, token :: rest, stop⟩ ⟨previous', token' :: rest', stop'⟩
  | other {s s' : Stream} (lacks : ∀ token, s.ahead.head? = some token → Q token.kind)
      (lacks' : ∀ token, s'.ahead.head? = some token → Q token.kind) : Next P Q s s'

theorem Stream.Like.next {s s' : Stream} (like : s.Like s') {P Q : Token.Kind → Prop}
    (either : ∀ kind, P kind ∨ Q kind) : Stream.Next P Q s s' := by
  obtain ⟨previous, ahead, stop⟩ := s
  obtain ⟨previous', ahead', stop'⟩ := s'
  obtain ⟨before, contents⟩ := like
  cases ahead with
  | nil =>
      obtain rfl : ahead' = [] := List.map_eq_nil_iff.mp contents
      exact .other nofun nofun
  | cons token rest =>
      obtain ⟨token', rest', rfl, same, others⟩ := List.map_eq_cons_iff.mp contents
      rcases either token.kind with holds | lacks
      · exact .token same holds ⟨congrArg some same, others⟩
      · refine .other ?_ ?_
        · rintro _ ⟨⟩
          exact lacks
        · rintro _ ⟨⟩
          rwa [Token.kind_congr same]

namespace Expr

variable {α β γ δ : Type}

/-- Two runs return like values and leave like streams, or they fail for the same cause. -/
inductive Agree (f : α → γ) :
    Except ParseError (α × Stream) → Except ParseError (α × Stream) → Prop where
  | ok {v v' : α} {r r' : Stream} (value : f v' = f v) (rest : r.Like r') :
      Agree f (.ok (v, r)) (.ok (v', r'))
  | grammar (cause : GrammarCause) (position position' : Nat) :
      Agree f (.error (.grammar cause position)) (.error (.grammar cause position'))
  | nesting (position position' : Nat) :
      Agree f (.error (.nesting position)) (.error (.nesting position'))

theorem Agree.bind {f : α → γ} {g : β → δ} {x x' : Except ParseError (α × Stream)}
    {k k' : α × Stream → Except ParseError (β × Stream)} (first : Agree f x x')
    (next : ∀ v r v' r', x = .ok (v, r) → f v' = f v → r.Like r' →
      Agree g (k (v, r)) (k' (v', r'))) : Agree g (x >>= k) (x' >>= k') := by
  cases first with
  | ok value rest => exact next _ _ _ _ rfl value rest
  | grammar cause position position' => exact .grammar cause position position'
  | nesting position position' => exact .nesting position position'

/-- A parser does alike with like streams. -/
def Uniform (f : α → γ) (p : Parser α) : Prop :=
  ∀ s s', s.Like s' → Agree f (run p s) (run p s')

theorem expect_uniform (kind : Token.Kind) (cause : GrammarCause) :
    Uniform Token.content (expect kind cause) := by
  intro s s' like
  cases like.next (fun other => Decidable.em (other = kind)) with
  | token same holds behind =>
      rw [run_expect_found cause holds,
        run_expect_found cause ((Token.kind_congr same).trans holds)]
      exact .ok same behind
  | other lacks lacks' =>
      rw [run_expect_missing cause lacks, run_expect_missing cause lacks']
      exact .grammar _ _ _

theorem Agree.closed {f : α → γ} {x x' : Except ParseError (α × Stream)} (first : Agree f x x')
    (close : Token.Kind) (cause : GrammarCause) :
    Agree f (closedBy close cause x) (closedBy close cause x') := by
  refine first.bind fun v r v' r' _ value rest => ?_
  exact (expect_uniform close cause r r' rest).bind fun _ _ _ _ _ _ rest => .ok value rest

/-! ### Chains -/

section

variable {l : Layer} {level next : Level}

theorem after_agrees (below : level.tighter? = some next) (chains : level.isChain = true)
    (operands : Uniform unplaced (l.parser next)) {e e' : Expr} (same : e'.unplaced = e.unplaced)
    {s s' : Stream} (like : s.Like s') :
    Agree unplaced (l.after level e s) (l.after level e' s') := by
  induction size : s.size using Nat.strongRecOn generalizing e e' s s' with
  | ind n ih =>
      subst size
      cases like.next (fun kind => (level.join? kind).eq_none_or_eq_some.symm) with
      | token content joins behind =>
          obtain ⟨join, joins⟩ := joins
          have joins' := (congrArg level.join? (Token.kind_congr content)).trans joins
          rw [after_goes_on joins below, after_goes_on joins' below]
          refine (operands _ _ behind).bind fun v r v' r' returned value rest => ?_
          have shorter := Nat.lt_succ_of_lt (size_lt_of_run returned)
          exact ih r.size shorter (unplaced_join joins same value _ _) rest rfl
      | other lacks lacks' =>
          rw [after_stops chains e lacks, after_stops chains e' lacks']
          exact .ok same like

theorem chain_uniform (below : level.tighter? = some next) (chains : level.isChain = true)
    (operands : Uniform unplaced (l.parser next)) : Uniform unplaced (l.parser level) := by
  intro s s' like
  rw [run_parser_chain chains below, run_parser_chain chains below]
  exact (operands s s' like).bind fun _ _ _ _ _ value rest =>
    after_agrees below chains operands value rest

theorem disjunction_uniform (powers : Uniform unplaced l.power) :
    Uniform unplaced (disjunction l.power) := by
  have multiplicative : Uniform unplaced (l.parser .multiplicative) := chain_uniform rfl rfl powers
  have additive : Uniform unplaced (l.parser .additive) := chain_uniform rfl rfl multiplicative
  have relational : Uniform unplaced (l.parser .relational) := chain_uniform rfl rfl additive
  have equality : Uniform unplaced (l.parser .equality) := chain_uniform rfl rfl relational
  have conjunction : Uniform unplaced (l.parser .conjunction) := chain_uniform rfl rfl equality
  exact @chain_uniform l .disjunction .conjunction rfl rfl conjunction

end

/-! ### Lists -/

section

variable {f : α → γ} {item : Parser α}

theorem moreItems_agree (each : Uniform f item) {done done' : List α}
    (same : done'.map f = done.map f) {s s' : Stream} (like : s.Like s') :
    Agree (List.map f) (continued (moreItems item done s))
      (continued (moreItems item done' s')) := by
  induction size : s.size using Nat.strongRecOn generalizing done done' s s' with
  | ind n ih =>
      subst size
      cases like.next (fun kind => Decidable.em (kind = .comma)) with
      | token content comma behind =>
          have comma' := (Token.kind_congr content).trans comma
          rw [moreItems_goes_on done comma, moreItems_goes_on done' comma']
          refine (each _ _ behind).bind fun v r v' r' returned value rest => ?_
          have shorter := Nat.lt_succ_of_lt (size_lt_of_run returned)
          have longer : (v' :: done').map f = (v :: done).map f := by
            rw [List.map_cons, List.map_cons, value, same]
          exact ih r.size shorter longer rest rfl
      | other lacks lacks' =>
          rw [moreItems_stops done lacks, moreItems_stops done' lacks']
          refine .ok ?_ like
          rw [List.map_reverse, List.map_reverse, same]

theorem items_uniform (each : Uniform f item) (close : Token.Kind) (cause : GrammarCause) :
    Uniform (List.map f) (items item close cause) := by
  intro s s' like
  cases like.next (fun kind => Decidable.em (kind = close)) with
  | token content closes behind =>
      rw [run_items_none cause closes,
        run_items_none cause ((Token.kind_congr content).trans closes)]
      exact .ok rfl behind
  | other lacks lacks' =>
      rw [run_items_some cause lacks, run_items_some cause lacks']
      refine ((each s s' like).bind fun v r v' r' _ value rest => ?_).closed close cause
      have first : [v'].map f = [v].map f := congrArg (fun x => [x]) value
      exact moreItems_agree each first rest

end

/-! ### Primary expressions and suffixes -/

section

variable {expression : Parser Expr}

theorem property_uniform (nested : Uniform unplaced expression) :
    Uniform unplacedProperty (property expression) := by
  intro s s' like
  cases like.next (fun kind => Decidable.em (kind = .string ∨ kind = .identifier)) with
  | token content named behind =>
      have named' := (Token.kind_congr content) ▸ named
      rw [run_property_named named, run_property_named named']
      refine (expect_uniform _ _ _ _ behind).bind fun _ r _ r' _ _ rest => ?_
      refine (nested r r' rest).bind fun _ _ _ _ _ value rest => .ok ?_ rest
      exact Prod.ext (Token.value_congr content) value
  | other lacks lacks' =>
      rw [run_property_nameless lacks, run_property_nameless lacks']
      exact .grammar _ _ _

theorem group_uniform (nested : Uniform unplaced expression) :
    Uniform unplaced (group expression) := by
  intro s s' like
  rw [run_group, run_group]
  exact (nested s s' like).closed _ _

theorem unexpected_like {s s' : Stream} (like : s.Like s') : unexpected s' = unexpected s := by
  obtain ⟨previous, ahead, stop⟩ := s
  obtain ⟨previous', ahead', stop'⟩ := s'
  obtain ⟨before, contents⟩ := like
  cases ahead with
  | nil =>
      obtain rfl : ahead' = [] := List.map_eq_nil_iff.mp contents
      rfl
  | cons token rest =>
      obtain ⟨token', rest', rfl, same, -⟩ := List.map_eq_cons_iff.mp contents
      have value := Token.value_congr same
      cases previous with
      | none =>
          obtain rfl : previous' = none := Option.map_eq_none_iff.mp before
          simp only [unexpected, value]
      | some last =>
          obtain ⟨last', rfl, earlier⟩ := Option.map_eq_some_iff.mp before
          simp only [unexpected, Token.kind_congr same, value, Token.kind_congr earlier,
            Token.value_congr earlier]

theorem unplaced_ofName (name : String) (position position' : Nat) :
    (ofName name position').unplaced = (ofName name position).unplaced := by
  unfold ofName
  cases keyword? name <;> rfl

theorem primary_uniform (nested : Uniform unplaced expression) :
    Uniform unplaced (primary expression) := by
  intro s s' like
  cases like.next (fun kind => Bool.eq_false_or_eq_true (startsPrimary kind)) with
  | @token _ _ token token' _ _ _ _ content starts behind =>
      have kind' : token'.kind = token.kind := Token.kind_congr content
      have value : token'.value = token.value := Token.value_congr content
      cases kind : token.kind with
      | number =>
          rw [run_primary_number kind, run_primary_number (kind'.trans kind), value]
          exact .ok rfl behind
      | string =>
          rw [run_primary_string kind, run_primary_string (kind'.trans kind), value]
          exact .ok rfl behind
      | identifier =>
          rw [run_primary_word kind, run_primary_word (kind'.trans kind), value]
          exact .ok (unplaced_ofName _ _ _) behind
      | openParen =>
          rw [run_primary_group kind, run_primary_group (kind'.trans kind)]
          exact group_uniform nested _ _ behind
      | openBracket =>
          rw [run_primary_array kind, run_primary_array (kind'.trans kind)]
          refine (items_uniform nested _ _ _ _ behind).bind fun _ _ _ _ _ elements rest =>
            .ok ?_ rest
          rw [unplaced, unplaced, unplacedAll_eq, unplacedAll_eq, elements]
      | openBrace =>
          rw [run_primary_object kind, run_primary_object (kind'.trans kind)]
          refine (items_uniform (property_uniform nested) _ _ _ _ behind).bind
            fun _ _ _ _ _ properties rest => .ok ?_ rest
          rw [unplaced, unplaced, unplacedProperties_eq, unplacedProperties_eq, properties]
      | _ =>
          rw [kind] at starts
          cases starts
  | other lacks lacks' =>
      rw [run_primary_other lacks, run_primary_other lacks', unexpected_like like]
      exact .grammar _ _ _

theorem suffix_agrees (nested : Uniform unplaced expression) {e e' : Expr}
    (same : e'.unplaced = e.unplaced) {token token' : Token}
    (content : token'.content = token.content) {suffix : Parser Expr} (found : suffix? expression e token = some suffix) :
    ∃ suffix', suffix? expression e' token' = some suffix' ∧ ∀ s s', s.Like s' →
      Agree unplaced (run suffix s) (run suffix' s') := by
  unfold suffix? at found ⊢
  rw [Token.kind_congr content]
  split at found
  · cases found
    refine ⟨_, rfl, fun s s' like => ?_⟩
    rw [run_memberSuffix, run_memberSuffix]
    refine (expect_uniform _ _ s s' like).bind fun _ _ _ _ _ content rest => .ok ?_ rest
    rw [unplaced, unplaced, same, Token.value_congr content]
  · cases found
    refine ⟨_, rfl, fun s s' like => ?_⟩
    rw [run_indexSuffix, run_indexSuffix]
    refine ((nested s s' like).closed _ _).bind fun _ _ _ _ _ value rest => .ok ?_ rest
    rw [unplaced, unplaced, same, value]
  · cases found
    refine ⟨_, rfl, fun s s' like => ?_⟩
    -- only names are called, and names are names without their positions too
    by_cases named : ∃ name position, e = .identifier name position
    · obtain ⟨name, position, rfl⟩ := named
      obtain ⟨position', rfl⟩ := unplaced_eq_identifier_iff.mp same
      rw [run_callSuffix_name, run_callSuffix_name]
      refine (items_uniform nested _ _ s s' like).bind fun _ _ _ _ _ arguments rest =>
        .ok ?_ rest
      rw [unplaced, unplaced, unplacedAll_eq, unplacedAll_eq, arguments]
    · have other : ∀ name position, e ≠ .identifier name position := fun name position is =>
        named ⟨name, position, is⟩
      have other' : ∀ name position, e' ≠ .identifier name position := by
        rintro name position rfl
        obtain ⟨position, is⟩ := unplaced_eq_identifier_iff.mp same.symm
        exact other name position is
      rw [run_callSuffix_other other, run_callSuffix_other other']
      exact .grammar _ _ _
  · cases found

theorem suffixes_agree (nested : Uniform unplaced expression) {e e' : Expr}
    (same : e'.unplaced = e.unplaced) {s s' : Stream} (like : s.Like s') :
    Agree unplaced (continued (suffixes expression e s))
      (continued (suffixes expression e' s')) := by
  induction size : s.size using Nat.strongRecOn generalizing e e' s s' with
  | ind n ih =>
      subst size
      have either : ∀ kind : Token.Kind,
          ¬ (kind ≠ .dot ∧ kind ≠ .openBracket ∧ kind ≠ .openParen) ∨
            (kind ≠ .dot ∧ kind ≠ .openBracket ∧ kind ≠ .openParen) := fun kind =>
        (Decidable.em _).symm
      cases like.next either with
      | @token _ _ token _ _ _ _ _ content follows behind =>
          cases found : suffix? expression e token with
          | none => exact absurd (suffix?_eq_none_iff.mp found) follows
          | some suffix =>
              obtain ⟨suffix', found', agrees⟩ := suffix_agrees nested same content found
              rw [suffixes_go_on found, suffixes_go_on found']
              refine (agrees _ _ behind).bind fun v r v' r' returned value rest => ?_
              exact ih r.size (Nat.lt_succ_of_lt (size_lt_of_run returned)) value rest rfl
      | other lacks lacks' =>
          rw [suffixes_stop e fun token first => suffix?_eq_none_iff.mpr (lacks token first),
            suffixes_stop e' fun token first => suffix?_eq_none_iff.mpr (lacks' token first)]
          exact .ok same like

theorem postfixed_uniform (nested : Uniform unplaced expression) :
    Uniform unplaced (postfixed expression) := by
  intro s s' like
  rw [run_postfixed, run_postfixed]
  exact (primary_uniform nested s s' like).bind fun _ _ _ _ _ value rest =>
    suffixes_agree nested value rest

end

/-! ### Conditionals, signs and powers -/

theorem branches_agree {deeper : Layer} (nested : Uniform unplaced deeper.expression)
    {test test' : Expr} (same : test'.unplaced = test.unplaced) {s s' : Stream} (like : s.Like s') :
    Agree unplaced (branches deeper test s) (branches deeper test' s') := by
  cases like.next (fun kind => Decidable.em (kind = .question)) with
  | token content asks behind =>
      rw [branches_go_on test asks, branches_go_on test' ((Token.kind_congr content).trans asks)]
      refine (nested _ _ behind).bind fun _ r _ r' _ consequent rest => ?_
      refine (expect_uniform _ _ r r' rest).bind fun _ t _ t' _ _ rest => ?_
      refine (nested t t' rest).bind fun _ _ _ _ _ alternate rest => .ok ?_ rest
      rw [unplaced, unplaced, same, consequent, alternate]
  | other lacks lacks' =>
      rw [branches_stop test lacks, branches_stop test' lacks']
      exact .ok same like

theorem exponent_agrees {deeper : Parser Expr} (nested : Uniform unplaced deeper)
    {base base' : Expr} (same : base'.unplaced = base.unplaced) {s s' : Stream} (like : s.Like s') :
    Agree unplaced (exponent deeper base s) (exponent deeper base' s') := by
  cases like.next (fun kind => Decidable.em (kind = .power)) with
  | token content raises behind =>
      rw [exponent_goes_on base raises,
        exponent_goes_on base' ((Token.kind_congr content).trans raises)]
      refine (nested _ _ behind).bind fun _ _ _ _ _ exponent rest => .ok ?_ rest
      rw [unplaced, unplaced, same, exponent]
  | other lacks lacks' =>
      rw [exponent_stops base lacks, exponent_stops base' lacks']
      exact .ok same like

theorem unaryWith_uniform {deeper expression : Parser Expr} (operands : Uniform unplaced deeper)
    (nested : Uniform unplaced expression) : Uniform unplaced (unaryWith deeper expression) := by
  intro s s' like
  cases like.next (fun kind => (sign? kind).eq_none_or_eq_some.symm) with
  | token content signed behind =>
      obtain ⟨op, sign⟩ := signed
      rw [run_unaryWith_sign sign,
        run_unaryWith_sign ((congrArg sign? (Token.kind_congr content)).trans sign)]
      refine (operands _ _ behind).bind fun _ _ _ _ _ operand rest => .ok ?_ rest
      rw [unplaced, unplaced, operand]
  | other lacks lacks' =>
      rw [run_unaryWith_plain lacks, run_unaryWith_plain lacks']
      exact postfixed_uniform nested s s' like

theorem powerWith_uniform {deeper unary : Parser Expr} (exponents : Uniform unplaced deeper)
    (bases : Uniform unplaced unary) : Uniform unplaced (powerWith deeper unary) := by
  intro s s' like
  rw [run_powerWith, run_powerWith]
  exact (bases s s' like).bind fun _ _ _ _ _ value rest => exponent_agrees exponents value rest

theorem conditionalWith_uniform {deeper : Layer} (nested : Uniform unplaced deeper.expression)
    (powers : Uniform unplaced deeper.power) : Uniform unplaced (conditionalWith deeper) := by
  intro s s' like
  rw [run_conditionalWith, run_conditionalWith]
  exact (disjunction_uniform powers s s' like).bind fun _ _ _ _ _ value rest =>
    branches_agree nested value rest

/-! ### Layers -/

structure Layer.Uniform (l : Layer) : Prop where
  expression : Expr.Uniform unplaced l.expression
  power : Expr.Uniform unplaced l.power
  unary : Expr.Uniform unplaced l.unary

theorem Layer.Uniform.above {deeper : Layer} (uniform : deeper.Uniform) : deeper.above.Uniform := by
  have expression := conditionalWith_uniform uniform.expression uniform.power
  have unary := unaryWith_uniform uniform.unary expression
  exact ⟨expression, powerWith_uniform uniform.power unary, unary⟩

theorem exhausted_uniform : exhausted.Uniform :=
  ⟨fun _ _ _ => .nesting _ _, fun _ _ _ => .nesting _ _, fun _ _ _ => .nesting _ _⟩

theorem layer_uniform (levels : Nat) : (layer levels).Uniform := by
  induction levels with
  | zero => exact exhausted_uniform.above
  | succ levels ih => exact ih.above

end Expr

end Formula
