import Formula.Proofs.Expr.Layout
import Formula.Proofs.Expr.Recognition
import Formula.Proofs.Token.Lexeme

/-!
The positions of a tree are places in its source, where its nodes are written.
-/

namespace Formula.Expr

/-- What the source begins with at the position of a node. Members and conditionals stand where their
first part does. -/
def StartsAs (cs : List Char) : Expr → Prop
  | .literal .string _ _ => ∃ quote, Token.isQuote quote = true ∧ [quote] <+: cs
  | .literal _ text _ | .identifier text _ | .call text _ _ => text.toList <+: cs
  | .array _ _ => ['['] <+: cs
  | .object _ _ => ['\x7b'] <+: cs
  | .unary op _ _ => op.symbol.toList <+: cs
  | .binary op _ _ _ => op.symbol.toList <+: cs
  | .logical op _ _ _ => op.symbol.toList <+: cs
  | .member base _ position | .index base _ position => position = base.position
  | .conditional test _ _ position => position = test.position
  | .unknown => False

theorem StartsAs.mono {lexeme cs : List Char} {e : Expr} (starts : e.StartsAs lexeme)
    (front : lexeme <+: cs) : e.StartsAs cs := by
  have longer {text : List Char} (written : text <+: lexeme) : text <+: cs := written.trans front
  unfold StartsAs at starts ⊢
  split at starts
  · obtain ⟨quote, quotes, first⟩ := starts
    exact ⟨quote, quotes, longer first⟩
  all_goals first | exact longer starts | exact starts

theorem Owns.startsAs {token : Token} {before after : List Expr} {e : Expr}
    (owns : Owns token before after e) (read : token.IsRead) :
    e.position = token.position ∧ e.StartsAs token.lexeme ∨ ∀ cs, e.StartsAs cs := by
  have alone (kind : Token.Kind) (same : token.kind = kind) (other : kind ≠ .string) :
      token.value.toList <+: token.lexeme :=
    Token.toList_value (same ▸ other) ▸ List.prefix_rfl
  have symbol {text : List Char} (written : (text, token.kind) ∈ Token.symbols) :
      text <+: token.lexeme :=
    read.lexeme_eq written ▸ List.prefix_rfl
  cases owns with
  | number number => exact .inl ⟨rfl, alone _ number nofun⟩
  | string string => exact .inl ⟨rfl, read.quoted string⟩
  | @keyword kind word literal =>
      refine .inl ⟨rfl, ?_⟩
      cases kind with
      | string => rcases keyword?_cases literal with same | same <;> cases same
      | _ => exact alone _ word nofun
  | name word => exact .inl ⟨rfl, alone _ word nofun⟩
  | call word => exact .inl ⟨rfl, alone _ word nofun⟩
  | array opening => exact .inl ⟨rfl, symbol (by rw [opening]; decide)⟩
  | object opening => exact .inl ⟨rfl, symbol (by rw [opening]; decide)⟩
  | unary operator => exact .inl ⟨rfl, symbol operator⟩
  | binary operator => exact .inl ⟨rfl, symbol operator⟩
  | logical operator => exact .inl ⟨rfl, symbol operator⟩
  | member | index | conditional => exact .inr fun _ => rfl

theorem Placed.startsAs {ts : List Token} {source : List Char} {node : Expr}
    (placed : Placed ts node)
    (there : ∀ token ∈ ts, token.IsRead ∧ token.lexeme <+: source.drop token.position) :
    node.StartsAs (source.drop node.position) := by
  obtain ⟨owns, -, -, among⟩ := placed
  obtain ⟨read, front⟩ := there _ (among.subset (List.mem_append_right _ List.mem_cons_self))
  rcases owns.startsAs read with ⟨here, starts⟩ | starts
  · rw [here]
    exact starts.mono front
  · exact starts _

/-- Every node of a parsed tree stands at the place of a token, where the source begins as the node
is written; members, keyed or not, stand where their object does, and conditionals where their test
does. Operators stand between their operands, and a walk through the tree comes to its names, those
that are read and those that are called, in their order in the source. -/
theorem places_faithful {source : String} {tokens : List Token} {stop levels : Nat} {tree : Expr}
    (lexes : Token.tokens source = .ok (tokens, stop))
    (parses : ofTokens tokens stop levels = .ok tree) :
    (∀ node, Within node tree → node.position ∈ tokens.map (·.position) ∧
        node.StartsAs (source.toList.drop node.position)) ∧
      (∀ node left right, Within node tree → node.operands? = some (left, right) →
        (∀ part, Within part left → part.position < node.position) ∧
          ∀ part, Within part right → node.position < part.position) ∧
      tree.ownNames.Pairwise fun a b => a.1 < b.1 := by
  obtain ⟨-, rfl, -⟩ := Token.tokens_eq_ok_iff.mp lexes
  have ordered := Token.pairwise_scan source
  have lies : Lies (Token.scan source).tokens [tree] := (derives_of_ofTokens parses).lies
  have placed {node : Expr} (within : Within node tree) : Placed (Token.scan source).tokens node :=
    lies.within List.mem_cons_self within
  refine ⟨fun node within => ⟨(placed within).position_mem, ?_⟩,
    fun node left right within operands => (placed within).between operands ordered, ?_⟩
  · exact (placed within).startsAs fun token member =>
      ⟨Token.isRead_of_mem member, Token.lexeme_isPrefix member⟩
  · have names := lies.ownNames_sublist
    rw [List.flatMap_singleton] at names
    exact (pairwise_names ordered).sublist names

theorem places_faithful_sum :
    ∃ tokens stop tree left right, Token.tokens "MAX(a, (b)) + 1" = .ok (tokens, stop) ∧
      ofTokens tokens stop 32 = .ok tree ∧ parse .universal "MAX(a, (b)) + 1" 32 = .ok tree ∧
      tree.ownNames = [(0, "MAX"), (4, "a"), (8, "b")] ∧ tree.operands? = some (left, right) ∧
      left.position < 12 ∧ tree.position = 12 ∧ 12 < right.position ∧
      12 ∈ tokens.map (·.position) ∧ tree.StartsAs ['+', ' ', '1'] := by
  have parsed : (match parse .universal "MAX(a, (b)) + 1" 32 with
      | .ok tree => decide (tree.ownNames = [(0, "MAX"), (4, "a"), (8, "b")] ∧
          tree.operands?.isSome ∧ tree.position = 12)
      | .error _ => false) = true := by
    decide +kernel
  split at parsed
  · rename_i tree parses
    obtain ⟨names, joins, place⟩ := of_decide_eq_true parsed
    obtain ⟨⟨left, right⟩, operands⟩ := Option.isSome_iff_exists.mp joins
    obtain ⟨tokens, stop, lexes, built⟩ := ofTokens_of_parse parses
    obtain ⟨nodes, between, -⟩ := places_faithful lexes built
    obtain ⟨member, starts⟩ := nodes tree .root
    obtain ⟨before, after⟩ := between tree left right .root operands
    rw [place] at member starts
    exact ⟨tokens, stop, tree, left, right, lexes, built, parses, names, operands,
      place ▸ before left .root, place, place ▸ after right .root, member, starts⟩
  · cases parsed

end Formula.Expr
