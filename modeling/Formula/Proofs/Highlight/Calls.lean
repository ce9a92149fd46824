import Formula.Proofs.Expr.Calls
import Formula.Proofs.Expr.Recognition
import Formula.Proofs.Highlight

/-!
Highlighting agrees with parsing: the names that are highlighted as functions are those that the tree
calls, but for names in parentheses of their own, and the names that it reads are highlighted as
fields.
-/

namespace Formula

/-- The kind of the token behind the one at a position. -/
def Token.kindBehind (position : Nat) : List Token → Option Token.Kind
  | [] => none
  | token :: rest =>
      if token.position = position then rest.head?.map (·.kind) else kindBehind position rest

theorem Token.kindBehind_eq {before : List Token} {token : Token} {after : List Token}
    (ordered : (before ++ token :: after).Pairwise fun a b => a.position < b.position) :
    kindBehind token.position (before ++ token :: after) = after.head?.map (·.kind) := by
  induction before with
  | nil => exact if_pos rfl
  | cons first before ih =>
      obtain ⟨earlier, ordered⟩ := List.pairwise_cons.mp ordered
      have other := earlier token (List.mem_append_right before List.mem_cons_self)
      exact (if_neg (Nat.ne_of_lt other)).trans (ih ordered)

namespace Highlight

open Formula.Expr

/-- The texts of a category of spans, with their positions. -/
def marked (category : Category) (spans : List Span) : List (Nat × String) :=
  (spans.filter (·.category = category)).map fun span => (span.start, span.text)

theorem mem_marked {category : Category} {spans : List Span} {span : Span} (member : span ∈ spans)
    (same : span.category = category) : (span.start, span.text) ∈ marked category spans :=
  List.mem_map_of_mem (List.mem_filter.mpr ⟨member, by simpa using same⟩)

theorem marked_cons_of_eq {category : Category} {span : Span} (same : span.category = category)
    (spans : List Span) :
    marked category (span :: spans) = (span.start, span.text) :: marked category spans := by
  rw [marked, List.filter_cons_of_pos (by simpa using same)]
  rfl

theorem marked_cons_of_ne {category : Category} {span : Span} (other : span.category ≠ category)
    (spans : List Span) : marked category (span :: spans) = marked category spans := by
  rw [marked, List.filter_cons_of_neg (by simpa using other)]
  rfl

/-! ### The category of a token -/

theorem literalWord_iff {name : String} :
    literalWords.contains (Text.lowerName name) = true ↔ keyword? name ≠ none := by
  unfold keyword?
  split
  · rename_i word
    rw [word]
    decide
  · rename_i word
    rw [word]
    decide
  · rename_i word
    rw [word]
    decide
  · rename_i notTrue notFalse notNull
    simp only [literalWords, List.contains_cons, List.contains_nil, Bool.or_eq_true, beq_iff_eq,
      Bool.false_eq_true, or_false, ne_eq, not_true_eq_false, iff_false, not_or]
    exact ⟨notTrue, notFalse, notNull⟩

theorem value_identifier {token : Token} (word : token.kind = .identifier) :
    token.value = String.ofList token.lexeme := by
  rw [Token.value, word]

theorem category_spanOf_name {token : Token} {name : Nat × String} (named : name? token = some name)
    (following : Option Token.Kind) :
    (spanOf token following).category =
      if following = some .openParen then .function else .field := by
  obtain ⟨word, plain, -⟩ := name?_eq_some named
  have other : ¬ literalWords.contains (Text.lowerName token.value) = true := fun literal =>
    literalWord_iff.mp literal plain
  rw [spanOf, categoryOf, word]
  dsimp only
  rw [if_neg other]
  simp only [beq_iff_eq]

theorem category_spanOf_nameless {token : Token} (nameless : name? token = none)
    (following : Option Token.Kind) : (spanOf token following).category ≠ .function := by
  unfold spanOf categoryOf
  dsimp only
  split
  · rename_i word
    have literal : literalWords.contains (Text.lowerName token.value) = true := by
      rw [literalWord_iff]
      intro plain
      rw [name?, if_pos ⟨word, plain⟩] at nameless
      cases nameless
    rw [if_pos literal]
    decide
  · decide
  · decide
  · split <;> decide

theorem spanOf_name {token : Token} {name : Nat × String} (named : name? token = some name)
    (following : Option Token.Kind) :
    ((spanOf token following).start, (spanOf token following).text) = name := by
  obtain ⟨word, -, rfl⟩ := name?_eq_some named
  rw [value_identifier word]
  rfl

/-- The functions among the spans of tokens are the names before an opening parenthesis. -/
theorem marked_function_spansOf (tokens : List Token) :
    marked .function (spansOf tokens) = called tokens := by
  induction tokens with
  | nil => rfl
  | cons token rest ih =>
      rw [spansOf, called]
      cases named : name? token with
      | none =>
          rw [marked_cons_of_ne (category_spanOf_nameless named _), ih]
          exact (ite_self _).symm
      | some name =>
          have category := category_spanOf_name named (rest.head?.map (·.kind))
          by_cases opens : rest.head?.map (·.kind) = some .openParen
          · rw [if_pos opens] at category ⊢
            rw [marked_cons_of_eq category, ih, spanOf_name named]
            rfl
          · rw [if_neg opens] at category ⊢
            have other : (spanOf token (rest.head?.map (·.kind))).category ≠ .function := by
              rw [category]
              decide
            rw [marked_cons_of_ne other, ih]

theorem spanOf_mem_spansOf (before : List Token) (token : Token) (after : List Token) :
    spanOf token (after.head?.map (·.kind)) ∈ spansOf (before ++ token :: after) := by
  induction before with
  | nil => exact List.mem_cons_self
  | cons first before ih => exact List.mem_cons_of_mem _ ih

theorem mem_marked_field {before after : List Token} {token : Token} {name : Nat × String}
    (named : name? token = some name) (uncalled : after.head?.map (·.kind) ≠ some .openParen) :
    name ∈ marked .field (spansOf (before ++ token :: after)) := by
  have category := category_spanOf_name named (after.head?.map (·.kind))
  rw [if_neg uncalled] at category
  rw [← spanOf_name named (after.head?.map (·.kind))]
  exact mem_marked (spanOf_mem_spansOf before token after) category

end Highlight

namespace Expr

open Formula.Highlight

section

variable {tokens : List Token}

theorem called_eq_filter (ordered : tokens.Pairwise fun a b => a.position < b.position) :
    called tokens = (names tokens).filter fun name =>
      Token.kindBehind name.1 tokens = some .openParen := by
  -- positions are looked up among all tokens, so that the induction is on those that are left of them
  suffices shifted : ∀ before ts, tokens = before ++ ts → called ts = (names ts).filter fun name =>
      Token.kindBehind name.1 tokens = some .openParen from shifted [] tokens rfl
  intro before ts split
  induction ts generalizing before with
  | nil => rfl
  | cons token rest ih =>
      have rest := ih (before ++ [token]) (by rw [split, List.append_assoc]; rfl)
      rw [called, names, List.filterMap_cons, rest]
      cases named : name? token with
      | none => exact ite_self _
      | some name =>
          obtain ⟨-, -, rfl⟩ := name?_eq_some named
          have behind := Token.kindBehind_eq (split ▸ ordered)
          rw [List.filter_cons, split, behind]
          simp only [decide_eq_true_eq]
          split <;> rfl

end

theorem filter_eq_of_sublist {α : Type} {xs ys zs : List α} {p : α → Bool} (all : ys = zs.filter p)
    (inner : ys.Sublist xs) (outer : xs.Sublist zs) : xs.filter p = ys := by
  have below := inner.filter p
  have above := outer.filter p
  rw [← all] at above
  rw [all, List.filter_filter] at below
  simp only [Bool.and_self] at below
  rw [← all] at below
  exact above.eq_of_length_le below.length_le

/-- A name in some tokens: either it is all of them, or the parenthesis that encloses it closes behind
it. -/
theorem Named.token {name : String} {position : Nat} {ts : List Token}
    (named : Named name position ts) (front back : List Token) :
    ∃ before token after, front ++ (ts ++ back) = before ++ token :: after ∧
      name? token = some (position, name) ∧
      (after = back ∨ after.head?.map (·.kind) = some .closeParen) := by
  induction named generalizing front back with
  | @bare token word plain same there =>
      subst same there
      exact ⟨front, token, back, rfl, if_pos ⟨word, plain⟩, .inl rfl⟩
  | @grouped inside opens closes opening inner closing ih =>
      obtain ⟨before, token, after, split, named, behind⟩ :=
        ih (front ++ [opens]) ([closes] ++ back)
      refine ⟨before, token, after, ?_, named, .inr ?_⟩
      · rw [← split]
        simp only [List.append_assoc, List.cons_append, List.nil_append]
      · rcases behind with rfl | closed
        · exact congrArg some closing
        · exact closed

end Expr

open Formula.Highlight Formula.Expr

section

variable {tokens : List Token} {tree : Expr}

theorem identifier_mem_marked (derives : Derives tokens (.expression .conditional tree)) {name : String}
    {position : Nat} (within : Within (.identifier name position) tree) :
    (position, name) ∈ marked .field (spansOf tokens) := by
  obtain ⟨front, inner, back, level, rfl, whole, uncalled⟩ :=
    derives.allStand tree List.mem_cons_self _ within
  obtain ⟨before, token, after, split, named, behind⟩ :=
    (derives_identifier_iff.mp whole).token front back
  rw [split]
  refine mem_marked_field named fun opens => ?_
  rcases behind with rfl | closed
  · obtain ⟨next, first, opening⟩ := Option.map_eq_some_iff.mp opens
    exact uncalled next first opening
  · rw [closed] at opens
    cases opens

/-- A call names a token, before the parenthesis of the arguments or of a group that ends there. -/
theorem Expr.Derives.callToken (derives : Derives tokens (.expression .conditional tree))
    {call : Nat × String} (member : call ∈ tree.calls) :
    ∃ before token after, tokens = before ++ token :: after ∧ name? token = some call ∧
      (after.head?.map (·.kind) = some .openParen ∨ after.head?.map (·.kind) = some .closeParen) := by
  obtain ⟨arguments, within⟩ := mem_calls_iff.mp member
  obtain ⟨front, inner, back, level, rfl, whole, -⟩ :=
    derives.allStand tree List.mem_cons_self _ within
  obtain ⟨front', callee, opens, back', rfl, named, opening⟩ := whole.callee rfl
  obtain ⟨before, token, after, split, name, behind⟩ :=
    named.token (front ++ front') (opens :: (back' ++ back))
  refine ⟨before, token, after, ?_, name, ?_⟩
  · rw [← split]
    simp only [List.append_assoc, List.cons_append]
  · rcases behind with rfl | closed
    · exact .inl (congrArg some opening)
    · exact .inr closed

end

/-- The names that are highlighted as functions are those of the calls of the tree, which its nodes
come to in the order of their positions, that stand before an opening parenthesis. The other names
that are called stand before a closing one and are highlighted as fields, and so are all names that
the tree reads. -/
theorem highlights_calls {host : Host} {formula : String} {maxNesting : Int} {tree : Expr}
    (parses : Expr.parse host formula maxNesting = .ok tree) :
    (tree.calls.Pairwise fun a b => a.1 < b.1) ∧
      marked .function (highlight formula) = tree.calls.filter (fun call =>
        Token.kindBehind call.1 (Token.scan formula).tokens = some .openParen) ∧
      (∀ call ∈ tree.calls,
        Token.kindBehind call.1 (Token.scan formula).tokens = some .openParen ∨
          Token.kindBehind call.1 (Token.scan formula).tokens = some .closeParen ∧
            call ∈ marked .field (highlight formula)) ∧
      ∀ name position, Within (.identifier name position) tree →
        (position, name) ∈ marked .field (highlight formula) := by
  obtain ⟨tokens, stop, lexes, derives⟩ := derives_of_parse parses
  obtain ⟨-, same, -⟩ := Token.tokens_eq_ok_iff.mp lexes
  have ordered : tokens.Pairwise fun a b => a.position < b.position :=
    List.pairwise_map.mp (List.pairwise_append.mp (Token.pairwise_places lexes)).1
  obtain ⟨among, complete⟩ := derives.matched
  rw [Phrase.trees, callsOf_singleton] at among complete
  rw [highlight_of_ok lexes, same, marked_function_spansOf]
  refine ⟨(pairwise_names ordered).sublist among,
    (filter_eq_of_sublist (called_eq_filter ordered) complete among).symm, fun call member => ?_,
    fun name position => identifier_mem_marked derives⟩
  obtain ⟨before, token, after, split, named, behind⟩ := derives.callToken member
  obtain ⟨-, -, rfl⟩ := name?_eq_some named
  rw [split, Token.kindBehind_eq (split ▸ ordered)]
  refine behind.imp_right fun closed => ⟨closed, mem_marked_field named ?_⟩
  rw [closed]
  decide

theorem highlights_calls_grouped :
    ∃ tree, Expr.parse .universal "MAX(a, (ABS)(b))" 32 = .ok tree ∧
      tree.calls = [(0, "MAX"), (8, "ABS")] ∧
      marked .function (highlight "MAX(a, (ABS)(b))") = [(0, "MAX")] ∧
      (8, "ABS") ∈ marked .field (highlight "MAX(a, (ABS)(b))") := by
  have parsed : (match Expr.parse .universal "MAX(a, (ABS)(b))" 32 with
      | .ok tree => decide (tree.calls = [(0, "MAX"), (8, "ABS")])
      | .error _ => false) = true := by
    decide +kernel
  split at parsed
  · rename_i tree parses
    have calls := of_decide_eq_true parsed
    obtain ⟨-, functions, others, -⟩ := highlights_calls parses
    refine ⟨tree, parses, calls, ?_, ?_⟩
    · rw [functions, calls]
      decide +kernel
    · have member : (8, "ABS") ∈ tree.calls := by
        rw [calls]
        decide
      rcases others _ member with opens | ⟨-, field⟩
      · exact absurd opens (by decide +kernel)
      · exact field
  · cases parsed

/-- A name in parentheses can be called, but it is highlighted as a field. -/
theorem marked_function_ne_calls :
    ∃ tree, Expr.parse .universal "(ABS)(1)" 32 = .ok tree ∧
      marked .function (highlight "(ABS)(1)") ≠ tree.calls := by
  have parsed : (match Expr.parse .universal "(ABS)(1)" 32 with
      | .ok tree => decide (marked .function (highlight "(ABS)(1)") ≠ tree.calls)
      | .error _ => false) = true := by
    decide +kernel
  split at parsed
  · rename_i tree parses
    exact ⟨tree, parses, of_decide_eq_true parsed⟩
  · cases parsed

end Formula
