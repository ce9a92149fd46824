import Formula.Proofs.Expr.Levels
import Formula.Proofs.Expr.Tracking

/-!
What the parsers accept can be derived, and where they refuse, what they took could still have been
continued to something that can. A parser with more levels of nesting left does the same.
-/

namespace Formula.Expr

variable {α : Type} {bound : Nat}

def Reads (level : Level) (ts : List Token) (e : Expr) : Prop := Derives ts (.expression level e)

/-- Tokens that are read as one thing after what is read as another. -/
def ReadsOn {β : Type} (before : List Token → β → Prop) (first : β) (whole : List Token → α → Prop)
    (ts : List Token) (v : α) : Prop :=
  ∀ front, before front first → whole (front ++ ts) v

theorem readsOn_nil {β : Type} {before : List Token → β → Prop} {first : β}
    {whole : List Token → α → Prop} {v : α} (same : ∀ ts, before ts first → whole ts v) :
    ReadsOn before first whole [] v := by
  intro front derives
  rw [List.append_nil]
  exact same front derives

/-! ### Single tokens -/

theorem expect_follows (kind : Token.Kind) (cause : GrammarCause) :
    Follows (fun ts v => ts = [v] ∧ v.kind = kind) bound (expect kind cause) (expect kind cause) := by
  intro s
  rcases next_or_lacks (fun token => Decidable.em (token.kind = kind)) s with
    ⟨previous, token, rest, stop, rfl, same⟩ | other
  · rw [run_expect_found cause same]
    have taken : ∀ s', Tracks (fun ts v => token :: ts = [v] ∧ v.kind = kind) bound s'
        (.ok (token, s')) fun t => .ok (token, t) := fun s' =>
      tracks_ok ⟨rfl, same⟩ fun _ _ => rfl
    exact (taken _).take (fun _ _ => run_expect_found cause same) (Nat.le_succ bound)
  · rw [run_expect_missing cause other]
    refine tracks_error ⟨[Token.sample kind], _, rfl, rfl⟩ fun s' alike => ?_
    exact run_expect_missing cause (alike.lacks other)

/-- Tokens that are read as something, with a token of some kind after them. -/
def Closed (close : Token.Kind) (R : List Token → α → Prop) (ts : List Token) (v : α) : Prop :=
  ∃ inside closes, ts = inside ++ [closes] ∧ closes.kind = close ∧ R inside v

theorem Tracks.close {R : List Token → α → Prop} {s : Stream}
    {result : Except ParseError (α × Stream)} {again : Stream → Except ParseError (α × Stream)}
    (tracks : Tracks R bound s result again) (close : Token.Kind) (cause : GrammarCause) :
    Tracks (Closed close R) bound s (closedBy close cause result)
      (fun s' => closedBy close cause (again s')) := by
  refine tracks.bind (fun ts v r _ reads => ?_) fun ts v reads => ?_
  · dsimp only
    refine (expect_follows close cause r).bind (fun us last r' _ found => ?_) fun us last found => ?_
    · obtain ⟨rfl, same⟩ := found
      exact tracks_ok ⟨ts, last, by simp, same, reads⟩ fun _ _ => rfl
    · obtain ⟨rfl, same⟩ := found
      exact ⟨[], v, ts, last, by simp, same, reads⟩
  · exact ⟨[Token.sample close], v, ts, _, rfl, rfl, reads⟩

theorem size_lt_of_ahead {token : Token} {previous : Option Token} {ts rest : List Token}
    {stop : Nat} {r : Stream} (ahead : rest = ts ++ r.ahead) :
    r.size < Stream.size ⟨previous, token :: rest, stop⟩ := by
  rw [ahead]
  simp only [Stream.size, List.length_cons, List.length_append]
  omega

/-! ### Chains -/

section

variable {l l' : Layer} {level next : Level}

theorem after_tracks (below : level.tighter? = some next) (chains : level.isChain = true)
    (operands : Follows (Reads next) bound (l.parser next) (l'.parser next)) (e : Expr) (s : Stream) :
    Tracks (ReadsOn (Reads level) e (Reads level)) bound s (l.after level e s) (l'.after level e) := by
  induction size : s.size using Nat.strongRecOn generalizing e s with
  | ind n ih =>
      subst size
      rcases next_or_lacks (fun token => (level.join? token.kind).eq_none_or_eq_some.symm) s with
        ⟨previous, token, rest, stop, rfl, join, joins⟩ | none
      · -- the tokens taken so far, the operator and its operand are an operand of the next operator
        have joined : ∀ {ts : List Token} {right : Expr}, Reads next ts right →
            ∀ {us : List Token} {v : Expr},
              ReadsOn (Reads level) (join e right token.position) (Reads level) us v →
                ReadsOn (Reads level) e (Reads level) (token :: (ts ++ us)) v := by
          intro ts right second us v more front first
          have whole := more _ (Derives.chain first joins below second)
          rwa [List.append_assoc, List.cons_append] at whole
        have operand : Tracks (fun ts v => ReadsOn (Reads level) e (Reads level) (token :: ts) v)
            bound ⟨some token, rest, stop⟩
            (run (l.parser next) ⟨some token, rest, stop⟩ >>= fun x =>
              l.after level (join e x.1 token.position) x.2)
            (fun s' => run (l'.parser next) s' >>= fun x =>
              l'.after level (join e x.1 token.position) x.2) := by
          refine (operands _).bind (fun ts right r shorter second => ?_) fun ts right second => ?_
          · refine (ih r.size (size_lt_of_ahead shorter) _ r rfl).imp ?_ (Nat.le_refl bound)
            exact fun us v more => joined second more
          · exact ⟨[], _, joined second (readsOn_nil fun _ => id)⟩
        rw [after_goes_on joins below]
        exact operand.take (after_goes_on joins below e previous) (Nat.le_succ bound)
      · rw [after_stops chains e none]
        exact tracks_ok (readsOn_nil fun _ => id) fun s' alike =>
          after_stops chains e (alike.lacks none)

theorem chain_follows (below : level.tighter? = some next) (chains : level.isChain = true)
    (operands : Follows (Reads next) bound (l.parser next) (l'.parser next)) :
    Follows (Reads level) bound (l.parser level) (l'.parser level) := by
  intro s
  rw [run_parser_chain chains below]
  have same : run (l'.parser level) =
      fun s' => run (l'.parser next) s' >>= fun x => l'.after level x.1 x.2 :=
    funext fun s' => run_parser_chain chains below s'
  rw [same]
  refine (operands s).bind (fun ts e r _ first => ?_) fun ts e first => ?_
  · refine (after_tracks below chains operands e r).imp ?_ (Nat.le_refl bound)
    exact fun us v more => more ts (.tighter below first)
  · exact ⟨[], e, by rw [List.append_nil]; exact .tighter below first⟩

theorem disjunction_follows (powers : Follows (Reads .power) bound l.power l'.power) :
    Follows (Reads .disjunction) bound (disjunction l.power) (disjunction l'.power) := by
  have multiplicative : Follows (Reads .multiplicative) bound (l.parser .multiplicative)
      (l'.parser .multiplicative) := chain_follows rfl rfl powers
  have additive : Follows (Reads .additive) bound (l.parser .additive) (l'.parser .additive) :=
    chain_follows rfl rfl multiplicative
  have relational : Follows (Reads .relational) bound (l.parser .relational)
      (l'.parser .relational) := chain_follows rfl rfl additive
  have equality : Follows (Reads .equality) bound (l.parser .equality) (l'.parser .equality) :=
    chain_follows rfl rfl relational
  have conjunction : Follows (Reads .conjunction) bound (l.parser .conjunction)
      (l'.parser .conjunction) := chain_follows rfl rfl equality
  exact @chain_follows bound l l' .disjunction .conjunction rfl rfl conjunction

end

/-! ### Lists -/

/-- What lists are read as, that hold items with commas between them. -/
structure ReadsLists (each : List Token → α → Prop) (all : List Token → List α → Prop) : Prop where
  none : all [] []
  one : ∀ ts x, each ts x → all ts [x]
  more : ∀ ts xs comma us x, all ts xs → xs ≠ [] → comma.kind = .comma → each us x →
    all (ts ++ comma :: us) (xs ++ [x])

theorem readsLists_elements :
    ReadsLists (Reads .conditional) fun ts es => Derives ts (.elements es) :=
  ⟨.noElements, fun _ _ => .oneElement, fun _ _ _ _ _ => .moreElements⟩

theorem readsLists_properties :
    ReadsLists (fun ts pair => Derives ts (.property pair))
      fun ts pairs => Derives ts (.properties pairs) :=
  ⟨.noProperties, fun _ _ => .oneProperty, fun _ _ _ _ _ => .moreProperties⟩

section

variable {each : List Token → α → Prop} {all : List Token → List α → Prop} {item item' : Parser α}

/-- The items before are those that are done, in the order of the list. -/
def Before (all : List Token → List α → Prop) (ts : List Token) (done : List α) : Prop :=
  all ts done.reverse

theorem moreItems_tracks (lists : ReadsLists each all) (items : Follows each bound item item')
    (done : List α) (some : done ≠ []) (s : Stream) :
    Tracks (ReadsOn (Before all) done all) bound s (continued (moreItems item done s))
      (fun s' => continued (moreItems item' done s')) := by
  induction size : s.size using Nat.strongRecOn generalizing done s with
  | ind n ih =>
      subst size
      rcases next_or_lacks (fun token => Decidable.em (token.kind = .comma)) s with
        ⟨previous, token, rest, stop, rfl, comma⟩ | none
      · have listed : ∀ {ts : List Token} {x : α}, each ts x → ∀ {us : List Token} {v : List α},
            ReadsOn (Before all) (x :: done) all us v →
              ReadsOn (Before all) done all (token :: (ts ++ us)) v := by
          intro ts x next us v more front before
          have longer : Before all (front ++ token :: ts) (x :: done) := by
            rw [Before, List.reverse_cons]
            exact lists.more _ _ _ _ _ before (fun none => some (List.reverse_eq_nil_iff.mp none))
              comma next
          have whole := more _ longer
          rwa [List.append_assoc, List.cons_append] at whole
        have next : Tracks (fun ts v => ReadsOn (Before all) done all (token :: ts) v) bound
            ⟨token, rest, stop⟩
            (run item ⟨token, rest, stop⟩ >>= fun x => continued (moreItems item (x.1 :: done) x.2))
            (fun s' => run item' s' >>= fun x => continued (moreItems item' (x.1 :: done) x.2)) := by
          refine (items _).bind (fun ts x r shorter next => ?_) fun ts x next => ?_
          · refine (ih r.size (size_lt_of_ahead shorter) (x :: done) (List.cons_ne_nil x done) r
              rfl).imp ?_ (Nat.le_refl bound)
            exact fun us v more => listed next more
          · exact ⟨[], _, listed next (readsOn_nil fun _ => id)⟩
        rw [moreItems_goes_on done comma]
        exact next.take (fun _ _ => moreItems_goes_on done comma) (Nat.le_succ bound)
      · rw [moreItems_stops done none]
        exact tracks_ok (readsOn_nil fun _ => id) fun s' alike =>
          moreItems_stops done (alike.lacks none)

theorem items_follows (lists : ReadsLists each all) (follows : Follows each bound item item')
    (close : Token.Kind) (cause : GrammarCause) :
    Follows (Closed close all) bound (items item close cause) (items item' close cause) := by
  intro s
  rcases next_or_lacks (fun token => Decidable.em (token.kind = close)) s with
    ⟨previous, token, rest, stop, rfl, closes⟩ | other
  · rw [run_items_none cause closes]
    have nothing : ∀ s' : Stream, Tracks (fun ts xs => Closed close all (token :: ts) xs) bound s'
        (.ok ([], s')) fun t => .ok ([], t) := fun s' =>
      tracks_ok ⟨[], token, rfl, closes, lists.none⟩ fun _ _ => rfl
    exact (nothing _).take (fun _ _ => run_items_none cause closes) (Nat.le_succ bound)
  · have listed : Tracks all bound s
        (run item s >>= fun first => continued (moreItems item [first.1] first.2))
        (fun s' => run item' s' >>= fun first => continued (moreItems item' [first.1] first.2)) := by
      refine (follows s).bind (fun ts x r _ first => ?_) fun ts x first => ?_
      · refine (moreItems_tracks lists follows [x] (List.cons_ne_nil x []) r).imp ?_ (Nat.le_refl bound)
        exact fun us xs more => more ts (lists.one ts x first)
      · exact ⟨[], [x], by rw [List.append_nil]; exact lists.one ts x first⟩
    rw [run_items_some cause other]
    refine (listed.close close cause).alike fun s' alike => ?_
    exact run_items_some cause (alike.lacks other)

end

/-! ### Primary expressions -/

section

variable {expression expression' : Parser Expr}

theorem property_follows (nested : Follows (Reads .conditional) bound expression expression') :
    Follows (fun ts pair => Derives ts (.property pair)) bound (property expression)
      (property expression') := by
  obtain ⟨sample, sampled⟩ := derives_sample .conditional
  intro s
  rcases next_or_lacks (fun token => Decidable.em (token.kind = .string ∨ token.kind = .identifier)) s with
    ⟨previous, token, rest, stop, rfl, named⟩ | other
  · have pair : Tracks (fun ts pair => Derives (token :: ts) (.property pair)) bound
        ⟨token, rest, stop⟩
        (run (expect .colon .noColonAfterKey) ⟨token, rest, stop⟩ >>= fun colon =>
          run expression colon.2 >>= fun value => return ((token.value, value.1), value.2))
        (fun s' => run (expect .colon .noColonAfterKey) s' >>= fun colon =>
          run expression' colon.2 >>= fun value => return ((token.value, value.1), value.2)) := by
      refine (expect_follows .colon _ _).bind (fun ts colon r _ found => ?_) fun ts colon found => ?_
      · obtain ⟨rfl, parts⟩ := found
        refine (nested r).map _ (fun e => (token.value, e)) fun us e value => ?_
        exact .property named parts value
      · obtain ⟨rfl, parts⟩ := found
        exact ⟨_, _, .property named parts sampled⟩
    rw [run_property_named named]
    exact pair.take (fun _ _ => run_property_named named) (Nat.le_succ bound)
  · rw [run_property_nameless other]
    refine tracks_error ⟨_, _, .property (.inl rfl : (Token.sample .string).kind = _ ∨ _)
      (rfl : (Token.sample .colon).kind = _) sampled⟩ fun s' alike => ?_
    exact run_property_nameless (alike.lacks other)

theorem group_follows (nested : Follows (Reads .conditional) bound expression expression') :
    Follows (Closed .closeParen (Reads .conditional)) bound (group expression) (group expression') := by
  intro s
  rw [run_group]
  exact ((nested s).close .closeParen .noGroupEnd).alike fun s' _ => run_group s'

theorem unexpected_alike {s s' : Stream} (alike : Alike s s') : unexpected s' = unexpected s := by
  obtain ⟨previous, next⟩ := alike
  unfold unexpected
  cases ahead : s.ahead with
  | nil =>
      rw [ahead, List.head?_nil, List.head?_eq_none_iff] at next
      rw [next]
  | cons token rest =>
      rw [ahead, List.head?_cons, List.head?_eq_some_iff] at next
      obtain ⟨rest', next⟩ := next
      rw [next, previous]

theorem single_tracks {p : Parser Expr} {token : Token} {e : Expr} (whole : Reads .primary [token] e)
    (previous : Option Token) (rest : List Token) (stop : Nat)
    (same : ∀ rest' stop', run p ⟨previous, token :: rest', stop'⟩ = .ok (e, ⟨token, rest', stop'⟩)) :
    Tracks (Reads .primary) (bound + 1) ⟨previous, token :: rest, stop⟩
      (.ok (e, ⟨token, rest, stop⟩)) (run p) := by
  have taken : ∀ s' : Stream, Tracks (fun ts v => Reads .primary (token :: ts) v) bound s'
      (.ok (e, s')) fun t => .ok (e, t) := fun s' => tracks_ok whole fun _ _ => rfl
  exact (taken _).take same (Nat.le_refl _)

theorem primary_follows (nested : Follows (Reads .conditional) bound expression expression') :
    Follows (Reads .primary) (bound + 1) (primary expression) (primary expression') := by
  intro s
  have either : ∀ token : Token,
      startsPrimary token.kind = true ∨ startsPrimary token.kind = false :=
    fun token => Bool.eq_false_or_eq_true _
  rcases next_or_lacks either s with ⟨previous, token, rest, stop, rfl, starts⟩ | other
  · cases kind : token.kind with
    | number =>
        rw [run_primary_number kind]
        exact single_tracks (.number kind) _ _ _ fun _ _ => run_primary_number kind
    | string =>
        rw [run_primary_string kind]
        exact single_tracks (.string kind) _ _ _ fun _ _ => run_primary_string kind
    | identifier =>
        rw [run_primary_word kind]
        exact single_tracks (derives_ofName kind) _ _ _ fun _ _ => run_primary_word kind
    | openParen =>
        have inner : Tracks (fun ts e => Reads .primary (token :: ts) e) bound
            ⟨token, rest, stop⟩ (run (group expression) ⟨token, rest, stop⟩)
            (run (group expression')) := by
          refine (group_follows nested _).imp ?_ (Nat.le_refl bound)
          rintro _ e ⟨inside, closes, rfl, closing, whole⟩
          exact .group kind whole closing
        rw [run_primary_group kind]
        exact inner.take (fun _ _ => run_primary_group kind) (Nat.le_refl _)
    | openBracket =>
        have elements := items_follows readsLists_elements nested .closeBracket .noArrayEnd
        have arrays : ∀ ts es, Closed .closeBracket (fun ts es => Derives ts (.elements es)) ts es →
            Reads .primary (token :: ts) (.array es token.position) := by
          rintro _ es ⟨inside, closes, rfl, closing, whole⟩
          exact .array kind whole closing
        have inner := (elements ⟨token, rest, stop⟩).map
          (fun ts e => Reads .primary (token :: ts) e) (Expr.array · token.position) arrays
        rw [run_primary_array kind]
        exact inner.take (fun _ _ => run_primary_array kind) (Nat.le_refl _)
    | openBrace =>
        have properties := items_follows readsLists_properties (property_follows nested) .closeBrace
          .noObjectEnd
        have objects : ∀ ts pairs,
            Closed .closeBrace (fun ts pairs => Derives ts (.properties pairs)) ts pairs →
              Reads .primary (token :: ts) (.object pairs token.position) := by
          rintro _ pairs ⟨inside, closes, rfl, closing, whole⟩
          exact .object kind whole closing
        have inner := (properties ⟨token, rest, stop⟩).map
          (fun ts e => Reads .primary (token :: ts) e) (Expr.object · token.position) objects
        rw [run_primary_object kind]
        exact inner.take (fun _ _ => run_primary_object kind) (Nat.le_refl _)
    | _ =>
        rw [kind] at starts
        cases starts
  · rw [run_primary_other other]
    obtain ⟨e, whole⟩ := derives_sample .primary
    refine tracks_error ⟨_, e, whole⟩ fun s' alike => ?_
    rw [run_primary_other (alike.lacks other), unexpected_alike alike]

/-! ### What follows a primary expression -/

theorem suffix_tracks (nested : Follows (Reads .conditional) bound expression expression') {e : Expr}
    {token : Token} {suffix : Parser Expr} (found : suffix? expression e token = some suffix)
    (callable : token.kind = .openParen → ∃ name position, e = .identifier name position) :
    ∃ suffix', suffix? expression' e token = some suffix' ∧ ∀ s,
      Tracks (fun ts v => ∀ front, Reads .postfixed front e →
        Reads .postfixed (front ++ token :: ts) v) bound s (run suffix s) (run suffix') := by
  unfold suffix? at found ⊢
  split at found
  · rename_i selects
    cases found
    refine ⟨_, rfl, fun s => ?_⟩
    rw [run_memberSuffix]
    refine Tracks.alike ((expect_follows .identifier .noPropertyName s).map _
      (fun name => Expr.member e name.value e.position) ?_) fun s' _ => run_memberSuffix e s'
    rintro _ name ⟨rfl, names⟩ front first
    exact .member first selects names
  · rename_i opening
    cases found
    refine ⟨_, rfl, fun s => ?_⟩
    rw [run_indexSuffix]
    refine Tracks.alike (((nested s).close .closeBracket .noIndexEnd).map _
      (fun key => Expr.index e key e.position) ?_) fun s' _ => run_indexSuffix e s'
    rintro _ key ⟨inside, closes, rfl, closing, second⟩ front first
    exact .index first opening second closing
  · rename_i opening
    cases found
    obtain ⟨name, position, rfl⟩ := callable opening
    refine ⟨_, rfl, fun s => ?_⟩
    rw [run_callSuffix_name]
    refine Tracks.alike ((items_follows readsLists_elements nested .closeParen .noArgumentsEnd s).map _
      (fun es => Expr.call name es position) ?_) fun s' _ => run_callSuffix_name name position _ s'
    rintro _ es ⟨inside, closes, rfl, closing, whole⟩ front first
    exact .call first opening whole closing
  · cases found

theorem suffixes_track (nested : Follows (Reads .conditional) bound expression expression') (e : Expr)
    (s : Stream) :
    Tracks (ReadsOn (Reads .postfixed) e (Reads .postfixed)) (bound + 1) s
      (continued (suffixes expression e s)) (fun s' => continued (suffixes expression' e s')) := by
  induction size : s.size using Nat.strongRecOn generalizing e s with
  | ind n ih =>
      subst size
      rcases next_or_lacks
        (fun token => (suffix? expression e token).eq_none_or_eq_some.symm) s with
        ⟨previous, token, rest, stop, rfl, suffix, found⟩ | none
      · by_cases callable : token.kind = .openParen → ∃ name position, e = .identifier name position
        · obtain ⟨suffix', found', tracks⟩ := suffix_tracks nested found callable
          have next : Tracks
              (fun ts v => ReadsOn (Reads .postfixed) e (Reads .postfixed) (token :: ts) v) bound
              ⟨token, rest, stop⟩
              (run suffix ⟨token, rest, stop⟩ >>= fun x =>
                continued (suffixes expression x.1 x.2))
              (fun s' => run suffix' s' >>= fun x =>
                continued (suffixes expression' x.1 x.2)) := by
            refine (tracks _).bind (fun ts v r shorter longer => ?_) fun ts v longer => ?_
            · refine (ih r.size (size_lt_of_ahead shorter) v r rfl).imp ?_ (Nat.le_succ bound)
              intro us w more front first
              have whole := more _ (longer front first)
              rwa [List.append_assoc, List.cons_append] at whole
            · exact ⟨[], v, by rw [List.append_nil]; exact longer⟩
          rw [suffixes_go_on found]
          exact next.take (fun _ _ => suffixes_go_on found') (Nat.le_refl _)
        · -- the parenthesis after what is no name is refused before it is taken
          obtain ⟨opening, unnamed⟩ := Classical.not_imp.mp callable
          have other : ∀ name position, e ≠ .identifier name position := fun name position same =>
            unnamed ⟨name, position, same⟩
          have refused : ∀ (inner : Parser Expr) (rest : List Token) (stop : Nat),
              continued (suffixes inner e ⟨previous, token :: rest, stop⟩) =
                .error (.grammar .notCallable token.position) := by
            intro inner rest stop
            have found : suffix? inner e token = some (callSuffix inner e token.position) := by
              rw [suffix?, opening]
            rw [suffixes_go_on found, run_callSuffix_other other]
            rfl
          rw [refused]
          refine tracks_error (s := ⟨previous, token :: rest, stop⟩)
            ⟨[], e, readsOn_nil fun _ => id⟩ fun s' alike => ?_
          obtain ⟨rest', stop', rfl⟩ := alike.cons
          exact refused expression' rest' stop'
      · rw [suffixes_stop e none]
        refine tracks_ok (readsOn_nil fun _ => id) fun s' alike => ?_
        refine suffixes_stop e fun token next => ?_
        exact suffix?_eq_none_iff.mpr (suffix?_eq_none_iff.mp (alike.lacks none token next))

theorem postfixed_follows (nested : Follows (Reads .conditional) bound expression expression') :
    Follows (Reads .postfixed) (bound + 1) (postfixed expression) (postfixed expression') := by
  intro s
  rw [run_postfixed]
  have whole : Tracks (Reads .postfixed) (bound + 1) s
      (run (primary expression) s >>= fun x => continued (suffixes expression x.1 x.2))
      (fun s' => run (primary expression') s' >>= fun x =>
        continued (suffixes expression' x.1 x.2)) := by
    refine (primary_follows nested s).bind (fun ts e r _ first => ?_) fun ts e first => ?_
    · refine (suffixes_track nested e r).imp ?_ (Nat.le_refl _)
      exact fun us v more => more ts (.tighter rfl first)
    · exact ⟨[], e, by rw [List.append_nil]; exact .tighter rfl first⟩
  exact whole.alike fun s' _ => run_postfixed s'

end

/-! ### Signs, powers and conditionals -/

theorem unaryWith_follows {deeper deeper' expression expression' : Parser Expr}
    (signed : Follows (Reads .unary) bound deeper deeper')
    (nested : Follows (Reads .conditional) bound expression expression') :
    Follows (Reads .unary) (bound + 1) (unaryWith deeper expression)
      (unaryWith deeper' expression') := by
  intro s
  rcases next_or_lacks (fun token => (sign? token.kind).eq_none_or_eq_some.symm) s with
    ⟨previous, token, rest, stop, rfl, op, sign⟩ | unsigned
  · have operand : Tracks (fun ts e => Reads .unary (token :: ts) e) bound ⟨token, rest, stop⟩
        (run deeper ⟨token, rest, stop⟩ >>= fun operand =>
          return (.unary op operand.1 token.position, operand.2))
        (fun s' => run deeper' s' >>= fun operand =>
          return (.unary op operand.1 token.position, operand.2)) :=
      (signed _).map _ (Expr.unary op · token.position) fun ts e only => derives_sign sign only
    rw [run_unaryWith_sign sign]
    exact operand.take (fun _ _ => run_unaryWith_sign sign) (Nat.le_refl _)
  · rw [run_unaryWith_plain unsigned]
    refine Tracks.alike ?_ fun s' alike => run_unaryWith_plain (alike.lacks unsigned)
    exact (postfixed_follows nested s).imp (fun _ _ => .tighter rfl) (Nat.le_refl _)

theorem exponent_tracks {deeper deeper' : Parser Expr}
    (raised : Follows (Reads .power) bound deeper deeper') (base : Expr) (s : Stream) :
    Tracks (ReadsOn (Reads .unary) base (Reads .power)) (bound + 1) s (exponent deeper base s)
      (exponent deeper' base) := by
  rcases next_or_lacks (fun token => Decidable.em (token.kind = .power)) s with
    ⟨previous, token, rest, stop, rfl, raises⟩ | none
  · have power := (raised ⟨token, rest, stop⟩).map
      (fun ts v => ReadsOn (Reads .unary) base (Reads .power) (token :: ts) v)
      (Expr.binary .power base · token.position) fun ts e second front first =>
        .power first raises second
    rw [exponent_goes_on base raises]
    exact power.take (fun _ _ => exponent_goes_on base raises) (Nat.le_refl _)
  · rw [exponent_stops base none]
    exact tracks_ok (readsOn_nil fun _ => .tighter rfl) fun s' alike =>
      exponent_stops base (alike.lacks none)

theorem powerWith_follows {deeper deeper' unary unary' : Parser Expr}
    (raised : Follows (Reads .power) bound deeper deeper')
    (bases : Follows (Reads .unary) (bound + 1) unary unary') :
    Follows (Reads .power) (bound + 1) (powerWith deeper unary) (powerWith deeper' unary') := by
  intro s
  rw [run_powerWith]
  have whole : Tracks (Reads .power) (bound + 1) s
      (run unary s >>= fun x => exponent deeper x.1 x.2)
      (fun s' => run unary' s' >>= fun x => exponent deeper' x.1 x.2) := by
    refine (bases s).bind (fun ts e r _ first => ?_) fun ts e first => ?_
    · exact (exponent_tracks raised e r).imp (fun us v more => more ts first) (Nat.le_refl _)
    · exact ⟨[], e, by rw [List.append_nil]; exact .tighter rfl first⟩
  exact whole.alike fun s' _ => run_powerWith deeper' unary' s'

theorem branches_track {deeper deeper' : Layer}
    (nested : Follows (Reads .conditional) bound deeper.expression deeper'.expression) (test : Expr)
    (s : Stream) :
    Tracks (ReadsOn (Reads .disjunction) test (Reads .conditional)) (bound + 1) s
      (branches deeper test s) (branches deeper' test) := by
  rcases next_or_lacks (fun token => Decidable.em (token.kind = .question)) s with
    ⟨previous, token, rest, stop, rfl, asks⟩ | none
  · have whole : ∀ {consequent alternate : List Token} {colon : Token} {b c : Expr},
        Reads .conditional consequent b → colon.kind = .colon → Reads .conditional alternate c →
          ReadsOn (Reads .disjunction) test (Reads .conditional)
            (token :: (consequent ++ colon :: alternate)) (.conditional test b c test.position) :=
      fun second parts third front first => .conditional first asks second parts third
    obtain ⟨sample, sampled⟩ := derives_sample .conditional
    have both : Tracks
        (fun ts v => ReadsOn (Reads .disjunction) test (Reads .conditional) (token :: ts) v) bound
        ⟨token, rest, stop⟩
        (run deeper.expression ⟨token, rest, stop⟩ >>= fun consequent =>
          run (expect .colon .noColonInConditional) consequent.2 >>= fun colon =>
            run deeper.expression colon.2 >>= fun alternate =>
              return (.conditional test consequent.1 alternate.1 test.position, alternate.2))
        (fun s' => run deeper'.expression s' >>= fun consequent =>
          run (expect .colon .noColonInConditional) consequent.2 >>= fun colon =>
            run deeper'.expression colon.2 >>= fun alternate =>
              return (.conditional test consequent.1 alternate.1 test.position, alternate.2)) := by
      refine (nested _).bind (fun ts b r _ second => ?_) fun ts b second => ?_
      · dsimp only
        refine (expect_follows .colon _ r).bind (fun us colon r' _ found => ?_)
          fun us colon found => ?_
        · obtain ⟨rfl, parts⟩ := found
          exact (nested r').map _ (fun c => Expr.conditional test b c test.position)
            fun vs c third => whole second parts third
        · obtain ⟨rfl, parts⟩ := found
          exact ⟨_, _, whole second parts sampled⟩
      · exact ⟨_, _, whole second (rfl : (Token.sample .colon).kind = _) sampled⟩
    rw [branches_go_on test asks]
    exact both.take (fun _ _ => branches_go_on test asks) (Nat.le_refl _)
  · rw [branches_stop test none]
    exact tracks_ok (readsOn_nil fun _ => .tighter rfl) fun s' alike =>
      branches_stop test (alike.lacks none)

/-! ### Layers -/

/-- The parsers of a layer track what is derived, and those of another layer do the same again. -/
structure Layer.Follows (bound : Nat) (l l' : Layer) : Prop where
  expression : Expr.Follows (Reads .conditional) (bound - 1) l.expression l'.expression
  power : Expr.Follows (Reads .power) bound l.power l'.power
  unary : Expr.Follows (Reads .unary) bound l.unary l'.unary

theorem conditionalWith_follows {deeper deeper' : Layer} (layers : deeper.Follows bound deeper') :
    Follows (Reads .conditional) bound (conditionalWith deeper) (conditionalWith deeper') := by
  intro s
  rw [run_conditionalWith]
  have whole : Tracks (Reads .conditional) bound s
      (run (disjunction deeper.power) s >>= fun x => branches deeper x.1 x.2)
      (fun s' => run (disjunction deeper'.power) s' >>= fun x => branches deeper' x.1 x.2) := by
    refine (disjunction_follows layers.power s).bind (fun ts e r _ first => ?_) fun ts e first => ?_
    · refine (branches_track layers.expression e r).imp (fun us v more => more ts first) ?_
      omega
    · exact ⟨[], e, by rw [List.append_nil]; exact .tighter rfl first⟩
  exact whole.alike fun s' _ => run_conditionalWith deeper' s'

theorem Layer.Follows.above {deeper deeper' : Layer} (layers : deeper.Follows bound deeper') :
    deeper.above.Follows (bound + 1) deeper'.above := by
  have expression := conditionalWith_follows layers
  have unary := unaryWith_follows layers.unary expression
  exact ⟨expression, powerWith_follows layers.power unary, unary⟩

theorem exhausted_follows (l : Layer) : exhausted.Follows 0 l :=
  ⟨fun s => tracks_nesting s.position, fun s => tracks_nesting s.position,
    fun s => tracks_nesting s.position⟩

/-- What a layer does is done by all layers with more nesting left. -/
theorem layer_follows {levels levels' : Nat} (less : levels ≤ levels') :
    (layer levels).Follows (levels + 1) (layer levels') := by
  induction levels generalizing levels' with
  | zero =>
      cases levels' with
      | zero => exact (exhausted_follows exhausted).above
      | succ levels' => exact (exhausted_follows (layer levels')).above
  | succ levels ih =>
      cases levels' with
      | zero => cases less
      | succ levels' => exact (ih (Nat.le_of_succ_le_succ less)).above

end Formula.Expr
