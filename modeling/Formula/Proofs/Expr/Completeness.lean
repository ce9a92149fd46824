import Formula.Proofs.Expr.Levels

/-!
What can be derived is read, with as many levels of nesting as there are tokens. A parser stops after
an expression at a token that binds more loosely than the operators which the parser reads.
-/

namespace Formula

/-- How tightly a token binds what is before it, from the question mark to the suffixes. -/
def Token.Kind.tightness : Token.Kind → Nat
  | .question => 2
  | .or => 3
  | .and => 4
  | .equal | .notEqual => 5
  | .less | .lessOrEqual | .greater | .greaterOrEqual => 6
  | .plus | .minus | .concat => 7
  | .multiply | .divide | .modulo => 8
  | .power => 9
  | .dot | .openBracket | .openParen => 11
  | _ => 0

namespace Expr

namespace Level

def tightness : Level → Nat
  | .conditional => 2
  | .disjunction => 3
  | .conjunction => 4
  | .equality => 5
  | .relational => 6
  | .additive => 7
  | .multiplicative => 8
  | .power => 9
  | .unary => 10
  | .postfixed => 11
  | .primary => 12

/-- The tightest token before which the parser of a level may stop and be gone on with. What is
associated from the left is gone on with at its own operators. -/
def admits : Level → Nat
  | .conditional => 1
  | .power => 8
  | .unary => 9
  | .primary => 11
  | level => level.tightness

/-- How many tokens the parser of a level reads with so many levels of nesting left. -/
def room (levels : Nat) : Level → Nat
  | .conditional => levels
  | _ => levels + 1

variable {level next : Level} {kind : Token.Kind} {join : Expr → Expr → Nat → Expr}

theorem tightness_of_tighter? (below : level.tighter? = some next) :
    next.tightness = level.tightness + 1 := by
  cases level <;> cases below <;> rfl

theorem admits_le_tightness (level : Level) : level.admits ≤ level.tightness := by
  cases level <;> decide

theorem tightness_le_admits (level : Level) : level.tightness ≤ level.admits + 1 := by
  cases level <;> decide

theorem tightness_of_join? (joins : level.join? kind = some join) :
    kind.tightness = level.tightness ∧ level.admits = level.tightness := by
  cases level <;> cases kind <;> first | exact ⟨rfl, rfl⟩ | cases joins

theorem join?_eq_none (looser : kind.tightness < level.tightness) : level.join? kind = none := by
  cases joins : level.join? kind with
  | none => rfl
  | some join => exact absurd (tightness_of_join? joins).1 (Nat.ne_of_lt looser)

end Level

/-- What comes after an expression of a level starts with a token that leaves it to its parser. -/
def Admits (level : Level) (rest : List Token) : Prop :=
  ∀ token, rest.head? = some token → token.kind.tightness ≤ level.admits

def Looser (rest : List Token) (level : Level) : Prop :=
  ∀ token, rest.head? = some token → token.kind.tightness < level.tightness

theorem admits_cons {level : Level} {token : Token} (rest : List Token)
    (fits : token.kind.tightness ≤ level.admits) : Admits level (token :: rest) := by
  intro other found
  cases found
  exact fits

theorem looser_cons {level : Level} {token : Token} (rest : List Token)
    (looser : token.kind.tightness < level.tightness) : Looser (token :: rest) level := by
  intro other found
  cases found
  exact looser

theorem Looser.admits {level : Level} {rest : List Token} (looser : Looser rest level) :
    Admits level rest := fun token found =>
  Nat.le_of_lt_succ (Nat.lt_of_lt_of_le (looser token found) level.tightness_le_admits)

theorem Admits.lacks {level : Level} {rest : List Token} (admits : Admits level rest)
    {kind : Token.Kind} (tighter : level.admits < kind.tightness) :
    ∀ token, rest.head? = some token → token.kind ≠ kind := by
  rintro token found rfl
  exact absurd (admits token found) (Nat.not_le_of_lt tighter)

theorem Admits.looser {level next : Level} {rest : List Token} (admits : Admits level rest)
    (below : level.tighter? = some next) : Looser rest next := by
  intro token found
  have fits := Nat.le_trans (admits token found) level.admits_le_tightness
  rw [Level.tightness_of_tighter? below]
  exact Nat.lt_succ_of_le fits

theorem after_ends {l : Layer} {level : Level} (e : Expr) {s : Stream}
    (looser : Looser s.ahead level) : l.after level e s = .ok (e, s) := by
  cases level with
  | disjunction | conjunction | equality | relational | additive | multiplicative =>
      exact after_stops rfl e fun token found => Level.join?_eq_none (looser token found)
  | postfixed =>
      refine suffixes_stop e fun token found => suffix?_eq_none_iff.mpr ?_
      have kind := looser token found
      refine ⟨fun same => ?_, fun same => ?_, fun same => ?_⟩ <;>
        exact absurd kind (by rw [same]; exact Nat.lt_irrefl 11)
  | conditional | power | unary | primary => rfl

/-! ### First tokens -/

def Phrase.starts : Phrase → Token.Kind → Bool
  | .expression .postfixed _, kind | .expression .primary _, kind => startsPrimary kind
  | .expression _ _, kind | .elements _, kind => startsPrimary kind || (sign? kind).isSome
  | .property _, kind | .properties _, kind => kind = .string || kind = .identifier

def Phrase.isEmpty : Phrase → Bool
  | .elements es => es.isEmpty
  | .properties pairs => pairs.isEmpty
  | _ => false

theorem starts_of_startsPrimary {kind : Token.Kind} (starts : startsPrimary kind = true)
    (level : Level) (e : Expr) : (Phrase.expression level e).starts kind = true := by
  cases level <;> simp only [Phrase.starts, starts, Bool.true_or]

theorem starts_looser {level next : Level} (below : level.tighter? = some next) {e : Expr}
    {kind : Token.Kind} (starts : (Phrase.expression next e).starts kind = true) :
    (Phrase.expression level e).starts kind = true := by
  cases level with
  | primary => cases below
  | postfixed =>
      cases below
      exact starts
  | unary =>
      cases below
      exact starts_of_startsPrimary starts .unary e
  | _ =>
      cases below
      exact starts

theorem Derives.starts {ts : List Token} {phrase : Phrase} (derives : Derives ts phrase)
    (present : phrase.isEmpty = false) :
    ∃ token rest, ts = token :: rest ∧ phrase.starts token.kind = true := by
  -- what comes after the first part does not change the first token
  have longer : ∀ {front : List Token} {p q : Phrase} (back : List Token),
      (∀ kind, p.starts kind = true → q.starts kind = true) →
        (∃ token rest, front = token :: rest ∧ p.starts token.kind = true) →
          ∃ token rest, front ++ back = token :: rest ∧ q.starts token.kind = true := by
    rintro _ p q back weaker ⟨token, rest, rfl, starts⟩
    exact ⟨token, rest ++ back, rfl, weaker _ starts⟩
  induction derives with
  | tighter below whole ih =>
      obtain ⟨token, rest, same, starts⟩ := ih rfl
      exact ⟨token, rest, same, starts_looser below starts⟩
  | conditional first asks second parts third ih => exact longer _ (fun _ => id) (ih rfl)
  | @chain level next join left right operator a b first joins below second ih =>
      refine longer _ (fun kind starts => ?_) (ih rfl)
      cases level <;> exact starts
  | power first raises second ih => exact longer _ (fun _ => id) (ih rfl)
  | not negates only ih => exact ⟨_, _, rfl, by rw [negates]; rfl⟩
  | negate negates only ih => exact ⟨_, _, rfl, by rw [negates]; rfl⟩
  | member first selects names ih => exact longer _ (fun _ => id) (ih rfl)
  | index first opening second closing ih => exact longer _ (fun _ => id) (ih rfl)
  | call first opening inner closing ih => exact longer _ (fun _ => id) (ih rfl)
  | number kind | string kind => exact ⟨_, _, rfl, by rw [kind]; rfl⟩
  | keyword word literal => exact ⟨_, _, rfl, by rw [word]; rfl⟩
  | name word plain => exact ⟨_, _, rfl, by rw [word]; rfl⟩
  | group opening inner closing => exact ⟨_, _, rfl, by rw [opening]; rfl⟩
  | array opening inner closing => exact ⟨_, _, rfl, by rw [opening]; rfl⟩
  | object opening inner closing => exact ⟨_, _, rfl, by rw [opening]; rfl⟩
  | property named parts only => exact ⟨_, _, rfl, by simpa [Phrase.starts] using named⟩
  | noElements | noProperties => cases present
  | oneElement only ih => exact ih rfl
  | oneProperty only ih => exact ih rfl
  | moreElements before listed parts next ih =>
      exact longer _ (fun _ => id) (ih (List.isEmpty_eq_false_iff.mpr listed))
  | moreProperties before listed parts next ih =>
      exact longer _ (fun _ => id) (ih (List.isEmpty_eq_false_iff.mpr listed))

/-! ### Lists -/

section

variable {α : Type} {item : Parser α} {ts : List Token} {x : α} {xs : List α}

/-- A parser takes some tokens as something wherever they stand before what it leaves. -/
def Takes (p : Parser α) (ts : List Token) (x : α) : Prop :=
  ∀ previous rest stop, Admits .conditional rest →
    ∃ last, run p ⟨previous, ts ++ rest, stop⟩ = .ok (x, ⟨last, rest, stop⟩)

/-- Tokens are taken as a list, and more items can be taken after them. -/
structure TakesList (item : Parser α) (ts : List Token) (xs : List α) : Prop where
  nothing : xs = [] → ts = []
  listed : xs ≠ [] → ∀ previous rest stop, Admits .conditional rest →
    ∃ last, (run item ⟨previous, ts ++ rest, stop⟩ >>= fun first =>
      continued (moreItems item [first.1] first.2)) =
        continued (moreItems item xs.reverse ⟨last, rest, stop⟩)

theorem TakesList.one (takes : Takes item ts x) : TakesList item ts [x] := by
  refine ⟨fun none => (nomatch none), fun _ previous rest stop admits => ?_⟩
  obtain ⟨last, taken⟩ := takes previous rest stop admits
  refine ⟨last, ?_⟩
  rw [taken]
  rfl

theorem TakesList.more {comma : Token} {us : List Token} (before : TakesList item ts xs)
    (present : xs ≠ []) (parts : comma.kind = .comma) (next : Takes item us x) :
    TakesList item (ts ++ comma :: us) (xs ++ [x]) := by
  refine ⟨fun none => absurd none (by simp), fun _ previous rest stop admits => ?_⟩
  obtain ⟨middle, front⟩ := before.listed present previous (comma :: (us ++ rest)) stop
    (admits_cons _ (by rw [parts]; exact Nat.zero_le _))
  obtain ⟨last, taken⟩ := next comma rest stop admits
  refine ⟨last, ?_⟩
  rw [List.append_assoc, List.cons_append, front, moreItems_goes_on _ parts, taken,
    List.reverse_append]
  rfl

theorem TakesList.closed (list : TakesList item ts xs) {close : Token.Kind} {closes : Token}
    (cause : GrammarCause) (other : close ≠ .comma) (loose : close.tightness = 0)
    (starts : xs ≠ [] → ∃ token rest, ts = token :: rest ∧ token.kind ≠ close)
    (closing : closes.kind = close) (previous : Option Token) (rest : List Token) (stop : Nat) :
    run (items item close cause) ⟨previous, ts ++ closes :: rest, stop⟩ =
      .ok (xs, ⟨closes, rest, stop⟩) := by
  by_cases none : xs = []
  · rw [list.nothing none, none]
    exact run_items_none cause closing
  · have leaves : Admits .conditional (closes :: rest) :=
      admits_cons rest (by rw [closing, loose]; exact Nat.zero_le _)
    have stops : ∀ token, (closes :: rest).head? = some token → token.kind ≠ .comma := by
      rintro token found comma
      cases found
      exact other (closing.symm.trans comma)
    obtain ⟨last, taken⟩ := list.listed none previous (closes :: rest) stop leaves
    obtain ⟨token, back, rfl, opens⟩ := starts none
    rw [run_items_some cause, taken, moreItems_stops _ stops, List.reverse_reverse]
    · exact closedBy_ok cause xs closing
    · intro first found
      cases found
      exact opens

end

/-! ### Expressions of each level -/

/-- The parser of a level takes some tokens as an expression and goes on after it. -/
def Parses (levels : Nat) (level : Level) (ts : List Token) (e : Expr) : Prop :=
  ∀ previous rest stop, Admits level rest →
    ∃ last, run ((layer levels).parser level) ⟨previous, ts ++ rest, stop⟩ =
      (layer levels).after level e ⟨last, rest, stop⟩

section

variable {levels : Nat} {level next : Level} {ts us : List Token} {token opens closes : Token}
  {a b c e : Expr}

theorem Parses.ends (parses : Parses levels level ts e) (previous : Option Token)
    {rest : List Token} (stop : Nat) (looser : Looser rest level) :
    ∃ last, run ((layer levels).parser level) ⟨previous, ts ++ rest, stop⟩ =
      .ok (e, ⟨last, rest, stop⟩) := by
  obtain ⟨last, taken⟩ := parses previous rest stop looser.admits
  exact ⟨last, taken.trans (after_ends e looser)⟩

theorem Parses.takes (parses : Parses levels .conditional ts e) :
    Takes (layer levels).expression ts e := parses

theorem layer_above (levels : Nat) : ∃ deeper : Layer, layer levels = deeper.above := by
  cases levels with
  | zero => exact ⟨exhausted, rfl⟩
  | succ levels => exact ⟨layer levels, rfl⟩

theorem Parses.test (parses : Parses levels .disjunction ts a) :
    Parses (levels + 1) .conditional ts a := by
  intro previous rest stop admits
  obtain ⟨last, taken⟩ := parses.ends previous stop (admits.looser rfl)
  refine ⟨last, (run_conditionalWith (layer levels) _).trans ?_⟩
  refine (bind_of_ok taken).trans ?_
  exact branches_stop a (admits.lacks (by decide))

theorem Parses.conditional {question colon : Token} {vs : List Token}
    (first : Parses levels .disjunction ts a) (asks : question.kind = .question)
    (second : Parses levels .conditional us b) (parts : colon.kind = .colon)
    (third : Parses levels .conditional vs c) :
    Parses (levels + 1) .conditional (ts ++ question :: (us ++ colon :: vs))
      (.conditional a b c a.position) := by
  intro previous rest stop admits
  simp only [List.append_assoc, List.cons_append]
  obtain ⟨_, test⟩ := first.ends previous stop
    (looser_cons (us ++ colon :: (vs ++ rest)) (by rw [asks]; decide))
  obtain ⟨_, consequent⟩ := second.takes question (colon :: (vs ++ rest)) stop
    (admits_cons _ (by rw [parts]; decide))
  obtain ⟨last, alternate⟩ := third.takes colon rest stop admits
  refine ⟨last, (run_conditionalWith (layer levels) _).trans ?_⟩
  refine (bind_of_ok test).trans ((branches_go_on a asks).trans ?_)
  refine (bind_of_ok consequent).trans ?_
  refine (bind_of_ok (run_expect_found .noColonInConditional parts)).trans ?_
  exact bind_of_ok alternate

theorem Parses.operand (chains : level.isChain = true) (below : level.tighter? = some next)
    (parses : Parses levels next ts e) : Parses levels level ts e := by
  intro previous rest stop admits
  obtain ⟨last, taken⟩ := parses.ends previous stop (admits.looser below)
  refine ⟨last, ?_⟩
  exact (run_parser_chain chains below _).trans (bind_of_ok taken)

theorem Parses.chain {join : Expr → Expr → Nat → Expr} (first : Parses levels level ts a)
    (joins : level.join? token.kind = some join) (below : level.tighter? = some next)
    (second : Parses levels next us b) :
    Parses levels level (ts ++ token :: us) (join a b token.position) := by
  intro previous rest stop admits
  obtain ⟨same, own⟩ := Level.tightness_of_join? joins
  rw [List.append_assoc, List.cons_append]
  obtain ⟨middle, left⟩ := first previous (token :: (us ++ rest)) stop
    (admits_cons _ (Nat.le_of_eq (same.trans own.symm)))
  obtain ⟨last, right⟩ := second.ends token stop (admits.looser below)
  refine ⟨last, left.trans ((after_goes_on joins below a _ _ _).trans ?_)⟩
  exact bind_of_ok right

theorem Parses.base (parses : Parses levels .unary ts a) : Parses levels .power ts a := by
  intro previous rest stop admits
  obtain ⟨deeper, above⟩ := layer_above levels
  obtain ⟨last, taken⟩ := parses.ends previous stop (admits.looser rfl)
  rw [above] at taken ⊢
  refine ⟨last, (run_powerWith deeper.power deeper.above.unary _).trans ?_⟩
  refine (bind_of_ok taken).trans ?_
  exact exponent_stops a (admits.lacks (by decide))

theorem Parses.power (first : Parses (levels + 1) .unary ts a) (raises : token.kind = .power)
    (second : Parses levels .power us b) :
    Parses (levels + 1) .power (ts ++ token :: us) (.binary .power a b token.position) := by
  intro previous rest stop admits
  rw [List.append_assoc, List.cons_append]
  obtain ⟨_, base⟩ := first.ends previous stop
    (looser_cons (us ++ rest) (by rw [raises]; decide))
  obtain ⟨last, exponent⟩ := second token rest stop admits
  refine ⟨last, (run_powerWith (layer levels).power (layer (levels + 1)).unary _).trans ?_⟩
  refine (bind_of_ok base).trans ((exponent_goes_on a raises).trans ?_)
  exact bind_of_ok exponent

theorem Parses.sign {op : UnaryOp} (sign : sign? token.kind = some op)
    (only : Parses levels .unary ts a) :
    Parses (levels + 1) .unary (token :: ts) (.unary op a token.position) := by
  intro previous rest stop admits
  obtain ⟨last, operand⟩ := only token rest stop admits
  refine ⟨last, (run_unaryWith_sign sign).trans ?_⟩
  exact bind_of_ok operand

theorem Parses.plain (starts : sign? token.kind = none)
    (parses : Parses levels .postfixed (token :: ts) a) :
    Parses levels .unary (token :: ts) a := by
  intro previous rest stop admits
  obtain ⟨deeper, above⟩ := layer_above levels
  obtain ⟨last, taken⟩ := parses.ends previous stop (admits.looser rfl)
  rw [above] at taken ⊢
  refine ⟨last, (run_unaryWith_plain fun other found => ?_).trans taken⟩
  cases found
  exact starts

theorem Parses.stem (parses : Parses levels .primary ts a) : Parses levels .postfixed ts a := by
  intro previous rest stop _
  have anything : Admits .primary rest := fun token _ => by cases token.kind <;> decide
  obtain ⟨last, taken⟩ := parses previous rest stop anything
  refine ⟨last, (run_postfixed _).trans ?_⟩
  exact bind_of_ok taken

theorem Parses.suffixed {suffix : Parser Expr} (first : Parses levels .postfixed ts a)
    (found : suffix? (layer levels).expression a token = some suffix)
    (takes : ∀ rest stop, ∃ last, run suffix ⟨token, us ++ rest, stop⟩ =
      .ok (e, ⟨last, rest, stop⟩)) :
    Parses levels .postfixed (ts ++ token :: us) e := by
  intro previous rest stop _
  have anything : Admits .postfixed (token :: (us ++ rest)) :=
    fun token _ => by cases token.kind <;> decide
  rw [List.append_assoc, List.cons_append]
  obtain ⟨_, base⟩ := first previous _ stop anything
  obtain ⟨last, taken⟩ := takes rest stop
  refine ⟨last, base.trans ((suffixes_go_on found).trans ?_)⟩
  exact bind_of_ok taken

theorem Parses.member {dot name : Token} (first : Parses levels .postfixed ts a)
    (selects : dot.kind = .dot) (names : name.kind = .identifier) :
    Parses levels .postfixed (ts ++ [dot, name]) (.member a name.value a.position) := by
  have found : suffix? (layer levels).expression a dot = some (memberSuffix a) := by
    rw [suffix?, selects]
  refine first.suffixed found fun rest stop => ?_
  refine ⟨name, (run_memberSuffix a _).trans ?_⟩
  exact bind_of_ok (run_expect_found .noPropertyName names)

theorem leaves_closing {close : Token.Kind} (closing : closes.kind = close)
    (loose : close.tightness = 0) (rest : List Token) : Admits .conditional (closes :: rest) :=
  admits_cons rest (by rw [closing, loose]; exact Nat.zero_le _)

theorem Parses.index (first : Parses levels .postfixed ts a) (opening : opens.kind = .openBracket)
    (second : Parses levels .conditional us b) (closing : closes.kind = .closeBracket) :
    Parses levels .postfixed (ts ++ opens :: (us ++ [closes])) (.index a b a.position) := by
  have found : suffix? (layer levels).expression a opens =
      some (indexSuffix (layer levels).expression a) := by
    rw [suffix?, opening]
  refine first.suffixed found fun rest stop => ?_
  rw [List.append_assoc, List.cons_append, List.nil_append]
  obtain ⟨_, key⟩ := second.takes opens (closes :: rest) stop (leaves_closing closing rfl rest)
  refine ⟨closes, (run_indexSuffix a _).trans ?_⟩
  rw [key]
  exact bind_of_ok (closedBy_ok .noIndexEnd b closing)

theorem TakesList.enclosed {α : Type} {item : Parser α} {ts : List Token} {xs : List α}
    (list : TakesList item ts xs) {close : Token.Kind} (cause : GrammarCause)
    (other : close ≠ .comma) (loose : close.tightness = 0)
    (starts : xs ≠ [] → ∃ token rest, ts = token :: rest ∧ token.kind ≠ close)
    (closing : closes.kind = close) (previous : Option Token) (rest : List Token) (stop : Nat) :
    run (items item close cause) ⟨previous, (ts ++ [closes]) ++ rest, stop⟩ =
      .ok (xs, ⟨closes, rest, stop⟩) := by
  rw [List.append_assoc, List.cons_append, List.nil_append]
  exact list.closed cause other loose starts closing previous rest stop

theorem Derives.startsElements {es : List Expr} (derives : Derives ts (.elements es))
    {close : Token.Kind} (closer : startsPrimary close = false ∧ sign? close = none)
    (some : es ≠ []) : ∃ token rest, ts = token :: rest ∧ token.kind ≠ close := by
  obtain ⟨token, rest, same, starts⟩ := derives.starts (List.isEmpty_eq_false_iff.mpr some)
  refine ⟨token, rest, same, fun kind => ?_⟩
  rw [Phrase.starts, kind, closer.1, closer.2] at starts
  cases starts

theorem Derives.startsProperties {pairs : List (String × Expr)}
    (derives : Derives ts (.properties pairs)) (some : pairs ≠ []) :
    ∃ token rest, ts = token :: rest ∧ token.kind ≠ .closeBrace := by
  obtain ⟨token, rest, same, starts⟩ := derives.starts (List.isEmpty_eq_false_iff.mpr some)
  refine ⟨token, rest, same, fun kind => ?_⟩
  rw [Phrase.starts, kind] at starts
  cases starts

theorem Parses.call {name : String} {position : Nat} {es : List Expr}
    (first : Parses levels .postfixed ts (.identifier name position))
    (opening : opens.kind = .openParen) (derives : Derives us (.elements es))
    (inner : TakesList (layer levels).expression us es) (closing : closes.kind = .closeParen) :
    Parses levels .postfixed (ts ++ opens :: (us ++ [closes])) (.call name es position) := by
  have found : suffix? (layer levels).expression (.identifier name position) opens =
      some (callSuffix (layer levels).expression (.identifier name position) opens.position) := by
    rw [suffix?, opening]
  refine first.suffixed found fun rest stop => ?_
  refine ⟨closes, (run_callSuffix_name name position _ _).trans ?_⟩
  exact bind_of_ok (inner.enclosed .noArgumentsEnd (by decide) rfl
    (derives.startsElements ⟨rfl, rfl⟩) closing opens rest stop)

theorem Parses.group (opening : opens.kind = .openParen) (inner : Parses levels .conditional ts a)
    (closing : closes.kind = .closeParen) :
    Parses levels .primary (opens :: (ts ++ [closes])) a := by
  intro previous rest stop _
  obtain ⟨_, inside⟩ := inner.takes opens (closes :: rest) stop (leaves_closing closing rfl rest)
  rw [List.cons_append, List.append_assoc, List.cons_append, List.nil_append]
  refine ⟨closes, (run_primary_group opening).trans ((run_group _).trans ?_)⟩
  rw [inside]
  exact closedBy_ok .noGroupEnd a closing

theorem Parses.array {es : List Expr} (opening : opens.kind = .openBracket)
    (derives : Derives ts (.elements es)) (inner : TakesList (layer levels).expression ts es)
    (closing : closes.kind = .closeBracket) :
    Parses levels .primary (opens :: (ts ++ [closes])) (.array es opens.position) := by
  intro previous rest stop _
  refine ⟨closes, (run_primary_array opening).trans ?_⟩
  exact bind_of_ok (inner.enclosed .noArrayEnd (by decide) rfl
    (derives.startsElements ⟨rfl, rfl⟩) closing opens rest stop)

theorem Parses.object {pairs : List (String × Expr)} (opening : opens.kind = .openBrace)
    (derives : Derives ts (.properties pairs))
    (inner : TakesList (property (layer levels).expression) ts pairs)
    (closing : closes.kind = .closeBrace) :
    Parses levels .primary (opens :: (ts ++ [closes])) (.object pairs opens.position) := by
  intro previous rest stop _
  refine ⟨closes, (run_primary_object opening).trans ?_⟩
  exact bind_of_ok (inner.enclosed .noObjectEnd (by decide) rfl derives.startsProperties closing
    opens rest stop)

theorem Parses.single (taken : ∀ previous rest stop,
    run (primary (layer levels).expression) ⟨previous, token :: rest, stop⟩ =
      .ok (e, ⟨token, rest, stop⟩)) : Parses levels .primary [token] e :=
  fun previous rest stop _ => ⟨token, taken previous rest stop⟩

theorem Takes.property {key colon : Token} (named : key.kind = .string ∨ key.kind = .identifier)
    (parts : colon.kind = .colon) (only : Parses levels .conditional ts a) :
    Takes (property (layer levels).expression) (key :: colon :: ts) (key.value, a) := by
  intro previous rest stop admits
  obtain ⟨last, value⟩ := only.takes colon rest stop admits
  refine ⟨last, (run_property_named named).trans ?_⟩
  refine (bind_of_ok (run_expect_found .noColonAfterKey parts)).trans ?_
  exact bind_of_ok value

end

/-! ### Derivations -/

/-- The parser of a phrase takes some tokens as it, if they are not more than it has room for. -/
def Phrase.ParsedFrom (ts : List Token) (levels : Nat) : Phrase → Prop
  | .expression level e => ts.length ≤ level.room levels → Parses levels level ts e
  | .property pair => ts.length ≤ levels → Takes (Expr.property (layer levels).expression) ts pair
  | .elements es => ts.length ≤ levels → TakesList (layer levels).expression ts es
  | .properties pairs =>
      ts.length ≤ levels → TakesList (Expr.property (layer levels).expression) ts pairs

theorem Derives.length_pos {ts : List Token} {phrase : Phrase} (derives : Derives ts phrase)
    (present : phrase.isEmpty = false) : 0 < ts.length := by
  obtain ⟨token, rest, rfl, -⟩ := derives.starts present
  exact Nat.zero_lt_succ rest.length

theorem Derives.parsedTighter {level next : Level} {ts : List Token} {e : Expr} {levels : Nat}
    (below : level.tighter? = some next) (whole : Derives ts (.expression next e))
    (parsed : ∀ levels, (Phrase.expression next e).ParsedFrom ts levels) :
    (Phrase.expression level e).ParsedFrom ts levels := by
  intro room
  have present := whole.length_pos rfl
  cases level with
  | conditional =>
      cases below
      simp only [Level.room] at room
      obtain ⟨fewer, rfl⟩ : ∃ fewer, levels = fewer + 1 := ⟨levels - 1, by omega⟩
      exact (parsed fewer room).test
  | disjunction | conjunction | equality | relational | additive | multiplicative =>
      cases below
      exact (parsed levels room).operand rfl rfl
  | power =>
      cases below
      exact (parsed levels room).base
  | unary =>
      cases below
      obtain ⟨token, rest, rfl, starts⟩ := whole.starts rfl
      have unsigned : sign? token.kind = none := by
        cases kind : token.kind with
        | not | minus =>
            rw [kind] at starts
            cases starts
        | _ => rfl
      exact (parsed levels room).plain unsigned
  | postfixed =>
      cases below
      exact (parsed levels room).stem
  | primary => cases below

/-- What is derived is parsed. Each nesting takes up a token at least, so the tokens bound it. -/
theorem Derives.parsed {ts : List Token} {phrase : Phrase} (derives : Derives ts phrase)
    (levels : Nat) : phrase.ParsedFrom ts levels := by
  induction derives generalizing levels with
  | tighter below whole ih => exact whole.parsedTighter below ih
  | conditional first asks second parts third ihFirst ihSecond ihThird =>
      intro room
      have present := first.length_pos rfl
      simp only [Level.room, List.length_append, List.length_cons] at room
      obtain ⟨fewer, rfl⟩ : ∃ fewer, levels = fewer + 1 := ⟨levels - 1, by omega⟩
      have test := ihFirst fewer (by simp only [Level.room]; omega)
      have consequent := ihSecond fewer (by simp only [Level.room]; omega)
      have alternate := ihThird fewer (by simp only [Level.room]; omega)
      exact test.conditional asks consequent parts alternate
  | @chain level next join left right operator a b first joins below second ihFirst ihSecond =>
      intro room
      have own : level.room levels = levels + 1 ∧ next.room levels = levels + 1 := by
        cases level <;> first | cases joins | (cases below; exact ⟨rfl, rfl⟩)
      rw [own.1, List.length_append, List.length_cons] at room
      have operand := ihFirst levels (by rw [own.1]; omega)
      have further := ihSecond levels (by rw [own.2]; omega)
      exact operand.chain joins below further
  | power first raises second ihFirst ihSecond =>
      intro room
      have present := first.length_pos rfl
      simp only [Level.room, List.length_append, List.length_cons] at room
      obtain ⟨fewer, rfl⟩ : ∃ fewer, levels = fewer + 1 := ⟨levels - 1, by omega⟩
      have base := ihFirst (fewer + 1) (by simp only [Level.room]; omega)
      have exponent := ihSecond fewer (by simp only [Level.room]; omega)
      exact base.power raises exponent
  | not negates only ih | negate negates only ih =>
      intro room
      have present := only.length_pos rfl
      simp only [Level.room, List.length_cons] at room
      obtain ⟨fewer, rfl⟩ : ∃ fewer, levels = fewer + 1 := ⟨levels - 1, by omega⟩
      have operand := ih fewer (by simp only [Level.room]; omega)
      exact operand.sign (by rw [negates]; rfl)
  | member first selects names ih =>
      intro room
      simp only [Level.room, List.length_append] at room
      have base := ih levels (by simp only [Level.room]; omega)
      exact base.member selects names
  | index first opening second closing ihFirst ihSecond =>
      intro room
      simp only [Level.room, List.length_append, List.length_cons] at room
      have base := ihFirst levels (by simp only [Level.room]; omega)
      have key := ihSecond levels (by simp only [Level.room]; omega)
      exact base.index opening key closing
  | call first opening inner closing ihFirst ihInner =>
      intro room
      simp only [Level.room, List.length_append, List.length_cons] at room
      have callee := ihFirst levels (by simp only [Level.room]; omega)
      exact callee.call opening inner (ihInner levels (by omega)) closing
  | number kind => exact fun _ => .single fun _ _ _ => run_primary_number kind
  | string kind => exact fun _ => .single fun _ _ _ => run_primary_string kind
  | keyword word literal =>
      refine fun _ => .single fun _ _ _ => (run_primary_word word).trans ?_
      rw [ofName, literal]
  | name word plain =>
      refine fun _ => .single fun _ _ _ => (run_primary_word word).trans ?_
      rw [ofName, plain]
  | group opening inner closing ih =>
      intro room
      simp only [Level.room, List.length_append, List.length_cons] at room
      have inside := ih levels (by simp only [Level.room]; omega)
      exact inside.group opening closing
  | array opening inner closing ih =>
      intro room
      simp only [Level.room, List.length_append, List.length_cons] at room
      exact .array opening inner (ih levels (by omega)) closing
  | object opening inner closing ih =>
      intro room
      simp only [Level.room, List.length_append, List.length_cons] at room
      exact .object opening inner (ih levels (by omega)) closing
  | property named parts only ih =>
      intro room
      simp only [List.length_cons] at room
      exact .property named parts (ih levels (by simp only [Level.room]; omega))
  | noElements | noProperties => exact fun _ => ⟨fun _ => rfl, fun some => absurd rfl some⟩
  | oneElement only ih => exact fun room => .one (ih levels room)
  | oneProperty only ih => exact fun room => .one (ih levels room)
  | moreElements before some parts next ihBefore ihNext =>
      intro room
      simp only [List.length_append, List.length_cons] at room
      have last := ihNext levels (by simp only [Level.room]; omega)
      exact (ihBefore levels (by omega)).more some parts last
  | moreProperties before some parts next ihBefore ihNext =>
      intro room
      simp only [List.length_append, List.length_cons] at room
      exact (ihBefore levels (by omega)).more some parts (ihNext levels (by omega))

end Expr

end Formula
