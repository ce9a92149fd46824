import Formula.Engine
import Formula.Proofs.Evaluation.Reach
import Formula.Proofs.Function.Builtin
import Formula.Proofs.Function.Range

/-!
Evaluating a formula in a context whose numbers are in range gives a value whose numbers are in
range, unless the evaluation comes to a node that brings in a number out of range itself: no operator
and no function makes one.
-/

namespace Formula

namespace Value

/-- The length of a text or an array is too wide to be in range. -/
def TooLong : Value → Prop
  | .array items => 2 ^ Number.maxBits ≤ items.length
  | .text t => 2 ^ Number.maxBits ≤ t.length
  | _ => False

theorem ofNat_inRange_or (n : Nat) : (ofNat n).InRange ∨ 2 ^ Number.maxBits ≤ n := by
  rcases Nat.lt_or_ge n (2 ^ Number.maxBits) with small | large
  · exact .inl (inRange_number.mpr (Number.bitLength_natCast_le small))
  · exact .inr large

theorem property_inRange {v : Value} (inRange : v.InRange) (name : String) :
    ReturnsOnly (fun w => w.InRange ∨ name = "length" ∧ v.TooLong) (v.property name) := by
  unfold property
  split
  · exact returnsOnly_ok (.inl inRange_null)
  · exact returnsOnly_ok (.inl (inRange_get? (inRange_object.mp inRange)))
  · rename_i items
    split
    · rename_i length
      exact returnsOnly_ok ((ofNat_inRange_or _).imp_right fun long => ⟨length, long⟩)
    · refine returnsOnly_ok (.inl (inRange_array.mpr ?_))
      intro w member
      obtain ⟨item, inside, rfl⟩ := List.mem_map.mp member
      split
      · exact inRange_get? (inRange_object.mp (inRange_array.mp inRange _ inside))
      · exact inRange_null
  · split
    · rename_i length
      exact returnsOnly_ok ((ofNat_inRange_or _).imp_right fun long => ⟨length, long⟩)
    · exact returnsOnly_error _
  · exact returnsOnly_error _

theorem itemAt_inRange {items : List Value} (inRange : ∀ v ∈ items, v.InRange) (index : Int) :
    (itemAt items index).InRange := by
  cases index with
  | ofNat n => exact inRange_getD fun _ found => inRange _ (List.mem_of_getElem? found)
  | negSucc n => exact inRange_null

theorem characters_inRange (t : Text) : ∀ v ∈ characters t, v.InRange := by
  intro v member
  obtain ⟨point, -, rfl⟩ := List.mem_map.mp member
  exact inRange_text _

theorem at_inRange {v : Value} (inRange : v.InRange) (key : Value) :
    ReturnsOnly InRange (v.at_ key) := by
  unfold at_
  split
  · exact returnsOnly_ok inRange_null
  · exact returnsOnly_ok inRange_null
  · exact returnsOnly_bind _ fun _ => returnsOnly_ok (inRange_get? (inRange_object.mp inRange))
  · exact returnsOnly_bind _ fun _ =>
      returnsOnly_ok (itemAt_inRange (inRange_array.mp inRange) _)
  · exact returnsOnly_bind _ fun _ => returnsOnly_ok (itemAt_inRange (characters_inRange _) _)
  · exact returnsOnly_error _

end Value

/-! ### Operators -/

open Value

/-- Every operation but division looks at what it returns. -/
theorem Arithmetic.apply_returns {op : Arithmetic} (other : op ≠ .divide) (a b : Number) :
    ReturnsOnly Number.InRange (op.apply a b) := by
  cases op with
  | add => exact returnsOnly_bind _ fun x => x.check_returns
  | subtract => exact returnsOnly_bind _ fun x => x.check_returns
  | multiply => exact a.multiply_returns b
  | divide => exact absurd rfl other
  | modulo => exact returnsOnly_bind _ fun x => x.check_returns
  | power => exact a.power_returns b

theorem Arithmetic.apply_inRange (op : Arithmetic) {a b : Number} (inRange : a.InRange) :
    ReturnsOnly Number.InRange (op.apply a b) := by
  by_cases division : op = .divide
  · rw [division]
    exact Number.divide_inRange inRange
  · exact apply_returns division a b

theorem Arithmetic.evaluate_inRange (op : Arithmetic) {left : Value} (inRange : left.InRange)
    (right : Value) : ReturnsOnly Value.InRange (op.evaluate left right) := by
  unfold evaluate
  split
  · exact returnsOnly_error _
  · split
    · exact returnsOnly_ok inRange_null
    · exact returnsOnly_ok inRange_null
    · rename_i a b _
      have results := op.apply_inRange (b := b) (inRange_number.mp inRange)
      split
      · rename_i x applied
        exact returnsOnly_ok (inRange_number.mpr (results x applied))
      · exact returnsOnly_error _
    · exact returnsOnly_error _

theorem concatenate_inRange (left right : Value) :
    ReturnsOnly Value.InRange (concatenate left right) :=
  returnsOnly_bind _ fun _ => returnsOnly_bind _ fun _ => returnsOnly_ok (inRange_text _)

theorem BinaryOp.evaluate_inRange (op : BinaryOp) {left : Value} (inRange : left.InRange)
    (right : Value) : ReturnsOnly Value.InRange (op.evaluate left right) := by
  cases op with
  | equal => exact returnsOnly_ok (inRange_bool _)
  | notEqual => exact returnsOnly_ok (inRange_bool _)
  | less => exact returnsOnly_bind _ fun _ => returnsOnly_ok (inRange_bool _)
  | lessOrEqual => exact returnsOnly_bind _ fun _ => returnsOnly_ok (inRange_bool _)
  | greater => exact returnsOnly_bind _ fun _ => returnsOnly_ok (inRange_bool _)
  | greaterOrEqual => exact returnsOnly_bind _ fun _ => returnsOnly_ok (inRange_bool _)
  | concat => exact concatenate_inRange left right
  | add =>
      rw [evaluate]
      split
      · exact concatenate_inRange left right
      · exact Arithmetic.add.evaluate_inRange inRange right
  | subtract => exact Arithmetic.subtract.evaluate_inRange inRange right
  | multiply => exact Arithmetic.multiply.evaluate_inRange inRange right
  | divide => exact Arithmetic.divide.evaluate_inRange inRange right
  | modulo => exact Arithmetic.modulo.evaluate_inRange inRange right
  | power => exact Arithmetic.power.evaluate_inRange inRange right
  | other symbol => exact returnsOnly_error _

theorem UnaryOp.evaluate_inRange (op : UnaryOp) {v : Value} (inRange : v.InRange) :
    ReturnsOnly Value.InRange (op.evaluate v) := by
  unfold evaluate
  split
  · exact returnsOnly_bind _ fun _ => returnsOnly_ok (inRange_bool _)
  · exact returnsOnly_ok inRange_null
  · exact returnsOnly_ok (inRange_number.mpr (inRange_number.mp inRange).negate)
  · exact returnsOnly_error _
  · exact returnsOnly_error _

/-! ### Names -/

theorem Context.resolve_inRange {c : Context} (inRange : c.InRange) (name : String) :
    ReturnsOnly Value.InRange (c.resolve name) := by
  have own : ReturnsOnly Value.InRange (c.ownValue name) := by
    unfold ownValue
    split
    · exact returnsOnly_ok (inRange_date _)
    · exact returnsOnly_ok (inRange_date _)
    · exact returnsOnly_ok (inRange_object.mpr inRange.user)
    · exact returnsOnly_bind _ fun zone => returnsOnly_ok (by simp [Context.now, Context.today])
    · exact returnsOnly_ok inRange_null
  unfold resolve
  split
  · rename_i v found
    exact returnsOnly_ok (inRange.fields _ (Record.mem_of_get? found))
  · split
    · rename_i v found
      exact returnsOnly_ok (inRange.vars _ (Record.mem_of_get? found))
    · split
      · exact returnsOnly_ok (inRange_get? inRange.vars)
      · exact own

/-! ### Trees -/

namespace Expr

/-- A node brings in a number out of range itself: a literal of such a number, the length of what is
too long, or a call that reads such a number from JSON. -/
def BringsIn (env : Environment) (levels : Nat) : Expr → Prop
  | .literal kind raw _ => ∃ v, literalValue kind raw = .ok v ∧ ¬ v.InRange
  | .member base name _ =>
      name = "length" ∧ ∃ v, base.evaluate env levels = .ok v ∧ v.TooLong
  | .call callee arguments position =>
      env.registry.find? callee = some Texts.jsonParseFunction ∧
        ∃ v, (Expr.call callee arguments position).evaluate env (levels + 1) = .ok v ∧ ¬ v.InRange
  | _ => False

variable {env : Environment}

theorem enter_returns {P : Value → Prop} {deeper position : Nat} {body : Nat → Except Stop Value}
    (returns : ReturnsOnly P (body deeper)) :
    ReturnsOnly P (env.enter (deeper + 1) position body) :=
  returns.mapError _

theorem evaluate_zero_returns {P : Value → Prop} (e : Expr) : ReturnsOnly P (e.evaluate env 0) := by
  cases e with
  | unknown => exact returnsOnly_error _
  | _ =>
      rw [evaluate]
      exact returnsOnly_error _

theorem evaluateAll_inRange {parts : List Expr} {levels : Nat}
    (each : ∀ part ∈ enteredAll env levels parts,
      ReturnsOnly Value.InRange (part.evaluate env levels)) :
    ReturnsOnly (fun vs => ∀ v ∈ vs, v.InRange) (evaluateAll env parts levels) := by
  induction parts with
  | nil => exact returnsOnly_ok fun v member => nomatch member
  | cons first rest ih =>
      rw [enteredAll] at each
      rw [evaluateAll]
      cases value : first.evaluate env levels with
      | error stop => exact returnsOnly_error stop
      | ok v =>
          rw [value] at each
          have head := each first List.mem_cons_self v value
          refine (ih fun part member => each part (List.mem_cons_of_mem _ member)).bind fun vs all => ?_
          exact returnsOnly_ok (List.forall_mem_cons.mpr ⟨head, all⟩)

theorem evaluateProperties_inRange {properties : List (String × Expr)} {levels : Nat}
    (each : ∀ part ∈ enteredAll env levels (properties.map Prod.snd),
      ReturnsOnly Value.InRange (part.evaluate env levels)) :
    ReturnsOnly (fun entries => ∀ entry ∈ entries, entry.2.InRange)
      (evaluateProperties env properties levels) := by
  induction properties with
  | nil => exact returnsOnly_ok fun entry member => nomatch member
  | cons first rest ih =>
      obtain ⟨name, part⟩ := first
      rw [List.map_cons, enteredAll] at each
      rw [evaluateProperties]
      cases value : part.evaluate env levels with
      | error stop => exact returnsOnly_error stop
      | ok v =>
          simp only [value] at each
          have head := each part List.mem_cons_self v value
          refine (ih fun part member => each part (List.mem_cons_of_mem _ member)).bind fun vs all => ?_
          exact returnsOnly_ok (List.forall_mem_cons.mpr ⟨head, all⟩)

theorem evaluate_logical_inRange (op : LogicalOp) (left right : Expr) (levels position : Nat) :
    ReturnsOnly Value.InRange ((Expr.logical op left right position).evaluate env (levels + 1)) := by
  have decided : ∀ e : Expr, ReturnsOnly Value.InRange (do
      return Value.bool (← (← e.evaluate env levels).decide)) := fun e =>
    returnsOnly_bind _ fun _ => returnsOnly_bind _ fun _ => returnsOnly_ok (inRange_bool _)
  refine enter_returns (returnsOnly_bind _ fun v => returnsOnly_bind _ fun a => ?_)
  cases op with
  | and =>
      cases a with
      | true => exact decided right
      | false => exact returnsOnly_ok (inRange_bool _)
  | or =>
      cases a with
      | true => exact returnsOnly_ok (inRange_bool _)
      | false => exact decided right
  | other symbol => exact returnsOnly_error _

/-- A step of an evaluation keeps values in range, if the parts that it enters have values in range
and the node brings in no number itself. -/
theorem evaluate_succ_inRange (context : env.context.InRange)
    (keeps : ∀ name d, env.registry.find? name = some d →
      d.KeepsRange ∨ d = Texts.jsonParseFunction) {e : Expr} {levels : Nat}
    (parts : ∀ part ∈ e.entered env levels, ReturnsOnly Value.InRange (part.evaluate env levels))
    (own : ¬ e.BringsIn env levels) : ReturnsOnly Value.InRange (e.evaluate env (levels + 1)) := by
  cases e with
  | unknown => exact returnsOnly_error _
  | literal kind raw position =>
      refine enter_returns (ReturnsOnly.mapError (fun v value => ?_) _)
      by_contra outside
      exact own ⟨v, value, outside⟩
  | identifier name position =>
      exact enter_returns ((Context.resolve_inRange context name).mapError _)
  | member base name position =>
      refine enter_returns fun w returned => ?_
      obtain ⟨v, value, property⟩ := bind_eq_ok.mp returned
      have inside : v.InRange := by
        refine parts base ?_ v value
        simp [entered, children, enteredAll_singleton]
      rcases property_inRange inside name w property with inRange | ⟨length, long⟩
      · exact inRange
      · exact absurd ⟨length, v, value, long⟩ own
  | index base key position =>
      refine enter_returns fun w returned => ?_
      obtain ⟨v, value, returned⟩ := bind_eq_ok.mp returned
      obtain ⟨k, -, found⟩ := bind_eq_ok.mp returned
      have inside := parts base (mem_enteredAll_pair.mpr (.inl rfl)) v value
      exact at_inRange inside k w found
  | array elements position =>
      refine enter_returns ((evaluateAll_inRange parts).bind fun vs all => ?_)
      exact returnsOnly_ok (inRange_array.mpr all)
  | object properties position =>
      refine enter_returns ((evaluateProperties_inRange parts).bind fun entries all => ?_)
      refine returnsOnly_ok (inRange_object.mpr fun entry member => ?_)
      exact all entry (Record.mem_of_mem_ofList member)
  | unary op operand position =>
      have inside := parts operand (by simp [entered, children, enteredAll_singleton])
      exact enter_returns (inside.bind fun v inRange => op.evaluate_inRange inRange)
  | binary op left right position =>
      have inside := parts left (mem_enteredAll_pair.mpr (.inl rfl))
      refine enter_returns (inside.bind fun a inRange => returnsOnly_bind _ fun b => ?_)
      exact op.evaluate_inRange inRange b
  | logical op left right position => exact evaluate_logical_inRange op left right levels position
  | conditional test consequent alternate position =>
      refine enter_returns fun w returned => ?_
      obtain ⟨v, value, returned⟩ := bind_eq_ok.mp returned
      obtain ⟨b, decided, returned⟩ := bind_eq_ok.mp returned
      have truth := truth?_eq_some_iff.mpr ⟨v, value, mapError_eq_ok.mp decided⟩
      cases b with
      | true => exact parts consequent (by simp [entered, truth]) w returned
      | false => exact parts alternate (by simp [entered, truth]) w returned
  | call callee arguments position =>
      intro w returned
      cases found : env.registry.find? callee with
      | none =>
          rw [evaluate, Environment.enter, mapError_eq_ok, Registry.call, found] at returned
          cases returned
      | some d =>
          rcases keeps callee d found with keeps | rfl
          · rw [evaluate, Environment.enter, mapError_eq_ok, Registry.call, found] at returned
            obtain ⟨args, values, returned⟩ := bind_eq_ok.mp returned
            rw [entered, Registry.contains, found, if_pos Option.isSome_some] at parts
            have all := evaluateAll_inRange parts args values
            split at returned
            · cases returned
            · exact keeps _ args context all w (mapError_eq_ok.mp returned)
          · by_contra outside
            exact own ⟨found, w, returned, outside⟩

/-- A value is in range, or its evaluation comes to a node that brings in a number out of range. -/
theorem evaluate_inRange_or (context : env.context.InRange)
    (keeps : ∀ name d, env.registry.find? name = some d →
      d.KeepsRange ∨ d = Texts.jsonParseFunction) (e : Expr) (levels : Nat)
    (none : ¬ ∃ node left, Reaches env node left e levels ∧ node.BringsIn env left) :
    ReturnsOnly Value.InRange (e.evaluate env levels) := by
  induction e using partsInduction generalizing levels with
  | node e ih =>
      cases levels with
      | zero => exact evaluate_zero_returns e
      | succ deeper =>
          refine evaluate_succ_inRange context keeps (fun part entered => ?_) fun brings =>
            none ⟨e, deeper, .root, brings⟩
          refine ih part (mem_children_of_mem_entered entered) deeper ?_
          rintro ⟨node, left, reaches, brings⟩
          exact none ⟨node, left, .part entered reaches, brings⟩

end Expr

namespace Engine

/-- Evaluating a formula comes to a node that brings in a number out of range. -/
def BringsIn (limits : Limits) (host : Host) (formula : String) (context : Context) : Prop :=
  let env : Environment := ⟨context, .builtin, limits.maxDepth, host⟩
  ∃ parsed, parse { limits, host } formula = .ok parsed ∧ ∃ node left,
    Expr.Reaches env node left parsed.expr (min limits.maxDepth host.depth) ∧
      node.BringsIn env left

/-- In a context whose numbers are in range, all numbers in the value of a formula are finite and no
wider than integers may be, at any depth, unless the evaluation comes to a literal of a number out of
range, to the length of a text or an array of more than `2 ^ 10000` items, or to JSON with such a
number in it: no operator and no other function brings one in. -/
theorem evaluate_value_inRange (limits : Limits) (host : Host) (formula : String)
    (context : Context) (inRange : context.InRange) (v : Value)
    (returned : evaluate { limits, host } formula context = .ok (.value v))
    (none : ¬ BringsIn limits host formula context) : v.InRange := by
  unfold evaluate at returned
  cases parses : parse { limits, host } formula with
  | error info =>
      rw [parses] at returned
      cases returned
  | ok parsed =>
      rw [parses] at returned
      have value : parsed.expr.value context .builtin limits.maxDepth host = .ok v := by
        simp only [evaluateTree] at returned
        split at returned
        · cases returned
          assumption
        · cases returned
        · cases returned
      have keeps : ∀ name d, Registry.builtin.find? name = some d →
          d.KeepsRange ∨ d = Texts.jsonParseFunction := fun name d found =>
        Definition.keepsRange_builtin (Registry.mem_of_find?_builtin found)
      let env : Environment := ⟨context, .builtin, limits.maxDepth, host⟩
      refine @Expr.evaluate_inRange_or env inRange keeps parsed.expr _ ?_ v value
      rintro ⟨node, left, reaches, brings⟩
      exact none ⟨parsed, parses, node, left, reaches, brings⟩

theorem value?_eq_some {outcome : Outcome} {v : Value} :
    outcome.value? = some v ↔ outcome = .value v := by
  cases outcome with
  | value w => exact Option.some_inj.trans ⟨congrArg _, Outcome.value.inj⟩
  | error e => exact ⟨fun none => (nomatch none), fun none => (nomatch none)⟩

def isQuotient : Expr → Bool
  | .binary .divide (.identifier ..) (.identifier ..) _ => true
  | _ => false

theorem evaluate_value_inRange_quotient :
    let context : Context := {
      fields := [("x", .int 6), ("y", .int 2)]
      clock := .ofMoment .universal (.atMidnight ⟨2024, 1, 15, by decide⟩ none) }
    context.InRange ∧ ¬ BringsIn .default .universal "x / y" context ∧
      ∃ v, evaluate { host := .universal } "x / y" context = .ok (.value v) ∧
        v.InRange := by
  intro context
  have inRange : context.InRange := by
    refine ⟨?_, ?_, ?_, ?_⟩
    · refine List.forall_mem_cons.mpr ⟨?_, List.forall_mem_singleton.mpr ?_⟩
      · exact inRange_number.mpr (by decide)
      · exact inRange_number.mpr (by decide)
    · exact fun entry member => nomatch member
    · exact fun entry member => nomatch member
    · simp [context, anonymousUser]
  have none : ¬ BringsIn .default .universal "x / y" context := by
    have tree : (parse { host := .universal } "x / y").toOption.all
        (isQuotient ·.expr) = true := by
      decide +kernel
    rintro ⟨parsed, parses, node, left, reaches, brings⟩
    rw [parses] at tree
    change isQuotient parsed.expr = true at tree
    have within := reaches.within
    unfold isQuotient at tree
    split at tree
    · rename_i same
      rw [same] at within
      cases within with
      | root => exact brings
      | part member below =>
          rcases List.mem_pair.mp member with rfl | rfl
          all_goals
            cases below with
            | root => exact brings
            | part member _ => cases member
    · cases tree
  refine ⟨inRange, none, ?_⟩
  have value : ((evaluate { host := .universal } "x / y" context).toOption.bind
      Outcome.value?).isSome = true := by
    decide +kernel
  obtain ⟨v, came⟩ := Option.isSome_iff_exists.mp value
  obtain ⟨outcome, returned, same⟩ := Option.bind_eq_some_iff.mp came
  rw [toOption_eq_some, value?_eq_some.mp same] at returned
  exact ⟨v, returned, evaluate_value_inRange .default .universal _ context inRange v returned none⟩

/-- A number of the formula itself need not be finite. -/
theorem infinite_literal :
    let context : Context := {
      clock := .ofMoment .universal (.atMidnight ⟨2024, 1, 15, by decide⟩ none) }
    context.InRange ∧
      ∃ v, evaluate { host := .universal } "1e999" context = .ok (.value v) ∧
        ¬ v.InRange := by
  intro context
  constructor
  · refine ⟨?_, ?_, ?_, ?_⟩
    · exact fun entry member => nomatch member
    · exact fun entry member => nomatch member
    · exact fun entry member => nomatch member
    · simp [context, anonymousUser]
  · have value : ((evaluate { host := .universal } "1e999" context).toOption.bind
        Outcome.value?).any (fun v => v.number?.any fun x => decide ¬ x.InRange) = true := by
      decide +kernel
    obtain ⟨v, came, wide⟩ := (Option.any_eq_true _ _).mp value
    obtain ⟨outcome, returned, same⟩ := Option.bind_eq_some_iff.mp came
    obtain ⟨x, number, beyond⟩ := (Option.any_eq_true _ _).mp wide
    rw [toOption_eq_some, value?_eq_some.mp same] at returned
    refine ⟨v, returned, fun inRange => of_decide_eq_true beyond ?_⟩
    cases v with
    | number y =>
        cases number
        exact inRange_number.mp inRange
    | _ => cases number

end Engine

end Formula
