import Formula.Proofs.Evaluation.Arithmetic
import Formula.Proofs.Function.Calls

/-!
Operators and the functions that do the same: `%` and `MOD`, `**` and `POWER`, `&` and `CONCAT`, an
index in brackets and `INDEX`, the property `length` and `LENGTH`. On operands that the functions
accept, both forms come to the same values.
-/

namespace Formula

namespace Definition

variable {d : Definition} {c : Context} {x y v : Value}

/-- A function accepts its arguments, and comes to the same values as another computation. -/
def Matches (d : Definition) (c : Context) (args : List Value) (other : Except Stop Value) : Prop :=
  d.checkArguments args = .ok () ∧ ∀ v, d.call c args = .ok v ↔ other = .ok v

theorem call_two_eq_ok_iff {f : Value → Value → Except Fault Value}
    (does : d.implementation = Implementation.ofTwo f) :
    d.call c [x, y] = .ok v ↔ ∃ w, f x y = .ok w ∧ w.check = .ok v := by
  rw [call_eq_ok_iff, does]
  exact exists_congr fun _ => and_congr_left fun _ => mapError_eq_ok

end Definition

/-! ### Remainders and powers -/

open Value Definition

variable {c : Context} {x y v : Value}

/-- A result that passes the check comes out of a call as it is. -/
theorem passes_iff {ε : Type} {r : Except ε Value} {w : Value} (returned : r = .ok w)
    (passes : w.check = .ok w) :
    (∃ u, r = .ok u ∧ u.check = .ok v) ↔ (.ok w : Except Stop Value) = .ok v := by
  rw [returned]
  simp [passes]

theorem checked_number_iff {r : Except Fault Number} :
    (∃ w, r.map Value.number = .ok w ∧ w.check = .ok v) ↔
      ∃ x, (r >>= Number.check) = .ok x ∧ v = .number x := by
  simp only [map_eq_ok, bind_eq_ok]
  constructor
  · rintro ⟨_, ⟨x, returned, rfl⟩, passed⟩
    obtain ⟨rfl, inRange⟩ := check_number_iff.mp passed
    exact ⟨x, ⟨x, returned, inRange.check⟩, rfl⟩
  · rintro ⟨y, ⟨x, returned, passed⟩, rfl⟩
    obtain ⟨rfl, inRange⟩ := Number.check_eq_ok_iff.mp passed
    exact ⟨_, ⟨y, returned, rfl⟩, check_number_iff.mpr ⟨rfl, inRange⟩⟩

theorem Arithmetic.applied_iff (op : Arithmetic) {a b : Number}
    (nonzero : op.zeroDivision?.isSome → b.isZero = false) :
    (∃ x, op.apply a b = .ok x ∧ v = .number x) ↔
      op.operator.evaluate (.number a) (.number b) = .ok v := by
  rw [operator_evaluate, evaluate_numbers_eq_ok_iff, and_iff_right nonzero]

/-- The remainder by zero is refused first, also where null is divided. -/
theorem Math.modulo_matches (left : x.OfType "number") (right : y.OfType "number") :
    modFunction.Matches c [x, y] (BinaryOp.modulo.evaluate x y) := by
  refine ⟨checkArguments_of_type Parameter.types_number rfl (by decide)
    (by simp [left, right]), fun v => ?_⟩
  rw [call_two_eq_ok_iff rfl]
  rcases right.number with rfl | ⟨b, rfl⟩
  · rcases left.number with rfl | ⟨a, rfl⟩ <;> exact passes_iff rfl rfl
  cases zero : b.isZero with
  | true =>
      have refused : BinaryOp.modulo.evaluate x (.number b) = .error (.cause .moduloByZero) := by
        simp only [BinaryOp.evaluate, Arithmetic.evaluate, Arithmetic.divisorIsZero, zero]
        rfl
      have failed : modulo x (.number b) = .error .divisionByZero := if_pos zero
      rw [refused, failed]
      simp
  | false =>
      have divides : modulo x (.number b) =
          onNumber (fun a => (a.remainder b).map .number) x := if_neg (by simp [zero])
      rw [divides]
      rcases left.number with rfl | ⟨a, rfl⟩
      · refine (passes_iff rfl rfl).trans ?_
        simp only [BinaryOp.evaluate, Arithmetic.evaluate, Arithmetic.divisorIsZero, zero]
        rfl
      · exact checked_number_iff.trans (Arithmetic.modulo.applied_iff fun _ => zero)

theorem Math.power_matches (left : x.OfType "number") (right : y.OfType "number") :
    powerFunction.Matches c [x, y] (BinaryOp.power.evaluate x y) := by
  refine ⟨checkArguments_of_type Parameter.types_number rfl (by decide)
    (by simp [left, right]), fun v => ?_⟩
  rw [call_two_eq_ok_iff rfl]
  rcases left.number with rfl | ⟨a, rfl⟩
  · exact passes_iff rfl rfl
  rcases right.number with rfl | ⟨b, rfl⟩
  · exact passes_iff rfl rfl
  have checked : ∀ x, (a.power b >>= Number.check) = .ok x ↔ a.power b = .ok x := by
    intro x
    rw [bind_eq_ok]
    constructor
    · rintro ⟨y, returned, passed⟩
      obtain ⟨rfl, -⟩ := Number.check_eq_ok_iff.mp passed
      exact returned
    · intro returned
      exact ⟨x, returned, (Number.power_returns a b x returned).check⟩
  calc (∃ w, (a.power b).map Value.number = .ok w ∧ w.check = .ok v)
    _ ↔ ∃ x, (a.power b >>= Number.check) = .ok x ∧ v = .number x := checked_number_iff
    _ ↔ ∃ x, a.power b = .ok x ∧ v = .number x :=
        exists_congr fun x => and_congr_left fun _ => checked x
    _ ↔ BinaryOp.power.evaluate (.number a) (.number b) = .ok v :=
        Arithmetic.power.applied_iff fun divides => nomatch divides

/-! ### Texts -/

theorem concatenate_eq_ok_iff : concatenate x y = .ok v ↔
    ∃ t, x.toText = .ok t ∧ ∃ u, y.toText = .ok u ∧ .text (t ++ u) = v := by
  simp only [concatenate, operandText, bind_eq_ok, mapError_eq_ok, pure, Except.pure,
    Except.ok.injEq]

theorem Texts.concat_two_eq_ok_iff : concat [x, y] = .ok v ↔
    ∃ t, x.toText = .ok t ∧ ∃ u, y.toText = .ok u ∧ .text (t ++ u) = v := by
  have joined (t u : Text) : Text.join [t, u] = t ++ u :=
    congrArg (fun points => Text.mk (t.points ++ points)) (List.append_nil u.points)
  simp [concat, joinTexts, map_eq_ok, bind_eq_ok, pure, Except.pure, joined]

theorem Texts.concat_matches (x y : Value) :
    concatFunction.Matches c [x, y] (BinaryOp.concat.evaluate x y) := by
  constructor
  · refine checkArguments_of_fits rfl (misfit?_eq_none fun p member v _ => ?_)
    rw [List.mem_singleton.mp member]
    refine Parameter.accepts_of_any ?_ v
    simp +decide [Parameter.types, String.splitOn, String.splitOnAux]
  · intro v
    rw [call_eq_ok_iff, BinaryOp.evaluate, concatenate_eq_ok_iff, ← concat_two_eq_ok_iff]
    constructor
    · rintro ⟨w, returned, passed⟩
      have concatenated := mapError_eq_ok.mp returned
      obtain ⟨t, -, u, -, rfl⟩ := concat_two_eq_ok_iff.mp concatenated
      cases passed
      exact concatenated
    · intro concatenated
      obtain ⟨t, -, u, -, rfl⟩ := concat_two_eq_ok_iff.mp concatenated
      exact ⟨_, mapError_eq_ok.mpr concatenated, rfl⟩

/-! ### Items and lengths -/

theorem Value.toIndex_number_eq_ok_iff {a : Number} {n : Int} :
    (Value.number a).toIndex = .ok n ↔ a.wholeValue? = some n := by
  rw [toIndex]
  split
  · rename_i m whole
    rw [whole, Except.ok.injEq, Option.some.injEq]
  · rename_i other
    rw [other, bind_eq_ok]
    exact iff_of_false (fun ⟨_, _, failed⟩ => nomatch failed) fun whole => nomatch whole

theorem Value.at_number_eq_ok_iff {items : List Value} {a : Number} :
    (Value.array items).at_ (.number a) = .ok v ↔
      ∃ n, a.wholeValue? = some n ∧ itemAt items n = v := by
  simp only [at_, bind_eq_ok, toIndex_number_eq_ok_iff, pure, Except.pure, Except.ok.injEq]

theorem Arrays.index_number_eq_ok_iff {items : List Value} {a : Number} :
    index (.array items) (.number a) = .ok v ↔
      ∃ n, a.wholeValue? = some n ∧ itemAt items n = v := by
  simp only [index, items?, number?, bind_eq_ok, Number.toWhole_eq_ok_iff]
  refine exists_congr fun n => and_congr_right fun _ => ?_
  cases n with
  | ofNat n => exact iff_of_eq (Except.ok.injEq _ _)
  | negSucc n => exact iff_of_eq (Except.ok.injEq _ _)

theorem Value.check_itemAt {items : List Value} (inRange : ∀ a, .number a ∈ items → a.InRange)
    (n : Int) : (itemAt items n).check = .ok (itemAt items n) := by
  cases n with
  | negSucc n => rfl
  | ofNat n =>
      rw [itemAt]
      cases found : items[n]? with
      | none => rfl
      | some w => exact check_self fun a number => inRange a (number ▸ List.mem_of_getElem? found)

/-- The check of results would refuse an item that is a number out of range. -/
theorem Arrays.index_matches (array : x.OfType "array")
    (inRange : ∀ a, .number a ∈ x.items → a.InRange)
    (key : y.OfType "number") : indexFunction.Matches c [x, y] (x.at_ y) := by
  constructor
  · exact checkArguments_pair rfl rfl (Parameter.mem_types Parameter.types_array rfl)
      (Parameter.mem_types Parameter.types_number rfl) array key
  · intro v
    rw [call_two_eq_ok_iff rfl]
    rcases array.array with rfl | ⟨items, rfl⟩
    · exact passes_iff rfl rfl
    rcases key.number with rfl | ⟨a, rfl⟩
    · exact passes_iff rfl rfl
    have unchanged : ∀ n, (itemAt items n).check = .ok (itemAt items n) := check_itemAt inRange
    simp only [index_number_eq_ok_iff, at_number_eq_ok_iff]
    constructor
    · rintro ⟨_, ⟨n, whole, rfl⟩, passed⟩
      rw [unchanged n] at passed
      cases passed
      exact ⟨n, whole, rfl⟩
    · rintro ⟨n, whole, rfl⟩
      exact ⟨_, ⟨n, whole, rfl⟩, unchanged n⟩

theorem Arrays.length_matches (sized : x.typeName = "array" ∨ x.typeName = "string")
    (short : ¬ x.TooLong) : lengthFunction.Matches c [x] (x.property "length") := by
  constructor
  · refine checkArguments_of_fits rfl (if_pos (Parameter.accepts_of_ofType ?_ (.inr rfl)))
    rcases sized with same | same <;> rw [same] <;>
      simp +decide [Parameter.types, String.splitOn, String.splitOnAux]
  · intro v
    rw [call_eq_ok_iff]
    cases x with
    | array items => exact passes_iff rfl (check_ofNat short)
    | text t => exact passes_iff rfl (check_ofNat short)
    | _ => simp [typeName] at sized

/-! ### Both forms in formulas -/

namespace Expr

variable {env : Environment} {levels position place : Nat} {a b form : Expr}

/-- Two trees come to the same values within as many levels. -/
def SameValues (env : Environment) (levels : Nat) (e f : Expr) : Prop :=
  ∀ v, e.evaluate env levels = .ok v ↔ f.evaluate env levels = .ok v

theorem enter_eq_ok_iff {body : Nat → Except Stop Value} :
    env.enter levels position body = .ok v ↔ 0 < levels ∧ body (levels - 1) = .ok v := by
  cases levels with
  | zero => simp [Environment.enter]
  | succ deeper => simp [Environment.enter, mapError_eq_ok]

theorem evaluate_binary_eq_ok_iff {op : BinaryOp} :
    (Expr.binary op a b position).evaluate env levels = .ok v ↔
      0 < levels ∧ ∃ x, a.evaluate env (levels - 1) = .ok x ∧
        ∃ y, b.evaluate env (levels - 1) = .ok y ∧ op.evaluate x y = .ok v := by
  simp only [evaluate, enter_eq_ok_iff, bind_eq_ok]

theorem evaluate_index_eq_ok_iff :
    (Expr.index a b position).evaluate env levels = .ok v ↔
      0 < levels ∧ ∃ x, a.evaluate env (levels - 1) = .ok x ∧
        ∃ y, b.evaluate env (levels - 1) = .ok y ∧ x.at_ y = .ok v := by
  simp only [evaluate, enter_eq_ok_iff, bind_eq_ok]

theorem evaluate_member_eq_ok_iff {name : String} :
    (Expr.member a name position).evaluate env levels = .ok v ↔
      0 < levels ∧ ∃ x, a.evaluate env (levels - 1) = .ok x ∧ x.property name = .ok v := by
  simp only [evaluate, enter_eq_ok_iff, bind_eq_ok]

theorem evaluate_call_eq_ok_iff {callee : String} {d : Definition} {arguments : List Expr}
    (found : env.registry.find? callee = some d) :
    (Expr.call callee arguments position).evaluate env levels = .ok v ↔
      0 < levels ∧ ∃ args, evaluateAll env arguments (levels - 1) = .ok args ∧
        d.checkArguments args = .ok () ∧ d.call env.context args = .ok v := by
  rw [evaluate, enter_eq_ok_iff, Registry.call, found]
  simp only [bind_eq_ok]
  refine and_congr_right fun _ => exists_congr fun args => and_congr_right fun _ => ?_
  cases d.checkArguments args with
  | error cause => simp
  | ok accepted => simp [mapError_eq_ok]

/-- A call is the same as a form of two operands if its function is the same on their values. -/
theorem sameValues_call_two {callee : String} {d : Definition}
    {f : Value → Value → Except Stop Value} (found : env.registry.find? callee = some d)
    (computes : ∀ v, form.evaluate env levels = .ok v ↔
      0 < levels ∧ ∃ x, a.evaluate env (levels - 1) = .ok x ∧
        ∃ y, b.evaluate env (levels - 1) = .ok y ∧ f x y = .ok v)
    (agrees : ∀ x y, a.evaluate env (levels - 1) = .ok x → b.evaluate env (levels - 1) = .ok y →
      d.Matches env.context [x, y] (f x y)) :
    SameValues env levels (.call callee [a, b] position) form := by
  intro v
  rw [evaluate_call_eq_ok_iff found, computes]
  refine and_congr_right fun _ => ?_
  simp only [evaluateAll, bind_eq_ok, pure, Except.pure, Except.ok.injEq]
  constructor
  · rintro ⟨_, ⟨x, first, _, ⟨y, second, _, rfl, rfl⟩, rfl⟩, -, called⟩
    exact ⟨x, first, y, second, ((agrees x y first second).2 v).mp called⟩
  · rintro ⟨x, first, y, second, computed⟩
    obtain ⟨accepted, same⟩ := agrees x y first second
    exact ⟨_, ⟨x, first, _, ⟨y, second, _, rfl, rfl⟩, rfl⟩, accepted, (same v).mpr computed⟩

theorem sameValues_call_one {callee : String} {d : Definition}
    {f : Value → Except Stop Value} (found : env.registry.find? callee = some d)
    (computes : ∀ v, form.evaluate env levels = .ok v ↔
      0 < levels ∧ ∃ x, a.evaluate env (levels - 1) = .ok x ∧ f x = .ok v)
    (agrees : ∀ x, a.evaluate env (levels - 1) = .ok x → d.Matches env.context [x] (f x)) :
    SameValues env levels (.call callee [a] position) form := by
  intro v
  rw [evaluate_call_eq_ok_iff found, computes]
  refine and_congr_right fun _ => ?_
  simp only [evaluateAll, bind_eq_ok, pure, Except.pure, Except.ok.injEq]
  constructor
  · rintro ⟨_, ⟨x, came, _, rfl, rfl⟩, -, called⟩
    exact ⟨x, came, ((agrees x came).2 v).mp called⟩
  · rintro ⟨x, came, computed⟩
    obtain ⟨accepted, same⟩ := agrees x came
    exact ⟨_, ⟨x, came, _, rfl, rfl⟩, accepted, (same v).mpr computed⟩

/-- In every context and for all operands, `MOD` and `POWER` of numbers come to the same values as
`%` and `**`, `CONCAT` to the same as `&`, `INDEX` of an array whose own numbers are in range to the
same as the index in brackets, and `LENGTH` of an array or a text to the same as the property
`length`. Numbers and the array may be null. A length of more than ten thousand bits, which nothing
in memory has, would not pass the check of results. -/
theorem forms_agree (c : Context) (maxDepth : Int) (host : Host) (levels position place : Nat)
    (a b : Expr) :
    let env : Environment := ⟨c, .builtin, maxDepth, host⟩
    let left := a.evaluate env (levels - 1)
    let right := b.evaluate env (levels - 1)
    (ReturnsOnly (OfType "number") left → ReturnsOnly (OfType "number") right →
      SameValues env levels (.call "MOD" [a, b] position) (.binary .modulo a b place) ∧
      SameValues env levels (.call "POWER" [a, b] position) (.binary .power a b place)) ∧
    SameValues env levels (.call "CONCAT" [a, b] position) (.binary .concat a b place) ∧
    (ReturnsOnly (fun x => x.OfType "array" ∧ ∀ n, .number n ∈ x.items → n.InRange) left →
      ReturnsOnly (OfType "number") right →
      SameValues env levels (.call "INDEX" [a, b] position) (.index a b place)) ∧
    (ReturnsOnly (fun x => (x.typeName = "array" ∨ x.typeName = "string") ∧ ¬ x.TooLong) left →
      SameValues env levels (.call "LENGTH" [a] position) (.member a "length" place)) := by
  intro env left right
  refine ⟨fun first second => ⟨?modulo, ?power⟩, ?concat, fun first second => ?index,
    fun sized => ?length⟩
  case modulo =>
    have member : Math.modFunction ∈ builtinFunctions := by
      simp [builtinFunctions, Math.functions]
    have found : Registry.builtin.find? "MOD" = some Math.modFunction :=
      Registry.find?_builtin_of_mem (d := Math.modFunction) member
    refine sameValues_call_two found (fun v => evaluate_binary_eq_ok_iff) fun x y came came' => ?_
    exact Math.modulo_matches (first x came) (second y came')
  case power =>
    have member : Math.powerFunction ∈ builtinFunctions := by
      simp [builtinFunctions, Math.functions]
    have found : Registry.builtin.find? "POWER" = some Math.powerFunction :=
      Registry.find?_builtin_of_mem (d := Math.powerFunction) member
    refine sameValues_call_two found (fun v => evaluate_binary_eq_ok_iff) fun x y came came' => ?_
    exact Math.power_matches (first x came) (second y came')
  case concat =>
    have member : Texts.concatFunction ∈ builtinFunctions := by
      simp [builtinFunctions, Texts.functions]
    have found : Registry.builtin.find? "CONCAT" = some Texts.concatFunction :=
      Registry.find?_builtin_of_mem (d := Texts.concatFunction) member
    refine sameValues_call_two found (fun v => evaluate_binary_eq_ok_iff) fun x y _ _ => ?_
    exact Texts.concat_matches x y
  case index =>
    have member : Arrays.indexFunction ∈ builtinFunctions := by
      simp [builtinFunctions, Arrays.functions]
    have found : Registry.builtin.find? "INDEX" = some Arrays.indexFunction :=
      Registry.find?_builtin_of_mem (d := Arrays.indexFunction) member
    refine sameValues_call_two found (fun v => evaluate_index_eq_ok_iff) fun x y came came' => ?_
    obtain ⟨array, inRange⟩ := first x came
    exact Arrays.index_matches array inRange (second y came')
  case length =>
    have member : Arrays.lengthFunction ∈ builtinFunctions := by
      simp [builtinFunctions, Arrays.functions]
    have found : Registry.builtin.find? "LENGTH" = some Arrays.lengthFunction :=
      Registry.find?_builtin_of_mem (d := Arrays.lengthFunction) member
    refine sameValues_call_one found (fun v => evaluate_member_eq_ok_iff) fun x came => ?_
    obtain ⟨type, short⟩ := sized x came
    exact Arrays.length_matches type short

theorem forms_agree_on_fields :
    let context : Context := {
      fields := [("x", .int 1), ("items", .array [.text "a", .int (-2)])],
      clock := .ofMoment .universal (.atMidnight ⟨2024, 1, 15, by decide⟩ none) }
    let env : Environment := ⟨context, .builtin, 100, .universal⟩
    let x : Expr := .identifier "x" 2
    let items : Expr := .identifier "items" 0
    SameValues env 2 (.call "MOD" [x, x] 0) (.binary .modulo x x 1) ∧
      SameValues env 2 (.call "POWER" [x, x] 0) (.binary .power x x 1) ∧
      SameValues env 2 (.call "INDEX" [items, x] 0) (.index items x 1) ∧
      SameValues env 2 (.call "LENGTH" [items] 0) (.member items "length" 1) := by
  intro context env x items
  have number : ReturnsOnly (OfType "number") (x.evaluate env 1) :=
    returnsOnly_ok (ofType_number (.int 1))
  have own : ∀ n, .number n ∈ [Value.text "a", .int (-2)] → n.InRange := by
    intro n member
    rcases List.mem_pair.mp member with same | same <;> cases same
    decide +kernel
  obtain ⟨numbers, -, -, -⟩ := forms_agree context 100 .universal 2 0 1 x x
  obtain ⟨-, -, indexed, sized⟩ := forms_agree context 100 .universal 2 0 1 items x
  obtain ⟨modulo, power⟩ := numbers number number
  refine ⟨modulo, power, indexed (returnsOnly_ok ⟨ofType_array _, own⟩) number, sized ?_⟩
  have short : ¬ 2 ^ Number.maxBits ≤ 2 := by decide +kernel
  exact returnsOnly_ok ⟨.inl rfl, short⟩

end Expr

end Formula
