import Formula.Evaluation.Operators
import Formula.Proofs.Text.Order
import Formula.Proofs.Value.Equality

/-!
The order of values and how it fits their equality. Wherever values have an order they are equal
exactly if they are level, but for a moment of a doubtful reading and one of another zone, which are
equal in no case. The order is total on numbers, on texts, and on stamps without a zone; only a day
between two of its moments keeps it from being transitive.
-/

namespace Formula

open Calendar

namespace Value

/-! ### What a comparison finds -/

/-- Null before everything else, and numbers, texts and stamps as their own order has them. -/
inductive Ranked : Value → Value → Ordering → Prop where
  | nulls : Ranked .null .null .eq
  | nullFirst {b : Value} (other : b ≠ .null) : Ranked .null b .lt
  | nullLast {a : Value} (other : a ≠ .null) : Ranked a .null .gt
  | numbers (x y : Number) : Ranked (.number x) (.number y) ((x.compare? y).getD .eq)
  | texts (s t : Text) : Ranked (.text s) (.text t) (Ord.compare s t)
  | dates {s t : Stamp} {order : Ordering} (comparable : s.compare? t = some order) :
      Ranked (.date s) (.date t) order

theorem compare_eq_ok_iff {a b : Value} {order : Ordering} :
    a.compare b = .ok order ↔ Ranked a b order := by
  constructor
  · intro found
    unfold compare at found
    split at found
    · cases found
      exact .nulls
    · rename_i other
      cases found
      exact .nullFirst other
    · rename_i other
      cases found
      exact .nullLast other
    · cases found
      exact .numbers _ _
    · cases found
      exact .texts _ _
    · split at found
      · rename_i comparable
        cases found
        exact .dates comparable
      · cases found
    · cases found
  · intro ranked
    cases ranked with
    | nulls => rfl
    | nullFirst other => cases b <;> first | rfl | exact absurd rfl other
    | nullLast other => cases a <;> first | rfl | exact absurd rfl other
    | numbers x y => rfl
    | texts s t => rfl
    | dates comparable => simp only [compare, comparable]

theorem Ranked.swap {a b : Value} {order : Ordering} (ranked : Ranked a b order) :
    Ranked b a order.swap := by
  cases ranked with
  | nulls => exact .nulls
  | nullFirst other => exact .nullLast other
  | nullLast other => exact .nullFirst other
  | numbers x y =>
      have swapped : ((x.compare? y).getD .eq).swap = (y.compare? x).getD .eq := by
        rw [Number.compare?_swap x y]
        cases x.compare? y <;> rfl
      exact swapped ▸ .numbers y x
  | texts s t =>
      have swapped : (Ord.compare s t).swap = Ord.compare t s := Std.OrientedOrd.eq_swap.symm
      exact swapped ▸ .texts t s
  | dates comparable =>
      refine .dates ?_
      rw [Stamp.compare?_swap, comparable]
      rfl

/-- Two moments of different zones, of which one is of a doubtful reading. -/
def Disputed : Value → Value → Prop
  | .date s, .date t => s.Disputed t
  | _, _ => False

/-- Values that have an order are equal exactly if they are level and neither leaves a doubt. -/
theorem Ranked.equals_iff {a b : Value} {order : Ordering} (ranked : Ranked a b order)
    (left : a.isNaN = false) (right : b.isNaN = false) :
    a.equals b = true ↔ order = .eq ∧ ¬ a.Disputed b := by
  have settled (level : a.equals b = true ↔ order = .eq) (settled : ¬ a.Disputed b) :
      a.equals b = true ↔ order = .eq ∧ ¬ a.Disputed b := level.trans (and_iff_left settled).symm
  cases ranked with
  | nulls => exact settled (iff_of_true rfl rfl) not_false
  | nullFirst other =>
      refine settled (iff_of_false ?_ fun level => nomatch level) not_false
      cases b <;> first | exact Bool.false_ne_true | exact absurd rfl other
  | nullLast other =>
      refine settled (iff_of_false ?_ fun level => nomatch level) (by cases a <;> exact not_false)
      cases a <;> first | exact Bool.false_ne_true | exact absurd rfl other
  | numbers x y =>
      refine settled ?_ not_false
      obtain ⟨v, first⟩ := Number.exists_value left
      obtain ⟨w, second⟩ := Number.exists_value right
      have found := Number.compare?_of_values first second
      rw [equals, Number.equals, found]
      exact (by rfl : _ ↔ _).trans beq_iff_eq
  | texts s t =>
      exact settled (beq_iff_eq.trans Text.compare_eq_iff_eq.symm) not_false
  | dates comparable =>
      rw [equals, Stamp.equals_iff, comparable, Option.some_inj]
      exact Iff.rfl

theorem compare_swap {a b : Value} {order : Ordering} (found : a.compare b = .ok order) :
    b.compare a = .ok order.swap :=
  compare_eq_ok_iff.mpr (compare_eq_ok_iff.mp found).swap

theorem compare_error {a b : Value} {e : OrderError} (failed : a.compare b = .error e) :
    ∃ e', b.compare a = .error e' := by
  cases found : b.compare a with
  | error e' => exact ⟨e', rfl⟩
  | ok order => exact nomatch failed.symm.trans (compare_swap found)

/-- The operators on values that have an order read it off. -/
theorem evaluate_of_compare {a b : Value} {order : Ordering} (found : a.compare b = .ok order) :
    BinaryOp.less.evaluate a b = .ok (.bool (order == .lt)) ∧
      BinaryOp.greater.evaluate a b = .ok (.bool (order == .gt)) ∧
      BinaryOp.lessOrEqual.evaluate a b = .ok (.bool !(order == .gt)) := by
  have ordered : a.order b = .ok order := by rw [Value.order, found]; rfl
  simp only [BinaryOp.evaluate, ordered]
  exact ⟨rfl, rfl, rfl⟩

/-- Of less, equal and greater no two hold, and none if what is level is not equal. -/
theorem count_outcomes (order : Ordering) (equal : Bool) (level : equal = true → order = .eq) :
    [order == .lt, equal, order == .gt].count true ≤ 1 ∧
      ([order == .lt, equal, order == .gt].count true = 0 ↔ order = .eq ∧ equal = false) := by
  revert level
  cases order <;> cases equal <;> decide

/-- Equality does not depend on the sides, and neither does the order but for its direction. Where
it is there, two values are equal exactly if they are level and not in dispute. One of less, equal
and greater holds and no other, unless a dispute leaves none of them; and at most is the opposite of
greater. -/
theorem compare_agrees_with_equals (a b : Value) :
    (a.Distinct → b.Distinct → a.equals b = b.equals a) ∧
      (∀ order, a.compare b = .ok order → b.compare a = .ok order.swap) ∧
      (∀ e, a.compare b = .error e → ∃ e', b.compare a = .error e') ∧
      ∀ order, a.compare b = .ok order → a.isNaN = false → b.isNaN = false →
        (a.equals b = true ↔ order = .eq ∧ ¬ a.Disputed b) ∧
        ∃ less equal greater : Bool,
          BinaryOp.less.evaluate a b = .ok (.bool less) ∧
          BinaryOp.equal.evaluate a b = .ok (.bool equal) ∧
          BinaryOp.greater.evaluate a b = .ok (.bool greater) ∧
          [less, equal, greater].count true ≤ 1 ∧
          ([less, equal, greater].count true = 0 ↔ order = .eq ∧ a.Disputed b) ∧
          BinaryOp.lessOrEqual.evaluate a b = .ok (.bool !greater) := by
  refine ⟨equals_comm, fun order => compare_swap, fun e => compare_error, ?_⟩
  intro order found leftNumber rightNumber
  have level := (compare_eq_ok_iff.mp found).equals_iff leftNumber rightNumber
  obtain ⟨less, greater, atMost⟩ := evaluate_of_compare found
  obtain ⟨one, none⟩ := count_outcomes order (a.equals b) fun equal => (level.mp equal).1
  refine ⟨level, _, _, _, less, rfl, greater, one, none.trans ?_, atMost⟩
  rw [Bool.eq_false_iff, ne_eq, level]
  exact and_congr_right fun eq => by rw [and_iff_right eq, not_not]

/-- A day is level with the noon of it, and objects that hold one and the other are equal. -/
theorem compare_agrees_with_equals_noon :
    let date : Date := ⟨2024, 1, 15, by decide⟩
    let day : Value := .date (.day date)
    let noon : Value := .date (.moment ⟨date, 43200000000, none, by decide⟩)
    let stay : Value := .object [("from", day), ("to", noon)]
    let visit : Value := .object [("to", day), ("from", noon)]
    (stay.Distinct ∧ visit.Distinct) ∧ stay.equals visit = true ∧ visit.equals stay = true ∧
      day.compare noon = .ok .eq ∧ noon.compare day = .ok .eq ∧ day.equals noon = true := by
  intro date day noon stay visit
  have distinct (first second : Text) (apart : [first, second].Nodup) (s t : Stamp) :
      (object [(first, .date s), (second, .date t)]).Distinct := by
    refine (plain_of_parts (fun fields same => ?_) rfl (fun text same => ?_) ?_).distinct
    · cases same
      exact apart
    · cases same
    · simp only [parts, List.map_cons, List.map_nil, List.forall_mem_cons, plain_date, true_and]
      exact fun part none => absurd none List.not_mem_nil
  have named : stay.Distinct := distinct "from" "to" (by decide) _ _
  have named' : visit.Distinct := distinct "to" "from" (by decide) _ _
  have equal : stay.equals visit = true := by decide +kernel
  have level : day.compare noon = .ok .eq := rfl
  obtain ⟨-, swapped, -, agree⟩ := compare_agrees_with_equals day noon
  have sides := (compare_agrees_with_equals stay visit).1 named named'
  exact ⟨⟨named, named'⟩, equal, sides ▸ equal, level, swapped .eq level,
    (agree .eq level rfl rfl).1.mpr ⟨rfl, not_false⟩⟩

/-- When clocks in New York read half past one for the first time, it is half past five of universal
time. The two moments are level, but not equal. -/
theorem level_not_equal_in_overlap :
    let date : Date := ⟨2024, 11, 3, by decide⟩
    let shown : Value := .date (.moment
      ⟨date, 5400000000, some (.region Region.newYork false), by decide⟩)
    let universal : Value := .date (.moment
      ⟨date, 19800000000, some (.fixed Offset.universal), by decide⟩)
    (shown.isNaN = false ∧ universal.isNaN = false) ∧
      (shown.compare universal = .ok .eq ∧ universal.compare shown = .ok .eq) ∧
      shown.equals universal = false :=
  ⟨⟨rfl, rfl⟩, ⟨compare_eq_ok_iff.mpr (.dates (by decide +kernel)),
    compare_eq_ok_iff.mpr (.dates (by decide +kernel))⟩, by decide +kernel⟩

/-! ### Total preorders -/

def AtMost (a b : Value) : Prop := ∃ order, a.compare b = .ok order ∧ order.isLE = true

/-- The kinds of values that have an order among themselves. -/
inductive OrderClass where
  | numbers
  | texts
  | naiveDates

/-- Null belongs to every class, and what is no number to none. -/
def OrderClass.Has : OrderClass → Value → Prop
  | _, .null => True
  | .numbers, .number x => x.isNaN = false
  | .texts, .text _ => True
  | .naiveDates, .date s => s.IsNaive
  | _, _ => False

/-- Two moments of a day with the day between them. -/
inductive AroundDay : Value → Value → Value → Prop where
  | intro {s t u : Stamp} (around : Stamp.AroundDay s t u) :
      AroundDay (.date s) (.date t) (.date u)

section

variable {kind : OrderClass} {a b c : Value}

theorem isNaN_of_has {x : Number} (member : kind.Has (.number x)) : x.isNaN = false := by
  cases kind <;> first | exact member | exact member.elim

theorem isNaive_of_has {s : Stamp} (member : kind.Has (.date s)) : s.IsNaive := by
  cases kind <;> first | exact member | exact member.elim

theorem null_atMost (b : Value) : AtMost .null b := by
  cases b <;> exact ⟨_, rfl, rfl⟩

theorem atMost_iff : a.AtMost b ↔ ∃ order, Ranked a b order ∧ order.isLE = true := by
  simp only [AtMost, compare_eq_ok_iff]

/-- Any two members of a class have an order. -/
theorem exists_compare (left : kind.Has a) (right : kind.Has b) :
    ∃ order, a.compare b = .ok order := by
  cases a with
  | null =>
      obtain ⟨order, found, -⟩ := null_atMost b
      exact ⟨order, found⟩
  | number x =>
      cases b with
      | null => exact ⟨.gt, rfl⟩
      | number y => exact ⟨_, rfl⟩
      | _ => cases kind <;> first | exact left.elim | exact right.elim
  | text s =>
      cases b with
      | null => exact ⟨.gt, rfl⟩
      | text t => exact ⟨_, rfl⟩
      | _ => cases kind <;> first | exact left.elim | exact right.elim
  | date s =>
      cases b with
      | null => exact ⟨.gt, rfl⟩
      | date t =>
          obtain ⟨order, comparable⟩ :=
            Stamp.exists_compare? (isNaive_of_has left) (isNaive_of_has right)
          exact ⟨order, compare_eq_ok_iff.mpr (.dates comparable)⟩
      | _ => cases kind <;> first | exact left.elim | exact right.elim
  | _ => cases kind <;> exact left.elim

theorem compare_self (member : kind.Has a) : a.compare a = .ok .eq := by
  obtain ⟨order, found⟩ := exists_compare member member
  have level : order = order.swap := by
    rw [← Except.ok.injEq, ← found, compare_swap found]
  cases order with
  | eq => exact found
  | _ => exact nomatch level

theorem atMost_trans_or_aroundDay (first : kind.Has a) (second : kind.Has b) (third : kind.Has c)
    (left : a.AtMost b) (right : b.AtMost c) : a.AtMost c ∨ AroundDay a b c := by
  obtain ⟨order, ranked, le⟩ := atMost_iff.mp left
  obtain ⟨order', ranked', le'⟩ := atMost_iff.mp right
  cases ranked with
  | nulls => exact .inl right
  | nullFirst other => exact .inl (null_atMost c)
  | nullLast other => exact nomatch le
  | numbers x y =>
      cases ranked' with
      | nullLast other => exact nomatch le'
      | numbers y z =>
          obtain ⟨u, hu⟩ := Number.exists_value (isNaN_of_has first)
          obtain ⟨v, hv⟩ := Number.exists_value (isNaN_of_has second)
          obtain ⟨w, hw⟩ := Number.exists_value (isNaN_of_has third)
          have below := (Number.isLE_compare?_iff hu hv).mp le
          have above := (Number.isLE_compare?_iff hv hw).mp le'
          exact .inl ⟨_, rfl, (Number.isLE_compare?_iff hu hw).mpr (below.trans above)⟩
  | texts s t =>
      cases ranked' with
      | nullLast other => exact nomatch le'
      | texts t u => exact .inl ⟨_, rfl, Std.TransOrd.isLE_trans le le'⟩
  | @dates s t order comparable =>
      cases ranked' with
      | nullLast other => exact nomatch le'
      | @dates _ u order' comparable' =>
          refine (Stamp.atMost_trans_or_aroundDay (isNaive_of_has first) (isNaive_of_has second)
            (isNaive_of_has third) ⟨order, comparable, le⟩ ⟨order', comparable', le'⟩).imp ?_ .intro
          rintro ⟨order'', comparable'', le''⟩
          exact atMost_iff.mpr ⟨order'', .dates comparable'', le''⟩

end

/-- Equality is reflexive and symmetric, and transitive but for stamps that clash; the members of
a class all have an order, which is transitive but around a day. -/
theorem transitive_but_around_days {a b c : Value} (first : a.Plain) (second : b.Plain)
    (third : c.Plain) :
    a.equals a = true ∧
      a.equals b = b.equals a ∧
      (a.equals b = true → b.equals c = true → a.equals c = true ∨ Clashes a b c) ∧
      ∀ kind : OrderClass, kind.Has a → kind.Has b → kind.Has c →
        a.compare a = .ok .eq ∧
        (∃ order, a.compare b = .ok order ∧ b.compare a = .ok order.swap) ∧
        (a.AtMost b → b.AtMost c → a.AtMost c ∨ AroundDay a b c) := by
  refine ⟨equals_self first, equals_comm first.distinct second.distinct,
    equals_trans_or_clashes first.distinct second.distinct third.distinct, ?_⟩
  intro kind hasA hasB hasC
  obtain ⟨order, found⟩ := exists_compare hasA hasB
  exact ⟨compare_self hasA, ⟨order, found, compare_swap found⟩,
    atMost_trans_or_aroundDay hasA hasB hasC⟩

/-- A day is no later than its noon, which is no later than the next day. -/
theorem transitive_but_around_days_noon :
    let date : Date := ⟨2024, 1, 15, by decide⟩
    let day : Value := .date (.day date)
    let noon : Value := .date (.moment ⟨date, 43200000000, none, by decide⟩)
    let next : Value := .date (.day ⟨2024, 1, 16, by decide⟩)
    (day.Plain ∧ noon.Plain ∧ next.Plain) ∧ (day.AtMost noon ∧ noon.AtMost next) ∧
      day.equals day = true ∧ (day.AtMost next ∨ AroundDay day noon next) := by
  intro date day noon next
  have plain : day.Plain ∧ noon.Plain ∧ next.Plain := ⟨plain_date _, plain_date _, plain_date _⟩
  have before : day.AtMost noon := ⟨.eq, rfl, rfl⟩
  have after : noon.AtMost next := ⟨.lt, rfl, rfl⟩
  obtain ⟨self, -, -, ordered⟩ := transitive_but_around_days plain.1 plain.2.1 plain.2.2
  obtain ⟨-, -, transitive⟩ := ordered .naiveDates trivial rfl trivial
  exact ⟨plain, ⟨before, after⟩, self, transitive before after⟩

/-- Ten o'clock and noon are both level with their day and not with each other. -/
theorem not_transitive_around_day :
    let date : Date := ⟨2024, 1, 15, by decide⟩
    let ten : Value := .date (.moment ⟨date, 36000000000, none, by decide⟩)
    let day : Value := .date (.day date)
    let noon : Value := .date (.moment ⟨date, 43200000000, none, by decide⟩)
    (ten.Plain ∧ day.Plain ∧ noon.Plain) ∧
      (OrderClass.naiveDates.Has ten ∧ OrderClass.naiveDates.Has day ∧
        OrderClass.naiveDates.Has noon) ∧
      (ten.equals day = true ∧ day.equals noon = true ∧ ten.equals noon = false) ∧
      (noon.AtMost day ∧ day.AtMost ten ∧ ¬ noon.AtMost ten) := by
  intro date ten day noon
  have later : Stamp.compare? (.moment ⟨⟨2024, 1, 15, by decide⟩, 43200000000, none, by decide⟩)
      (.moment ⟨⟨2024, 1, 15, by decide⟩, 36000000000, none, by decide⟩) = some .gt := by
    decide +kernel
  refine ⟨⟨plain_date _, plain_date _, plain_date _⟩, ⟨rfl, trivial, rfl⟩, by decide +kernel,
    ⟨.eq, rfl, rfl⟩, ⟨.eq, rfl, rfl⟩, ?_⟩
  rintro ⟨order, found, le⟩
  obtain rfl := Except.ok.inj ((compare_eq_ok_iff.mpr (.dates later)).symm.trans found)
  exact nomatch le

end Value

end Formula
