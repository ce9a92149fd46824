import Formula.Function.Library.Arrays
import Formula.Proofs.Function.Builtin
import Formula.Proofs.Sorting.Order
import Formula.Proofs.Value.Order

/-!
What `SORT` makes of an array: its items that are not null in their order, level items as they
stood, and the nulls behind them.
-/

namespace Formula

namespace Value

/-- Neither value comes before the other. -/
def isLevel (v w : Value) : Bool := (v.compare w).toOption == some .eq

theorem isLevel_iff {v w : Value} : v.isLevel w = true ↔ v.compare w = .ok .eq :=
  beq_iff_eq.trans toOption_eq_some

theorem isLevel_null_left (w : Value) : Value.null.isLevel w = w.isNull := by
  cases w <;> rfl

theorem isLevel_null_right (v : Value) : v.isLevel .null = v.isNull := by
  cases v <;> rfl

theorem isNull_iff {v : Value} : v.isNull = true ↔ v = .null := by
  cases v <;> simp [isNull]

end Value

namespace Arrays

open Value

/-- The kinds of items that can be sorted. -/
inductive SortClass where
  | numbers
  | texts
  | days
  | naiveMoments

namespace SortClass

/-- Numbers, texts, days, and moments without a distance from universal time. -/
inductive Has : SortClass → Value → Prop where
  | number {x : Number} (known : x.isNaN = false) : Has .numbers (.number x)
  | text (t : Text) : Has .texts (.text t)
  | day (d : Date) : Has .days (.date (.day d))
  | moment {m : Moment} (naive : m.offset = none) : Has .naiveMoments (.date (.moment m))

/-- The class of values in whose order items are sorted. -/
def order : SortClass → OrderClass
  | .numbers => .numbers
  | .texts => .texts
  | .days | .naiveMoments => .naiveDates

def typeName : SortClass → String
  | .numbers => "number"
  | .texts => "string"
  | .days | .naiveMoments => "date"

variable {kind : SortClass} {a b c v : Value}

theorem Has.order_has (member : kind.Has v) : kind.order.Has v := by
  cases member with
  | number known => exact known
  | moment naive => exact naive
  | _ => trivial

theorem Has.typeName_eq (member : kind.Has v) : v.typeName = kind.typeName := by
  cases member <;> rfl

theorem Has.isNull_eq (member : kind.Has v) : v.isNull = false := by
  cases member <;> rfl

/-- Items of one kind are not two moments with a day between them. -/
theorem not_aroundDay (first : kind.Has a) (second : kind.Has b) : ¬ AroundDay a b c := by
  rintro ⟨⟨same⟩⟩
  cases first
  cases second

theorem atMost_trans (first : kind.Has a) (second : kind.Has b) (third : kind.Has c)
    (left : a.AtMost b) (right : b.AtMost c) : a.AtMost c :=
  (atMost_trans_or_aroundDay first.order_has second.order_has third.order_has left right).resolve_right
    (not_aroundDay first second)

theorem atMost_iff_of_compare {order : Ordering} (found : a.compare b = .ok order) :
    a.AtMost b ↔ order.isLE = true := by
  simp [AtMost, found]

theorem atMost_total (first : kind.Has a) (second : kind.Has b) : a.AtMost b ∨ b.AtMost a := by
  obtain ⟨order, found⟩ := exists_compare first.order_has second.order_has
  rw [atMost_iff_of_compare found, atMost_iff_of_compare (compare_swap found)]
  cases order <;> simp

variable {κ : Type} [LinearOrder κ] {key : Value → κ}
  (keys : ∀ a b, kind.Has a → kind.Has b → (key a ≤ key b ↔ a.AtMost b))

include keys in
theorem comparesBy_less : Sorting.ComparesBy kind.Has key less := by
  intro a b first second
  obtain ⟨order, found⟩ := exists_compare first.order_has second.order_has
  have below : key a < key b ↔ order = .lt := by
    rw [← not_le, keys b a second first, atMost_iff_of_compare (compare_swap found)]
    cases order <;> decide
  have same : (order == .lt) = decide (key a < key b) := by
    rw [Bool.eq_iff_iff, beq_iff_eq, decide_eq_true_eq, below]
  rw [less, found, ← same]

include keys in
theorem isLevel_eq (first : kind.Has a) (second : kind.Has b) :
    a.isLevel b = decide (key b = key a) := by
  obtain ⟨order, found⟩ := exists_compare first.order_has second.order_has
  have same : key b = key a ↔ order = .eq := by
    rw [le_antisymm_iff, keys b a second first, keys a b first second, atMost_iff_of_compare found,
      atMost_iff_of_compare (compare_swap found)]
    cases order <;> decide
  rw [Bool.eq_iff_iff, isLevel_iff, decide_eq_true_eq, same, found, Except.ok.injEq]

end SortClass

/-! ### The types of items -/

theorem typeNames_of_same {items : List Value} {name : String}
    (same : ∀ v, v ∈ items → v.typeName = name) : typeNames items = [] ∨ typeNames items = [name] := by
  have names : ∀ seen, seen = [] ∨ seen = [name] →
      ((items.map Value.typeName).foldl
        (fun seen name => if seen.contains name then seen else seen ++ [name]) seen) = [] ∨
      ((items.map Value.typeName).foldl
        (fun seen name => if seen.contains name then seen else seen ++ [name]) seen) = [name] := by
    induction items with
    | nil => exact fun _ seen => seen
    | cons v rest ih =>
        obtain ⟨first, same⟩ := List.forall_mem_cons.mp same
        intro seen known
        rw [List.map_cons, List.foldl_cons, first]
        refine ih same _ (.inr ?_)
        rcases known with rfl | rfl <;> simp
  rcases names [] (.inl rfl) with none | one
  · left
    rw [typeNames, none, List.mergeSort_nil]
  · right
    rw [typeNames, one, List.mergeSort_singleton]

theorem sortable_of_same {items : List Value} {kind : SortClass}
    (same : ∀ v, v ∈ items → kind.Has v) :
    (1 < (typeNames items).length || !(typeNames items).all sortableTypes.contains) = false := by
  rcases typeNames_of_same fun v member => (same v member).typeName_eq with none | one
  · rw [none]
    rfl
  · rw [one]
    cases kind <;> decide

/-! ### Sorting -/

/-- A list of items is in order, in one of the two directions. -/
def InOrder (down : Bool) (items : List Value) : Prop :=
  items.Pairwise fun a b => ∃ order, a.compare b = .ok order ∧
    if down then order.isGE = true else order.isLE = true

section

variable {kind : SortClass} {items : List Value}

/-- Items of one kind are sorted, level ones as they stood. -/
theorem sort_present (down : Bool) (members : ∀ v, v ∈ items → kind.Has v) :
    Returns (fun sorted => sorted.Perm items ∧ InOrder down sorted ∧
      ∀ v, v ∈ items → sorted.filter v.isLevel = items.filter v.isLevel)
      (if down then Sorting.sortDescending less items else Sorting.sort less items) := by
  obtain ⟨κ, _, key, keys⟩ := Sorting.exists_key (P := kind.Has)
    (fun a b => SortClass.atMost_total) (fun a b c => SortClass.atMost_trans)
  have compares := SortClass.comparesBy_less keys
  have level : ∀ sorted, Sorting.SameTies key items sorted →
      ∀ v, v ∈ items → sorted.filter v.isLevel = items.filter v.isLevel := by
    intro sorted ties v member
    have own : ∀ list : List Value, (∀ w, w ∈ list → kind.Has w) →
        list.filter v.isLevel = list.filter fun w => key w = key v := fun list kinds =>
      List.filter_congr fun w among => SortClass.isLevel_eq keys (members v member) (kinds w among)
    rw [own items members, own sorted fun w among => members w (ties.mem_iff.mpr among)]
    exact (ties (key v)).symm
  cases down with
  | false =>
      refine (Sorting.sort_sorts compares members).imp fun sorted sorts => ⟨?_, ?_, ?_⟩
      · exact sorts.ties.perm.symm
      · refine sorts.ascending.sorted.imp_of_mem fun {a b} first second le => ?_
        exact (keys a b (sorts.ascending.members a first) (sorts.ascending.members b second)).mp le
      · exact level sorted sorts.ties
  | true =>
      refine (Sorting.sortDescending_sorts compares members).imp fun sorted sorts => ?_
      obtain ⟨falls, ties⟩ := sorts
      have kinds : ∀ v, v ∈ sorted → kind.Has v := fun v among => members v (ties.mem_iff.mpr among)
      refine ⟨ties.perm.symm, falls.imp_of_mem fun {a b} first second le => ?_, level sorted ties⟩
      obtain ⟨order, found, isLE⟩ := (keys b a (kinds b second) (kinds a first)).mp le
      refine ⟨order.swap, compare_swap found, ?_⟩
      cases order <;> first | rfl | cases isLE

theorem nulls_eq (items : List Value) :
    List.replicate (items.length - (items.filter (!·.isNull)).length) Value.null =
      items.filter (·.isNull) := by
  have parts := List.length_eq_length_filter_add (l := items) (·.isNull)
  rw [eq_comm, List.eq_replicate_iff]
  constructor
  · omega
  · exact fun v member => isNull_iff.mp (List.mem_filter.mp member).2

theorem filter_isLevel_null (items : List Value) :
    items.filter Value.null.isLevel = items.filter (·.isNull) :=
  List.filter_congr fun v _ => isLevel_null_left v

theorem filter_isLevel_present {v : Value} (present : v.isNull = false) (items : List Value) :
    items.filter v.isLevel = (items.filter (!·.isNull)).filter v.isLevel := by
  rw [List.filter_filter]
  refine List.filter_congr fun w _ => ?_
  cases null : w.isNull with
  | false => exact (Bool.and_true _).symm
  | true =>
      rw [isNull_iff.mp null, isLevel_null_right, present]
      rfl

theorem sort_of_returned {sorted : List Value} {down : Bool}
    (kinds : ∀ v, v ∈ items.filter (!·.isNull) → kind.Has v)
    (returned : (if down then Sorting.sortDescending less (items.filter (!·.isNull))
      else Sorting.sort less (items.filter (!·.isNull))) = .ok sorted) :
    sort (.array items) (.bool down) = .ok (.array (sorted ++ items.filter (·.isNull))) := by
  simp only [sort, Value.items?, sortable_of_same kinds, nulls_eq]
  cases down with
  | false =>
      rw [if_neg Bool.false_ne_true] at returned
      exact bind_of_ok returned
  | true =>
      rw [if_pos rfl] at returned
      exact bind_of_ok returned

/-- Items that are level stand as they stood if those that are not null do. -/
theorem filter_isLevel_sorted {sorted : List Value} (kinds : ∀ v, v ∈ sorted → kind.Has v)
    (level : ∀ v, v ∈ items.filter (!·.isNull) →
      sorted.filter v.isLevel = (items.filter (!·.isNull)).filter v.isLevel)
    {v : Value} (member : v ∈ items) (known : v = .null ∨ kind.Has v) :
    (sorted ++ items.filter (·.isNull)).filter v.isLevel = items.filter v.isLevel := by
  rw [List.filter_append]
  rcases known with rfl | own
  · have none : sorted.filter (·.isNull) = [] := by
      rw [List.filter_eq_nil_iff]
      exact fun w among null => Bool.false_ne_true ((kinds w among).isNull_eq.symm.trans null)
    rw [filter_isLevel_null, filter_isLevel_null, filter_isLevel_null, none, List.nil_append,
      List.filter_filter]
    simp only [Bool.and_self]
  · have present := own.isNull_eq
    have none : (items.filter (·.isNull)).filter (!·.isNull) = [] := by simp
    rw [filter_isLevel_present present (items.filter _), none, List.filter_nil, List.append_nil,
      filter_isLevel_present present items]
    exact level v (List.mem_filter.mpr ⟨member, by rw [present]; rfl⟩)

/-- An array of null and items of one kind is sorted in either direction: the items that are not
null are in order at every two places, those that are level stand as they stood, and the nulls are
behind them. Without a direction it is sorted from the least up. -/
theorem sort_of_kind (context : Context) (kind : SortClass) (items : List Value)
    (members : ∀ v, v ∈ items → v = .null ∨ kind.Has v) (down : Bool) :
    sortFunction.call context [.array items] =
      sortFunction.call context [.array items, .bool false] ∧
    ∃ present nulls,
      sortFunction.call context [.array items, .bool down] = .ok (.array (present ++ nulls)) ∧
      (present ++ nulls).Perm items ∧
      ((∀ v, v ∈ present → v ≠ .null) ∧ ∀ v, v ∈ nulls → v = .null) ∧
      InOrder down present ∧
      ∀ v, v ∈ items → (present ++ nulls).filter v.isLevel = items.filter v.isLevel := by
  have kinds : ∀ v, v ∈ items.filter (!·.isNull) → kind.Has v := by
    intro v member
    obtain ⟨among, present⟩ := List.mem_filter.mp member
    refine (members v among).resolve_left ?_
    rintro rfl
    cases present
  obtain ⟨sorted, returned, perm, ordered, level⟩ := sort_present down kinds
  have sortedKinds : ∀ v, v ∈ sorted → kind.Has v := fun v member => kinds v (perm.mem_iff.mp member)
  refine ⟨rfl, sorted, items.filter (·.isNull), ?_, ?_, ⟨?_, ?_⟩, ordered, ?_⟩
  · exact Definition.call_eq_ok_iff.mpr ⟨_, sort_of_returned kinds returned, rfl⟩
  · exact (perm.append_right _).trans
      (List.perm_append_comm.trans (List.filter_append_perm Value.isNull items))
  · rintro v member rfl
    cases sortedKinds _ member
  · exact fun v member => isNull_iff.mp (List.mem_filter.mp member).2
  · exact fun v member => filter_isLevel_sorted sortedKinds level member (members v member)

/-- From the greatest down, one as an integer stays before one as a float. -/
theorem sort_of_kind_ties :
    let context : Context := {
      clock := .ofMoment .universal (.atMidnight ⟨2024, 1, 15, by decide⟩ none) }
    let one : Value := .float (Float.ofBits 0x3FF0000000000000)
    let items : List Value := [.int 1, .null, .int 2, one]
    (∀ v, v ∈ items → v = .null ∨ SortClass.numbers.Has v) ∧
    ∃ present nulls,
      sortFunction.call context [.array items, .bool true] = .ok (.array (present ++ nulls)) ∧
      InOrder true present ∧
      (present ++ nulls).filter (Value.int 1).isLevel = [.int 1, one] := by
  intro context one items
  have members : ∀ v, v ∈ items → v = .null ∨ SortClass.numbers.Has v := by
    simp only [items, List.forall_mem_cons]
    refine ⟨.inr (.number rfl), .inl trivial, .inr (.number rfl), .inr (.number ?_),
      List.forall_mem_nil _⟩
    decide +kernel
  obtain ⟨-, present, nulls, returned, -, -, ordered, level⟩ :=
    sort_of_kind context .numbers items members true
  refine ⟨members, present, nulls, returned, ordered, ?_⟩
  rw [level (.int 1) List.mem_cons_self]
  rfl

end

end Arrays

end Formula
