import Formula.Function.Library
import Formula.Proofs.Sorting.Permutation
import Formula.Proofs.Value.Range

/-!
The built-in functions make values in range of values in range. The only one that does not reads
JSON, whose numbers it brings in as they are written.
-/

namespace Formula

namespace Value

/-- A value that is a number, or all of whose numbers are in range: the result of a function, which
is looked at only if it is a number. -/
def PartsInRange (v : Value) : Prop := v.isNumber = true ∨ v.InRange

theorem partsInRange_number (x : Number) : (Value.number x).PartsInRange := .inl rfl

theorem partsInRange_null : Value.null.PartsInRange := .inr inRange_null

theorem partsInRange_bool (b : Bool) : (Value.bool b).PartsInRange := .inr (inRange_bool b)

theorem partsInRange_text (t : Text) : (Value.text t).PartsInRange := .inr (inRange_text t)

theorem partsInRange_date (s : Stamp) : (Value.date s).PartsInRange := .inr (inRange_date s)

theorem check_parts {v : Value} (parts : v.PartsInRange) : ReturnsOnly InRange v.check := by
  cases v with
  | number x =>
      intro w returned
      obtain ⟨rfl, inRange⟩ := check_number_iff.mp returned
      exact inRange_number.mpr inRange
  | _ => exact returnsOnly_ok (parts.resolve_left Bool.false_ne_true)

theorem items_inRange {v : Value} (inRange : v.InRange) : ∀ item ∈ v.items, item.InRange := by
  cases v with
  | array items => exact inRange_array.mp inRange
  | _ => exact fun item member => nomatch member

end Value

theorem argument_inRange {args : List Value} (inRange : ∀ v ∈ args, v.InRange) (index : Nat) :
    (argument args index).InRange :=
  Value.inRange_getD fun _ found => inRange _ (List.mem_of_getElem? found)

open Value

/-! ### Numbers and texts -/

namespace Math

theorem sum_parts (args : List Value) : ReturnsOnly PartsInRange (sum args) :=
  returnsOnly_bind _ fun _ => returnsOnly_bind _ fun _ => returnsOnly_ok (partsInRange_number _)

theorem average_parts (args : List Value) : ReturnsOnly PartsInRange (average args) := by
  refine returnsOnly_bind _ fun xs => ?_
  split
  · exact returnsOnly_ok (partsInRange_number _)
  · exact returnsOnly_bind _ fun _ => returnsOnly_bind _ fun _ =>
      returnsOnly_ok (partsInRange_number _)

theorem extreme_parts (before : Ordering) (args : List Value) :
    ReturnsOnly PartsInRange (extreme before args) := by
  refine returnsOnly_bind _ fun xs => ?_
  cases xs with
  | nil => exact returnsOnly_ok (partsInRange_number _)
  | cons x xs => exact returnsOnly_ok (partsInRange_number _)

theorem onNumber_parts {f : Number → Except Fault Value}
    (each : ∀ x, ReturnsOnly PartsInRange (f x)) (v : Value) :
    ReturnsOnly PartsInRange (onNumber f v) := by
  unfold onNumber
  split
  · exact each _
  · exact returnsOnly_ok partsInRange_null

theorem absolute_parts (v : Value) : ReturnsOnly PartsInRange (absolute v) :=
  onNumber_parts (fun _ => returnsOnly_ok (partsInRange_number _)) v

theorem round_parts (v digits : Value) : ReturnsOnly PartsInRange (round v digits) := by
  refine onNumber_parts (fun x => ?_) v
  refine returnsOnly_bind _ fun places => returnsOnly_bind _ fun rounded => ?_
  split
  · exact returnsOnly_ok (partsInRange_number _)
  · exact returnsOnly_ok (partsInRange_number _)

theorem floor_parts (v : Value) : ReturnsOnly PartsInRange (floor v) :=
  onNumber_parts (fun _ => returnsOnly_map _ fun _ => partsInRange_number _) v

theorem ceil_parts (v : Value) : ReturnsOnly PartsInRange (ceil v) :=
  onNumber_parts (fun _ => returnsOnly_map _ fun _ => partsInRange_number _) v

theorem power_parts (base exponent : Value) : ReturnsOnly PartsInRange (power base exponent) :=
  onNumber_parts
    (fun _ => onNumber_parts (fun _ => returnsOnly_map _ fun _ => partsInRange_number _) exponent)
    base

theorem squareRoot_parts (v : Value) : ReturnsOnly PartsInRange (squareRoot v) :=
  onNumber_parts (fun _ => returnsOnly_map _ fun _ => partsInRange_number _) v

theorem modulo_parts (dividend divisor : Value) :
    ReturnsOnly PartsInRange (modulo dividend divisor) := by
  refine onNumber_parts (fun y => ?_) divisor
  split
  · exact returnsOnly_error _
  · exact onNumber_parts (fun _ => returnsOnly_map _ fun _ => partsInRange_number _) dividend

theorem sumIf_parts (values conditions wanted : Value) :
    ReturnsOnly PartsInRange (sumIf values conditions wanted) :=
  returnsOnly_bind _ fun _ => returnsOnly_ok (partsInRange_number _)

theorem number_parts (v : Value) : ReturnsOnly PartsInRange (number v) := by
  unfold number
  split
  · exact returnsOnly_ok partsInRange_null
  · exact returnsOnly_ok (partsInRange_number _)
  · exact returnsOnly_ok (partsInRange_number _)
  · dsimp only
    split
    · exact returnsOnly_ok (partsInRange_number _)
    · exact returnsOnly_map _ fun _ => partsInRange_number _
  · exact returnsOnly_error _

end Math

namespace Texts

theorem left_parts (v count : Value) : ReturnsOnly PartsInRange (left v count) :=
  returnsOnly_bind _ fun _ => returnsOnly_bind _ fun _ => returnsOnly_ok (partsInRange_text _)

theorem right_parts (v count : Value) : ReturnsOnly PartsInRange (right v count) :=
  returnsOnly_bind _ fun _ => returnsOnly_bind _ fun _ => returnsOnly_ok (partsInRange_text _)

theorem mid_parts (v start count : Value) : ReturnsOnly PartsInRange (mid v start count) :=
  returnsOnly_bind _ fun _ => returnsOnly_bind _ fun _ => returnsOnly_bind _ fun _ =>
    returnsOnly_ok (partsInRange_text _)

theorem find_parts (needle text start : Value) : ReturnsOnly PartsInRange (find needle text start) :=
  returnsOnly_bind _ fun _ => returnsOnly_bind _ fun _ => returnsOnly_bind _ fun _ =>
    returnsOnly_ok (partsInRange_number _)

theorem replace_parts (v search replacement : Value) :
    ReturnsOnly PartsInRange (replace v search replacement) := by
  refine returnsOnly_bind _ fun t => returnsOnly_bind _ fun r => ?_
  split
  · exact returnsOnly_ok (partsInRange_text _)
  · exact returnsOnly_ok (partsInRange_text _)

theorem split_inRange (v delimiter : Value) : (split v delimiter).InRange := by
  have texts : ∀ {α : Type} (f : α → Text) (xs : List α),
      (Value.array (xs.map fun x => .text (f x))).InRange := by
    intro α f xs
    rw [inRange_array]
    intro item member
    obtain ⟨x, -, rfl⟩ := List.mem_map.mp member
    exact inRange_text _
  unfold split
  split
  · exact texts id []
  · split
    · exact texts _ _
    · exact texts _ _

theorem join_parts (v delimiter : Value) : ReturnsOnly PartsInRange (join v delimiter) := by
  unfold join
  split
  · exact returnsOnly_ok (partsInRange_text _)
  · exact returnsOnly_bind _ fun _ => returnsOnly_ok (partsInRange_text _)

theorem startsWith_parts (v start : Value) : ReturnsOnly PartsInRange (startsWith v start) := by
  unfold startsWith
  split
  · exact returnsOnly_ok (partsInRange_bool _)
  · exact returnsOnly_map _ fun _ => partsInRange_bool _

theorem endsWith_parts (v ending : Value) : ReturnsOnly PartsInRange (endsWith v ending) := by
  unfold endsWith
  split
  · exact returnsOnly_ok (partsInRange_bool _)
  · exact returnsOnly_map _ fun _ => partsInRange_bool _

theorem format_parts (v pattern : Value) : ReturnsOnly PartsInRange (format v pattern) := by
  unfold format
  dsimp only
  split
  · exact returnsOnly_map _ fun _ => partsInRange_text _
  · split
    · exact returnsOnly_map _ fun _ => partsInRange_text _
    · exact returnsOnly_ok (partsInRange_text _)
  · exact returnsOnly_map _ fun _ => partsInRange_text _

end Texts

/-! ### Choices -/

namespace Logic

theorem choose_inRange {condition whenTrue whenFalse : Value} (first : whenTrue.InRange)
    (second : whenFalse.InRange) :
    ReturnsOnly Value.InRange (choose condition whenTrue whenFalse) := by
  refine returnsOnly_bind _ fun b => ?_
  cases b with
  | true => exact returnsOnly_ok first
  | false => exact returnsOnly_ok second

theorem firstTrue_inRange {args : List Value} (inRange : ∀ v ∈ args, v.InRange) :
    ReturnsOnly Value.InRange (firstTrue args) := by
  fun_induction firstTrue args with
  | case1 condition v rest ih =>
      rw [List.forall_mem_cons, List.forall_mem_cons] at inRange
      refine returnsOnly_bind _ fun b => ?_
      cases b with
      | true => exact returnsOnly_ok inRange.2.1
      | false => exact ih inRange.2.2
  | case2 => exact returnsOnly_ok inRange_null

theorem choosePairs_inRange {args : List Value} (inRange : ∀ v ∈ args, v.InRange) :
    ReturnsOnly Value.InRange (choosePairs args) := by
  unfold choosePairs
  split
  · exact returnsOnly_error _
  · exact firstTrue_inRange inRange

theorem switchCases_inRange (v : Value) {cases : List Value} (inRange : ∀ v ∈ cases, v.InRange) :
    (switchCases v cases).InRange := by
  fun_induction switchCases v cases with
  | case1 => exact inRange_null
  | case2 default => exact inRange default List.mem_cons_self
  | case3 case result rest same =>
      exact inRange result (List.mem_cons_of_mem _ List.mem_cons_self)
  | case4 case result rest other ih =>
      exact ih fun v member => inRange v (List.mem_cons_of_mem _ (List.mem_cons_of_mem _ member))

theorem switch_inRange {args : List Value} (inRange : ∀ v ∈ args, v.InRange) :
    (switch args).InRange := by
  cases args with
  | nil => exact inRange_null
  | cons v cases => exact switchCases_inRange v fun w member => inRange w (List.mem_cons_of_mem v member)

theorem coalesce_inRange {args : List Value} (inRange : ∀ v ∈ args, v.InRange) :
    (coalesce args).InRange :=
  inRange_getD fun _ found => inRange _ (List.mem_of_find?_eq_some found)

end Logic

/-! ### Dates -/

namespace Dates

theorem part_parts (f : Stamp → Nat) (v : Value) : ReturnsOnly PartsInRange (part f v) := by
  unfold part
  split
  · exact returnsOnly_ok partsInRange_null
  · exact returnsOnly_map _ fun _ => partsInRange_number _

theorem ofParts_parts (year month day : Value) :
    ReturnsOnly PartsInRange (ofParts year month day) := by
  unfold ofParts
  split
  · exact returnsOnly_bind _ fun _ => returnsOnly_bind _ fun _ => returnsOnly_bind _ fun _ =>
      returnsOnly_bind _ fun _ => returnsOnly_ok (partsInRange_date _)
  · exact returnsOnly_ok partsInRange_null

theorem add_parts (start amount unit : Value) : ReturnsOnly PartsInRange (add start amount unit) := by
  unfold add
  split
  · exact returnsOnly_ok partsInRange_null
  · exact returnsOnly_ok partsInRange_null
  · refine returnsOnly_bind _ fun s => returnsOnly_bind _ fun unit => ?_
    split
    · exact returnsOnly_bind _ fun _ => returnsOnly_ok (partsInRange_date _)
    · exact returnsOnly_bind _ fun _ => returnsOnly_bind _ fun _ =>
        returnsOnly_ok (partsInRange_date _)

theorem difference_parts (start stop unit : Value) :
    ReturnsOnly PartsInRange (difference start stop unit) := by
  unfold difference
  split
  · exact returnsOnly_ok partsInRange_null
  · exact returnsOnly_bind _ fun _ => returnsOnly_bind _ fun _ => returnsOnly_bind _ fun _ =>
      returnsOnly_bind _ fun _ => returnsOnly_ok (partsInRange_number _)

end Dates

/-! ### Arrays and records -/

namespace Arrays

variable {v : Value}

theorem first_inRange (inRange : v.InRange) : (first v).InRange :=
  inRange_getD fun _ found => items_inRange inRange _ (List.mem_of_head? found)

theorem last_inRange (inRange : v.InRange) : (last v).InRange :=
  inRange_getD fun _ found => items_inRange inRange _ (List.mem_of_getLast? found)

theorem index_inRange (inRange : v.InRange) (key : Value) :
    ReturnsOnly Value.InRange (index v key) := by
  unfold index
  split
  · rename_i items x found _
    refine returnsOnly_bind _ fun n => ?_
    have each := items_inRange inRange
    rw [Value.items, found] at each
    split
    · exact returnsOnly_ok (inRange_getD fun _ found => each _ (List.mem_of_getElem? found))
    · exact returnsOnly_ok inRange_null
  · exact returnsOnly_ok inRange_null

theorem length_parts (v : Value) : (length v).PartsInRange := by
  unfold length
  split <;> exact partsInRange_number _

theorem contains_parts (v wanted : Value) : ReturnsOnly PartsInRange (contains v wanted) := by
  unfold contains
  split
  · exact returnsOnly_ok (partsInRange_bool _)
  · exact returnsOnly_bind _ fun _ => returnsOnly_ok (partsInRange_bool _)
  · exact returnsOnly_ok (partsInRange_bool _)

theorem uniqueItems_subset (items : List Value) : uniqueItems items ⊆ items := by
  have kept : ∀ start : List Value,
      items.foldl (fun kept v => if kept.any v.equals then kept else kept ++ [v]) start ⊆
        start ++ items := by
    induction items with
    | nil =>
        intro start
        rw [List.append_nil]
        exact List.Subset.refl start
    | cons v rest ih =>
        intro start w member
        rw [List.foldl_cons] at member
        split at member
        · rcases List.mem_append.mp (ih start member) with before | after
          · exact List.mem_append_left _ before
          · exact List.mem_append_right _ (List.mem_cons_of_mem v after)
        · rw [List.append_cons]
          exact ih _ member
  exact kept []

theorem unique_inRange (inRange : v.InRange) : (unique v).InRange :=
  inRange_array.mpr fun item member => items_inRange inRange item (uniqueItems_subset _ member)

theorem filter_inRange (inRange : v.InRange) (wanted : Value) : (filter v wanted).InRange :=
  inRange_array.mpr fun item member => items_inRange inRange item (List.mem_of_mem_filter member)

theorem sort_inRange (inRange : v.InRange) (descending : Value) :
    ReturnsOnly Value.InRange (sort v descending) := by
  unfold sort
  split
  · exact returnsOnly_ok (inRange_array.mpr fun item member => nomatch member)
  · rename_i items found
    have each := items_inRange inRange
    rw [Value.items, found] at each
    have sorted : ∀ {sorted : List Value} (nulls : Nat),
        sorted.Perm (items.filter (!·.isNull)) →
          (Value.array (sorted ++ List.replicate nulls .null)).InRange := by
      intro sorted nulls perm
      rw [inRange_array, List.forall_mem_append]
      constructor
      · intro item member
        exact each item (List.mem_of_mem_filter (perm.mem_iff.mp member))
      · intro item member
        rw [List.eq_of_mem_replicate member]
        exact inRange_null
    dsimp only
    split
    · exact returnsOnly_error _
    · refine returnsOnly_bind _ fun down => ?_
      split
      · exact (Sorting.sortDescending_perm _).bind fun _ perm => returnsOnly_ok (sorted _ perm)
      · exact (Sorting.sort_perm _).bind fun _ perm => returnsOnly_ok (sorted _ perm)

end Arrays

namespace Lookups

theorem fieldOf_inRange {fields : Record Text Value} (inRange : ∀ entry ∈ fields, entry.2.InRange)
    (name : Value) : (fieldOf fields name).InRange := by
  unfold fieldOf
  cases name.text? with
  | none => exact inRange_null
  | some name => exact inRange_get? inRange

theorem lookup_inRange {c : Context} (inRange : c.InRange) (dataset key wanted result : Value) :
    ReturnsOnly Value.InRange (lookup c dataset key wanted result) := by
  unfold lookup
  split
  · exact returnsOnly_error _
  · rename_i records found
    refine returnsOnly_ok (inRange_getD fun v value => ?_)
    obtain ⟨fields, first, rfl⟩ := Option.map_eq_some_iff.mp value
    obtain ⟨record, member, matched⟩ := List.exists_of_findSome?_eq_some first
    obtain ⟨name, -, found⟩ := Option.bind_eq_some_iff.mp found
    have whole := inRange.datasets _ (Record.mem_of_get? found) record member
    split at matched
    · split at matched
      · cases matched
        exact fieldOf_inRange (inRange_object.mp whole) result
      · cases matched
    · cases matched

theorem rows_inRange {table : List Value} (inRange : ∀ v ∈ table, v.InRange) :
    ∀ row ∈ rows table, ∀ v ∈ row.2, v.InRange := by
  intro row member
  obtain ⟨item, inside, found⟩ := List.mem_filterMap.mp member
  have whole := inRange item inside
  split at found
  · cases found
    exact inRange_array.mp whole
  · cases found

/-- The row that is found, if any, is one of those looked at. -/
theorem lastNotAbove_mem (v : Value) (found : Option (List Value))
    (rows : List (Value × List Value)) :
    ReturnsOnly (fun row => row = found ∨ ∃ entry ∈ rows, row = some entry.2)
      (lastNotAbove v found rows) := by
  fun_induction lastNotAbove v found rows with
  | case1 found => exact returnsOnly_ok (.inl rfl)
  | case2 found cell row rest other ih =>
      refine ih.imp fun result => Or.imp_right ?_
      rintro ⟨entry, member, same⟩
      exact ⟨entry, List.mem_cons_of_mem _ member, same⟩
  | case3 => exact returnsOnly_error _
  | case4 => exact returnsOnly_ok (.inl rfl)
  | case5 found cell row rest same order notAbove compared ih =>
      refine ih.imp fun result => ?_
      rintro (rfl | ⟨entry, member, same⟩)
      · exact .inr ⟨_, List.mem_cons_self, rfl⟩
      · exact .inr ⟨entry, List.mem_cons_of_mem _ member, same⟩

theorem findRow_inRange {table : List Value} (inRange : ∀ v ∈ table, v.InRange) (v exactly : Value) :
    ReturnsOnly (fun row => ∀ w ∈ row.getD [], w.InRange) (findRow v table exactly) := by
  have each := rows_inRange inRange
  have none : ∀ w ∈ (none : Option (List Value)).getD [], w.InRange := fun w member => nomatch member
  refine returnsOnly_bind _ fun isExact => ?_
  split
  · refine returnsOnly_ok ?_
    cases found : (rows table).find? fun row => row.1.equals v with
    | none => exact none
    | some row => exact each row (List.mem_of_find?_eq_some found)
  · split
    · exact returnsOnly_ok none
    · refine (lastNotAbove_mem v _ (rows table)).imp fun row => ?_
      rintro (rfl | ⟨entry, member, rfl⟩)
      · exact none
      · exact each entry member

theorem tableLookup_inRange {table : Value} (inRange : table.InRange) (v column exactly : Value) :
    ReturnsOnly Value.InRange (tableLookup v table column exactly) := by
  unfold tableLookup
  split
  · rename_i items x found _
    have each := items_inRange inRange
    rw [Value.items, found] at each
    refine returnsOnly_bind _ fun index => ?_
    split
    · exact returnsOnly_error _
    · refine (findRow_inRange each v exactly).bind fun row inside => returnsOnly_ok ?_
      exact inRange_getD fun w found => inside w (List.mem_of_getElem? found)
  · exact returnsOnly_ok inRange_null

end Lookups

/-! ### The library -/

namespace Definition

/-- A function makes values in range, in contexts and of arguments in range. -/
def KeepsRange (d : Definition) : Prop :=
  ∀ c args, c.InRange → (∀ v ∈ args, v.InRange) → ReturnsOnly Value.InRange (d.call c args)

theorem call_returns {d : Definition} {c : Context} {args : List Value}
    (parts : ReturnsOnly PartsInRange (d.implementation c args)) :
    ReturnsOnly Value.InRange (d.call c args) := by
  have result : ReturnsOnly Value.InRange (do
      let v ← d.implementation c args
      v.check.mapError .fault) :=
    parts.bind fun v parts => (check_parts parts).mapError _
  unfold call
  dsimp only
  split
  · rename_i v returned
    exact returnsOnly_ok (result v returned)
  all_goals exact returnsOnly_error _

/-- What a function makes does not depend on the range of anything. -/
theorem keepsRange_of_parts {d : Definition}
    (parts : ∀ c args, ReturnsOnly PartsInRange (d.implementation c args)) : d.KeepsRange :=
  fun c args _ _ => call_returns (parts c args)

/-- What a function makes of arguments in range is in range as it is. -/
theorem keepsRange_of_inRange {d : Definition}
    (whole : ∀ c args, c.InRange → (∀ v ∈ args, v.InRange) →
      ReturnsOnly Value.InRange (d.implementation c args)) : d.KeepsRange :=
  fun c args inRange all => call_returns ((whole c args inRange all).imp fun _ => .inr)

theorem keepsRange_math : ∀ d, d ∈ Math.functions → d.KeepsRange := by
  simp only [Math.functions, List.forall_mem_cons]
  refine ⟨?sum, ?average, ?minimum, ?maximum, ?absolute, ?round, ?floor, ?ceil, ?power,
    ?squareRoot, ?modulo, ?count, ?sumIf, ?number, fun _ member => nomatch member⟩
  all_goals refine keepsRange_of_parts fun c args => ?_
  case sum => exact (Math.sum_parts args).mapError _
  case average => exact (Math.average_parts args).mapError _
  case minimum => exact (Math.extreme_parts .lt args).mapError _
  case maximum => exact (Math.extreme_parts .gt args).mapError _
  case absolute => exact (Math.absolute_parts _).mapError _
  case round => exact (Math.round_parts _ _).mapError _
  case floor => exact (Math.floor_parts _).mapError _
  case ceil => exact (Math.ceil_parts _).mapError _
  case power => exact (Math.power_parts _ _).mapError _
  case squareRoot => exact (Math.squareRoot_parts _).mapError _
  case modulo => exact (Math.modulo_parts _ _).mapError _
  case count => exact returnsOnly_ok (partsInRange_number _)
  case sumIf => exact (Math.sumIf_parts _ _ _).mapError _
  case number => exact (Math.number_parts _).mapError _

/-- The functions of texts, but for the one that reads JSON. -/
theorem keepsRange_texts :
    ∀ d, d ∈ Texts.functions → d.KeepsRange ∨ d = Texts.jsonParseFunction := by
  simp only [Texts.functions, List.forall_mem_cons]
  refine ⟨?concat, ?concatenate, ?upper, ?lower, ?trim, ?left, ?right, ?mid, ?length, ?find,
    ?replace, ?split, ?join, ?proper, ?format, ?string, ?startsWith, ?endsWith, .inr trivial,
    ?writeJson, fun _ member => nomatch member⟩
  all_goals refine .inl (keepsRange_of_parts fun c args => ?_)
  case left => exact (Texts.left_parts _ _).mapError _
  case right => exact (Texts.right_parts _ _).mapError _
  case mid => exact (Texts.mid_parts _ _ _).mapError _
  case length => exact (returnsOnly_map _ fun _ => partsInRange_number _).mapError _
  case find => exact (Texts.find_parts _ _ _).mapError _
  case replace => exact (Texts.replace_parts _ _ _).mapError _
  case split => exact returnsOnly_ok (.inr (Texts.split_inRange _ _))
  case join => exact (Texts.join_parts _ _).mapError _
  case format => exact (Texts.format_parts _ _).mapError _
  case startsWith => exact (Texts.startsWith_parts _ _).mapError _
  case endsWith => exact (Texts.endsWith_parts _ _).mapError _
  -- the others write a text, if they can
  all_goals exact (returnsOnly_map _ fun _ => partsInRange_text _).mapError _

theorem keepsRange_logic : ∀ d, d ∈ Logic.functions → d.KeepsRange := by
  simp only [Logic.functions, List.forall_mem_cons]
  refine ⟨?choose, ?choosePairs, ?switch, ?all, ?any, ?not, ?isBlank, ?coalesce, ?truth,
    fun _ member => nomatch member⟩
  case choose =>
    refine keepsRange_of_inRange fun c args _ all => ReturnsOnly.mapError ?_ _
    exact Logic.choose_inRange (argument_inRange all 1) (argument_inRange all 2)
  case choosePairs =>
    exact keepsRange_of_inRange fun c args _ all => (Logic.choosePairs_inRange all).mapError _
  case switch =>
    exact keepsRange_of_inRange fun c args _ all => returnsOnly_ok (Logic.switch_inRange all)
  case coalesce =>
    exact keepsRange_of_inRange fun c args _ all => returnsOnly_ok (Logic.coalesce_inRange all)
  case isBlank => exact keepsRange_of_parts fun c args => returnsOnly_ok (partsInRange_bool _)
  all_goals
    refine keepsRange_of_parts fun c args => ReturnsOnly.mapError ?_ _
    exact returnsOnly_map _ fun _ => partsInRange_bool _

theorem keepsRange_dates : ∀ d, d ∈ Dates.functions → d.KeepsRange := by
  simp only [Dates.functions, List.forall_mem_cons]
  refine ⟨?now, ?today, ?ofParts, ?year, ?month, ?day, ?weekday, ?hour, ?minute, ?add, ?difference,
    fun _ member => nomatch member⟩
  all_goals refine keepsRange_of_parts fun c args => ?_
  case now => exact returnsOnly_ok (partsInRange_date _)
  case today => exact returnsOnly_ok (partsInRange_date _)
  case ofParts => exact (Dates.ofParts_parts _ _ _).mapError _
  case add => exact (Dates.add_parts _ _ _).mapError _
  case difference => exact (Dates.difference_parts _ _ _).mapError _
  all_goals exact (Dates.part_parts _ _).mapError _

theorem keepsRange_arrays : ∀ d, d ∈ Arrays.functions → d.KeepsRange := by
  simp only [Arrays.functions, List.forall_mem_cons]
  refine ⟨?first, ?last, ?index, ?length, ?contains, ?unique, ?sort, ?filter, ?countIf,
    fun _ member => nomatch member⟩
  case length => exact keepsRange_of_parts fun c args => returnsOnly_ok (Arrays.length_parts _)
  case contains =>
    exact keepsRange_of_parts fun c args => (Arrays.contains_parts _ _).mapError _
  case countIf => exact keepsRange_of_parts fun c args => returnsOnly_ok (partsInRange_number _)
  all_goals
    refine keepsRange_of_inRange fun c args _ all => ?_
    have array := argument_inRange all 0
  case first => exact returnsOnly_ok (Arrays.first_inRange array)
  case last => exact returnsOnly_ok (Arrays.last_inRange array)
  case index => exact (Arrays.index_inRange array _).mapError _
  case unique => exact returnsOnly_ok (Arrays.unique_inRange array)
  case sort => exact Arrays.sort_inRange array _
  case filter => exact returnsOnly_ok (Arrays.filter_inRange array _)

theorem keepsRange_lookups : ∀ d, d ∈ Lookups.functions → d.KeepsRange := by
  simp only [Lookups.functions, List.forall_mem_cons]
  refine ⟨?records, ?table, fun _ member => nomatch member⟩
  all_goals refine keepsRange_of_inRange fun c args inRange all => ?_
  case records => exact (Lookups.lookup_inRange inRange _ _ _ _).mapError _
  case table => exact Lookups.tableLookup_inRange (argument_inRange all 1) _ _ _

theorem keepsRange_builtin {d : Definition} (member : d ∈ builtinFunctions) :
    d.KeepsRange ∨ d = Texts.jsonParseFunction := by
  simp only [builtinFunctions, List.mem_append] at member
  rcases member with ((((math | text) | logic) | date) | array) | lookup
  · exact .inl (keepsRange_math d math)
  · exact keepsRange_texts d text
  · exact .inl (keepsRange_logic d logic)
  · exact .inl (keepsRange_dates d date)
  · exact .inl (keepsRange_arrays d array)
  · exact .inl (keepsRange_lookups d lookup)

end Definition

end Formula
