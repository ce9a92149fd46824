import Formula.Proofs.Function.Calls
import Formula.Proofs.Value.Order

/-!
Looking up a row of a table that is in order by its first cells: `VLOOKUP` finds the last row that is
not above a value. Whatever else stands in the table is passed over.
-/

namespace Formula.Lookups

open Parameter Value

/-- The first cell of a row, if it has one and it is of a type. -/
def key? (type : String) : Value → Option Value
  | .array (cell :: _) => if cell.typeName = type then some cell else none
  | _ => none

/-- A row whose first cell has the type of a value and is not above it. -/
def Fits (v item : Value) : Prop := ∃ key, key? v.typeName item = some key ∧ key.AtMost v

/-- A text, or a number that is one. -/
inductive Sought : Value → Prop where
  | number {x : Number} (number : x.isNaN = false) : Sought (.number x)
  | text (t : Text) : Sought (.text t)

/-- The keys of a table are in order, and none of them is no number. -/
structure InOrder (type : String) (table : List Value) : Prop where
  numbers : ∀ key ∈ table.filterMap (key? type), key.isNaN = false
  sorted : (table.filterMap (key? type)).IsChain AtMost

variable {v item key cell : Value} {cells : List Value} {table : List Value}
  {found : Option (List Value)}

theorem key?_eq_some_iff {type : String} : key? type item = some key ↔
    ∃ cells, item = .array (key :: cells) ∧ key.typeName = type := by
  constructor
  · intro first
    unfold key? at first
    split at first
    · split at first
      · rename_i same
        cases first
        exact ⟨_, rfl, same⟩
      · cases first
    · cases first
  · rintro ⟨cells, rfl, same⟩
    exact if_pos same

/-! ### The order of keys -/

/-- A value that is sought and all that has its type belong to one class. -/
theorem Sought.exists_class (sought : Sought v) : ∃ kind : OrderClass, kind.Has v ∧
    ∀ w : Value, w.typeName = v.typeName → w.isNaN = false → kind.Has w := by
  cases sought with
  | number number =>
      refine ⟨.numbers, number, fun w same own => ?_⟩
      cases w with
      | number y => exact own
      | _ => simp [typeName] at same
  | text t =>
      refine ⟨.texts, trivial, fun w same _ => ?_⟩
      cases w with
      | text u => trivial
      | _ => simp [typeName] at same

theorem Sought.not_aroundDay (sought : Sought v) (a b : Value) : ¬ AroundDay a b v := by
  rintro ⟨around⟩
  cases sought

theorem Sought.exists_compare (sought : Sought v) (same : key.typeName = v.typeName)
    (number : key.isNaN = false) : ∃ order, key.compare v = .ok order := by
  obtain ⟨kind, has, members⟩ := sought.exists_class
  exact Value.exists_compare (members key same number) has

theorem Sought.atMost_trans (sought : Sought v) {a b : Value} (first : a.typeName = v.typeName)
    (second : b.typeName = v.typeName) (number : a.isNaN = false) (number' : b.isNaN = false)
    (left : a.AtMost b) (right : b.AtMost v) : a.AtMost v := by
  obtain ⟨kind, has, members⟩ := sought.exists_class
  exact (atMost_trans_or_aroundDay (members a first number) (members b second number') has left
    right).resolve_right (sought.not_aroundDay a b)

/-- Where the first of the keys in order is above a value, all of them are. -/
theorem Sought.not_atMost_of_chain (sought : Sought v) {first : Value} {keys : List Value}
    (types : ∀ key ∈ first :: keys, key.typeName = v.typeName)
    (numbers : ∀ key ∈ first :: keys, key.isNaN = false)
    (sorted : (first :: keys).IsChain AtMost) (above : ¬ first.AtMost v) :
    ∀ key ∈ first :: keys, ¬ key.AtMost v := by
  induction keys generalizing first with
  | nil => exact fun key member => List.mem_singleton.mp member ▸ above
  | cons second rest ih =>
      rw [List.forall_mem_cons] at types numbers
      obtain ⟨between, sorted⟩ := List.isChain_cons_cons.mp sorted
      have above' : ¬ second.AtMost v := fun below =>
        above (sought.atMost_trans types.1 (types.2 second List.mem_cons_self) numbers.1
          (numbers.2 second List.mem_cons_self) between below)
      exact List.forall_mem_cons.mpr ⟨above, ih types.2 numbers.2 sorted above'⟩

theorem InOrder.tail (ordered : InOrder v.typeName (item :: table)) :
    InOrder v.typeName table := by
  have behind := (List.suffix_cons item table).filterMap (key? v.typeName)
  exact ⟨fun key member => ordered.numbers key (behind.subset member),
    ordered.sorted.suffix behind⟩

/-- From a row that is above a value on, no row fits it. -/
theorem InOrder.not_fits (ordered : InOrder v.typeName (item :: table)) (sought : Sought v)
    (first : key? v.typeName item = some key) (above : ¬ key.AtMost v) :
    ∀ other ∈ item :: table, ¬ Fits v other := by
  obtain ⟨numbers, sorted⟩ := ordered
  have types : ∀ key ∈ (item :: table).filterMap (key? v.typeName), key.typeName = v.typeName := by
    intro key member
    obtain ⟨other, -, keyed⟩ := List.mem_filterMap.mp member
    obtain ⟨cells, -, same⟩ := key?_eq_some_iff.mp keyed
    exact same
  rintro other member ⟨key', keyed, below⟩
  have among := List.mem_filterMap.mpr ⟨other, member, keyed⟩
  rw [List.filterMap_cons_some first] at numbers sorted types among
  exact sought.not_atMost_of_chain types numbers sorted above key' among below

/-! ### The search -/

theorem rows_cons (cell : Value) (cells table : List Value) :
    rows (.array (cell :: cells) :: table) = (cell, cell :: cells) :: rows table := rfl

/-- A row of another type and whatever is no row make no difference. -/
theorem lastNotAbove_foreign (other : key? v.typeName item = none) :
    lastNotAbove v found (rows (item :: table)) = lastNotAbove v found (rows table) := by
  unfold key? at other
  split at other
  · rename_i cell cells
    split at other
    · cases other
    · rename_i apart
      rw [rows_cons, lastNotAbove, if_pos (bne_iff_ne.mpr apart)]
  · rename_i noRow
    have passed : rows (item :: table) = rows table := by
      refine List.filterMap_cons_none ?_
      split
      · rename_i cell cells
        exact absurd rfl (noRow cell cells)
      · rfl
    rw [passed]

theorem lastNotAbove_key (same : cell.typeName = v.typeName) {order : Ordering}
    (compared : cell.compare v = .ok order) :
    lastNotAbove v found (rows (.array (cell :: cells) :: table)) =
      if order = .gt then .ok found else lastNotAbove v (some (cell :: cells)) (rows table) := by
  rw [rows_cons, lastNotAbove, if_neg (by simp [same]), compared]
  cases order <;> rfl

/-- The last row that fits a value, if there is one, stands before none that fits. -/
theorem lastNotAbove_cases (sought : Sought v) (ordered : InOrder v.typeName table)
    (found : Option (List Value)) :
    (∃ before cells after, table = before ++ .array cells :: after ∧ Fits v (.array cells) ∧
        (∀ item ∈ after, ¬ Fits v item) ∧
        lastNotAbove v found (rows table) = .ok (some cells)) ∨
      (∀ item ∈ table, ¬ Fits v item) ∧ lastNotAbove v found (rows table) = .ok found := by
  induction table generalizing found with
  | nil => exact .inr ⟨nofun, rfl⟩
  | cons item table ih =>
      cases keyed : key? v.typeName item with
      | none =>
          rw [lastNotAbove_foreign keyed]
          rcases ih ordered.tail found with
            ⟨before, cells, after, rfl, fits, last, answer⟩ | ⟨none, answer⟩
          · exact .inl ⟨item :: before, cells, after, rfl, fits, last, answer⟩
          · refine .inr ⟨List.forall_mem_cons.mpr ⟨?_, none⟩, answer⟩
            rintro ⟨key, first, -⟩
            exact nomatch keyed.symm.trans first
      | some key =>
          obtain ⟨cells, rfl, same⟩ := key?_eq_some_iff.mp keyed
          have number := ordered.numbers key
            (List.mem_filterMap.mpr ⟨_, List.mem_cons_self, keyed⟩)
          obtain ⟨order, compared⟩ := sought.exists_compare same number
          rw [lastNotAbove_key same compared]
          split
          · rename_i greater
            refine .inr ⟨ordered.not_fits sought keyed ?_, rfl⟩
            rintro ⟨order', compared', below⟩
            cases compared.symm.trans compared'
            exact absurd below (by rw [greater]; decide)
          · rename_i notGreater
            have fits : Fits v (.array (key :: cells)) :=
              ⟨key, keyed, order, compared, Ordering.isLE_iff_ne_gt.mpr notGreater⟩
            rcases ih ordered.tail (some (key :: cells)) with
              ⟨before, cells', after, rfl, fits', last, answer⟩ | ⟨none, answer⟩
            · exact .inl ⟨_ :: before, cells', after, rfl, fits', last, answer⟩
            · exact .inl ⟨[], key :: cells, table, rfl, fits, none, answer⟩

/-! ### Calls -/

variable {x : Number} {column : Nat} {row : Option (List Value)}

theorem tableLookup_of_row (sought : Sought v) (whole : x.wholeValue? = some (column : Int))
    (positive : 1 ≤ column) (answer : lastNotAbove v none (rows table) = .ok row) :
    tableLookup v (.array table) (.number x) (.bool false) =
      .ok (((row.getD [])[column - 1]?).getD .null) := by
  have other : v.isNull = false := by
    cases sought <;> rfl
  have found : findRow v table (.bool false) = .ok row := by
    rw [← answer]
    show (if v.isNull then _ else _) = _
    rw [if_neg (by simp [other])]
  have index : x.toWhole "column" = .ok column := Number.toWhole_eq_ok_iff.mpr whole
  have place : ((column : Int) - 1).toNat = column - 1 := by omega
  show (x.toWhole "column").mapError CallFailure.fault >>= _ = _
  rw [bind_of_ok (mapError_eq_ok.mpr index), if_neg (by omega), bind_of_ok found, place]
  rfl

theorem call_vlookup (c : Context) (position : Nat) (sought : Sought v)
    (whole : x.wholeValue? = some (column : Int)) (positive : 1 ≤ column)
    (answer : lastNotAbove v none (rows table) = .ok row)
    (inRange : ∀ a, .number a ∈ row.getD [] → a.InRange) :
    Registry.builtin.call c "VLOOKUP" position
        (.ok [v, .array table, .number x, .bool false]) =
      .ok (((row.getD [])[column - 1]?).getD .null) := by
  have member : vlookupFunction ∈ builtinFunctions := by simp [builtinFunctions, functions]
  refine Registry.call_builtin (d := vlookupFunction) member
    (Definition.checkArguments_of_forall₂ rfl
      (.cons (accepts_any rfl v) (.cons (accepts_array rfl table)
        (.cons (accepts_number rfl x) (.cons (accepts_bool rfl false) .nil)))))
    (tableLookup_of_row sought whole positive answer) ?_
  cases taken : (row.getD [])[column - 1]? with
  | none => rfl
  | some cell =>
      exact check_self fun a number => inRange a (number ▸ List.mem_of_getElem? taken)

/-- For every text and every number that is one, finite or not, every column from one on and every
table: if the rows whose first cell has the type of the value are in order by it, and the numbers in
the table are in range, an approximate `VLOOKUP` gives the cell in the column of the last such row
whose first cell is not above the value, null where this row is too short and where there is none.
Other items and rows may stand anywhere in the table. -/
theorem approximate_lookup (c : Context) (position : Nat) (sought : Sought v)
    (whole : x.wholeValue? = some (column : Int)) (positive : 1 ≤ column)
    (inRange : ∀ cells, .array cells ∈ table → ∀ a, .number a ∈ cells → a.InRange)
    (sorted : (table.filterMap (key? v.typeName)).IsChain AtMost) :
    let answer := Registry.builtin.call c "VLOOKUP" position
      (.ok [v, .array table, .number x, .bool false])
    (∃ before cells after, table = before ++ .array cells :: after ∧ Fits v (.array cells) ∧
        (∀ item ∈ after, ¬ Fits v item) ∧ answer = .ok ((cells[column - 1]?).getD .null)) ∨
      (∀ item ∈ table, ¬ Fits v item) ∧ answer = .ok .null := by
  have numbers : ∀ key ∈ table.filterMap (key? v.typeName), key.isNaN = false := by
    intro key member
    obtain ⟨item, within, keyed⟩ := List.mem_filterMap.mp member
    obtain ⟨cells, rfl, -⟩ := key?_eq_some_iff.mp keyed
    cases key with
    | number a => exact (inRange _ within a List.mem_cons_self).isNaN
    | _ => rfl
  rcases lastNotAbove_cases sought ⟨numbers, sorted⟩ none with
    ⟨before, cells, after, rfl, fits, last, found⟩ | ⟨nowhere, missed⟩
  · have within : .array cells ∈ before ++ .array cells :: after :=
      List.mem_append_right before List.mem_cons_self
    exact .inl ⟨before, cells, after, rfl, fits, last,
      call_vlookup c position sought whole positive found (inRange cells within)⟩
  · exact .inr ⟨nowhere, call_vlookup c position sought whole positive missed nofun⟩

theorem approximate_lookup_grades :
    let c : Context := { clock := .ofMoment .universal (.atMidnight ⟨2024, 1, 15, by decide⟩ none) }
    let half : Number := .float (Float.ofBits 0x404E400000000000)
    let table : List Value := [.array [.int 0, .text "F"], .null, .array [.text "Z"],
      .array [.number half, .text "D"], .array [], .array [.int 70], .array [.int 80, .text "B"]]
    let answer := Registry.builtin.call c "VLOOKUP" 0
      (.ok [.int 75, .array table, .int 2, .bool false])
    (table.filterMap (key? "number")).IsChain AtMost ∧
      ((∃ before cells after, table = before ++ .array cells :: after ∧
          Fits (.int 75) (.array cells) ∧ (∀ item ∈ after, ¬ Fits (.int 75) item) ∧
          answer = .ok ((cells[1]?).getD .null)) ∨
        (∀ item ∈ table, ¬ Fits (.int 75) item) ∧ answer = .ok .null) := by
  intro c half table answer
  have sorted : (table.filterMap (key? "number")).IsChain AtMost :=
    .cons_cons ⟨_, rfl, by decide +kernel⟩ (.cons_cons ⟨_, rfl, by decide +kernel⟩
      (.cons_cons ⟨_, rfl, by decide +kernel⟩ (.singleton _)))
  have inRange : ∀ cells, .array cells ∈ table → ∀ a, .number a ∈ cells → a.InRange := by
    simp only [table, List.mem_cons, List.not_mem_nil, Value.array.injEq, reduceCtorEq, or_false,
      false_or]
    rintro cells (rfl | rfl | rfl | rfl | rfl | rfl) a member <;>
      simp only [List.mem_cons, List.not_mem_nil, Value.int, Value.number.injEq, reduceCtorEq,
        or_false] at member <;>
      subst member <;> decide +kernel
  have whole : (Number.int 2).wholeValue? = some ((2 : Nat) : Int) := rfl
  exact ⟨sorted, approximate_lookup c 0 (v := .int 75) (.number rfl) whole (by decide) inRange sorted⟩

end Formula.Lookups
