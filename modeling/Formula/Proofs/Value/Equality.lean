import Formula.Proofs.Calendar.Order
import Formula.Proofs.Number.Order
import Formula.Proofs.Record
import Formula.Value.Basic

/-!
Equality of values as a relation. It is symmetric, and reflexive where nothing inside a value is no
number or foreign. It is transitive but for stamps in the same place that clash.
-/

namespace Formula

namespace Value

/-! ### The parts of a value -/

/-- The items of an array and the fields of an object. -/
def parts : Value → List Value
  | .array items => items
  | .object fields => fields.map Prod.snd
  | _ => []

theorem sizeOf_lt_of_mem_parts {part v : Value} (member : part ∈ v.parts) :
    sizeOf part < sizeOf v := by
  cases v with
  | array items =>
      have smaller : sizeOf part < sizeOf items := List.sizeOf_lt_of_mem member
      rw [array.sizeOf_spec]
      omega
  | object fields =>
      obtain ⟨⟨name, value⟩, entry, rfl⟩ := List.mem_map.mp member
      have smaller := List.sizeOf_lt_of_mem entry
      rw [Prod.mk.sizeOf_spec] at smaller
      rw [object.sizeOf_spec]
      dsimp only
      omega
  | null | bool b | number x | text t | date s | foreign text =>
      exact absurd member List.not_mem_nil

/-- What holds of a value as soon as it holds of its parts holds of every value. -/
theorem parts_induction {motive : Value → Prop}
    (step : ∀ v, (∀ part ∈ v.parts, motive part) → motive v) (v : Value) : motive v :=
  step v fun part member =>
    have _ := sizeOf_lt_of_mem_parts member
    parts_induction step part
termination_by sizeOf v

theorem mem_parts_of_getElem? {items : List Value} {i : Nat} {v : Value}
    (found : items[i]? = some v) : v ∈ (array items).parts :=
  List.mem_of_getElem? found

theorem mem_parts_of_get? {fields : Record Text Value} {name : Text} {v : Value}
    (found : fields.get? name = some v) : v ∈ (object fields).parts :=
  List.mem_map_of_mem (Record.mem_of_get? found)

/-- A value is another one or lies inside it, at any depth. -/
inductive Inside (v : Value) : Value → Prop where
  | self : Inside v v
  | part {part whole : Value} (member : part ∈ whole.parts) (inside : Inside v part) :
      Inside v whole

/-- The fields of every object inside a value are a record, in which no name stands twice. -/
def Distinct (v : Value) : Prop :=
  ∀ fields, Inside (.object fields) v → (Record.keys fields).Nodup

theorem Distinct.part {part v : Value} (distinct : v.Distinct) (member : part ∈ v.parts) :
    part.Distinct :=
  fun fields inside => distinct fields (.part member inside)

/-- A float that is no number. -/
def isNaN : Value → Bool
  | .number x => x.isNaN
  | _ => false

/-- Every object inside a value has distinct names, and nothing inside it is no number or foreign. -/
structure Plain (v : Value) : Prop where
  distinct : v.Distinct
  number : ∀ w, Inside w v → w.isNaN = false
  own : ∀ text, ¬ Inside (.foreign text) v

theorem Plain.part {part v : Value} (plain : v.Plain) (member : part ∈ v.parts) : part.Plain where
  distinct := plain.distinct.part member
  number := fun w inside => plain.number w (.part member inside)
  own := fun text inside => plain.own text (.part member inside)

theorem inside_iff {v w : Value} : Inside v w ↔ v = w ∨ ∃ part ∈ w.parts, Inside v part := by
  constructor
  · intro inside
    cases inside with
    | self => exact .inl rfl
    | part member inside => exact .inr ⟨_, member, inside⟩
  · rintro (rfl | ⟨part, member, inside⟩)
    · exact .self
    · exact .part member inside

theorem plain_of_parts {v : Value}
    (names : ∀ fields, v = .object fields → (Record.keys fields).Nodup)
    (number : v.isNaN = false) (own : ∀ text, v ≠ .foreign text)
    (parts : ∀ part ∈ v.parts, part.Plain) : v.Plain where
  distinct := by
    intro fields inside
    rcases inside_iff.mp inside with same | ⟨part, member, inside⟩
    · exact names fields same.symm
    · exact (parts part member).distinct fields inside
  number := by
    intro w inside
    rcases inside_iff.mp inside with rfl | ⟨part, member, inside⟩
    · exact number
    · exact (parts part member).number w inside
  own := by
    intro text inside
    rcases inside_iff.mp inside with same | ⟨part, member, inside⟩
    · exact own text same.symm
    · exact (parts part member).own text inside

theorem plain_date (s : Stamp) : (date s).Plain :=
  plain_of_parts (fun _ same => nomatch same) rfl (fun _ same => nomatch same)
    fun _ member => absurd member List.not_mem_nil

/-! ### Equality as a relation -/

/-- Leaves are equal as their kinds have it, arrays place by place and objects name by name. -/
inductive Equal : Value → Value → Prop where
  | null : Equal .null .null
  | bool (b : Bool) : Equal (.bool b) (.bool b)
  | number {x y : Number} (equal : x.equals y = true) : Equal (.number x) (.number y)
  | text (t : Text) : Equal (.text t) (.text t)
  | date {s t : Stamp} (equal : s.equals t = true) : Equal (.date s) (.date t)
  | array {as bs : List Value} (length : as.length = bs.length)
      (items : ∀ (i : Nat) (a b : Value), as[i]? = some a → bs[i]? = some b → Equal a b) :
      Equal (.array as) (.array bs)
  | object {as bs : Record Text Value}
      (names : ∀ name, (as.get? name).isSome = (bs.get? name).isSome)
      (fields : ∀ name a b, as.get? name = some a → bs.get? name = some b → Equal a b) :
      Equal (.object as) (.object bs)

theorem equalItems_iff {as bs : List Value} : equalItems as bs = true ↔
    as.length = bs.length ∧
      ∀ (i : Nat) (a b : Value), as[i]? = some a → bs[i]? = some b → a.equals b = true := by
  induction as generalizing bs with
  | nil => cases bs <;> simp [equalItems]
  | cons a as ih =>
      cases bs with
      | nil => simp [equalItems]
      | cons b bs =>
          rw [equalItems, Bool.and_eq_true, ih, List.length_cons, List.length_cons,
            Nat.add_right_cancel_iff]
          constructor
          · rintro ⟨head, length, tail⟩
            refine ⟨length, fun i x y first second => ?_⟩
            cases i with
            | zero =>
                rw [List.getElem?_cons_zero, Option.some_inj] at first second
                rwa [← first, ← second]
            | succ i => exact tail i x y first second
          · rintro ⟨length, each⟩
            exact ⟨each 0 a b rfl rfl, length, fun i => each (i + 1)⟩

theorem equalFields_cons_iff {name : Text} {a : Value} {as bs : Record Text Value} :
    equalFields ((name, a) :: as) bs = true ↔
      (∃ b, bs.get? name = some b ∧ a.equals b = true) ∧ equalFields as bs = true := by
  rw [equalFields, Bool.and_eq_true]
  cases Record.get? name bs <;> simp

theorem equalFields_iff {as bs : Record Text Value} : equalFields as bs = true ↔
    ∀ name a, (name, a) ∈ as → ∃ b, bs.get? name = some b ∧ a.equals b = true := by
  induction as with
  | nil => simp [equalFields]
  | cons entry as ih =>
      rw [equalFields_cons_iff, ih]
      constructor
      · rintro ⟨first, rest⟩ name a member
        rcases List.mem_cons.mp member with rfl | later
        · exact first
        · exact rest name a later
      · intro each
        exact ⟨each _ _ List.mem_cons_self, fun name a later =>
          each name a (List.mem_cons_of_mem _ later)⟩

theorem equals_array_iff {as bs : List Value} : (array as).equals (.array bs) = true ↔
    as.length = bs.length ∧
      ∀ (i : Nat) (a b : Value), as[i]? = some a → bs[i]? = some b → a.equals b = true := by
  rw [equals, equalItems_iff]

theorem equals_object_iff {as bs : Record Text Value} (left : (Record.keys as).Nodup)
    (right : (Record.keys bs).Nodup) : (object as).equals (.object bs) = true ↔
      (∀ name, (as.get? name).isSome = (bs.get? name).isSome) ∧
        ∀ name a b, as.get? name = some a → bs.get? name = some b → a.equals b = true := by
  rw [equals, Bool.and_eq_true, beq_iff_eq, equalFields_iff]
  constructor
  · rintro ⟨length, each⟩
    have held : Record.keys as ⊆ Record.keys bs := by
      intro name member
      obtain ⟨⟨_, a⟩, entry, rfl⟩ := List.mem_map.mp member
      obtain ⟨b, found, -⟩ := each _ a entry
      exact Record.contains_iff.mp (Option.isSome_of_mem found)
    have same := (Record.keys_perm_iff left).mpr ⟨length, held⟩
    refine ⟨fun name => ?_, fun name a b first second => ?_⟩
    · rw [Bool.eq_iff_iff]
      exact Record.contains_iff.trans (same.mem_iff.trans Record.contains_iff.symm)
    · obtain ⟨other, found, equal⟩ := each name a (Record.mem_of_get? first)
      rw [second, Option.some_inj] at found
      rwa [found]
  · rintro ⟨names, each⟩
    have same : (Record.keys as).Perm (Record.keys bs) := by
      rw [List.perm_ext_iff_of_nodup left right]
      intro name
      rw [← Record.contains_iff, ← Record.contains_iff, Record.contains, names]
      rfl
    refine ⟨((Record.keys_perm_iff left).mp same).1, fun name a member => ?_⟩
    have first := Record.get?_of_mem left member
    have held := names name
    rw [first, Option.isSome_some, eq_comm, Option.isSome_iff_exists] at held
    obtain ⟨b, second⟩ := held
    exact ⟨b, second, each name a b first second⟩

/-- The function decides the relation. -/
theorem equals_iff_equal {a b : Value} (left : a.Distinct) (right : b.Distinct) :
    a.equals b = true ↔ Equal a b := by
  induction a using parts_induction generalizing b with
  | step a ih =>
      -- different kinds are neither equal nor related
      cases a with
      | null =>
          cases b with
          | null => exact iff_of_true rfl .null
          | _ => exact iff_of_false Bool.false_ne_true fun equal => nomatch equal
      | bool x =>
          cases b with
          | bool y =>
              refine beq_iff_eq.trans ⟨fun same => same ▸ .bool x, fun equal => ?_⟩
              cases equal
              rfl
          | _ => exact iff_of_false Bool.false_ne_true fun equal => nomatch equal
      | number x =>
          cases b with
          | number y =>
              refine ⟨.number, fun equal => ?_⟩
              cases equal with
              | number equal => exact equal
          | _ => exact iff_of_false Bool.false_ne_true fun equal => nomatch equal
      | text t =>
          cases b with
          | text t' =>
              refine beq_iff_eq.trans ⟨fun same => same ▸ .text t, fun equal => ?_⟩
              cases equal
              rfl
          | _ => exact iff_of_false Bool.false_ne_true fun equal => nomatch equal
      | date s =>
          cases b with
          | date t =>
              refine ⟨.date, fun equal => ?_⟩
              cases equal with
              | date equal => exact equal
          | _ => exact iff_of_false Bool.false_ne_true fun equal => nomatch equal
      | array as =>
          cases b with
          | array bs =>
              have each : ∀ (i : Nat) (a b : Value), as[i]? = some a → bs[i]? = some b →
                  (a.equals b = true ↔ Equal a b) := fun i a b first second =>
                ih a (mem_parts_of_getElem? first) (left.part (mem_parts_of_getElem? first))
                  (right.part (mem_parts_of_getElem? second))
              rw [equals_array_iff]
              constructor
              · rintro ⟨length, items⟩
                exact .array length fun i a b first second =>
                  (each i a b first second).mp (items i a b first second)
              · intro equal
                cases equal with
                | array length items =>
                    exact ⟨length, fun i a b first second =>
                      (each i a b first second).mpr (items i a b first second)⟩
          | _ => exact iff_of_false Bool.false_ne_true fun equal => nomatch equal
      | object as =>
          cases b with
          | object bs =>
              have each : ∀ name a b, Record.get? name as = some a → Record.get? name bs = some b →
                  (a.equals b = true ↔ Equal a b) := fun name a b first second =>
                ih a (mem_parts_of_get? first) (left.part (mem_parts_of_get? first))
                  (right.part (mem_parts_of_get? second))
              rw [equals_object_iff (left as .self) (right bs .self)]
              constructor
              · rintro ⟨names, fields⟩
                exact .object names fun name a b first second =>
                  (each name a b first second).mp (fields name a b first second)
              · intro equal
                cases equal with
                | object names fields =>
                    exact ⟨names, fun name a b first second =>
                      (each name a b first second).mpr (fields name a b first second)⟩
          | _ => exact iff_of_false Bool.false_ne_true fun equal => nomatch equal
      | foreign text =>
          cases b <;> exact iff_of_false Bool.false_ne_true fun equal => nomatch equal

namespace Equal

variable {a b c : Value}

theorem refl (plain : a.Plain) : Equal a a := by
  induction a using parts_induction with
  | step a ih =>
      cases a with
      | null => exact .null
      | bool x => exact .bool x
      | number x => exact .number (Number.equals_self (plain.number _ .self))
      | text t => exact .text t
      | date s => exact .date (Stamp.equals_self s)
      | array items =>
          refine .array rfl fun i v w first second => ?_
          obtain rfl := Option.some_inj.mp (first.symm.trans second)
          have inside := mem_parts_of_getElem? first
          exact ih v inside (plain.part inside)
      | object fields =>
          refine .object (fun _ => rfl) fun name v w first second => ?_
          obtain rfl := Option.some_inj.mp (first.symm.trans second)
          have inside := mem_parts_of_get? first
          exact ih v inside (plain.part inside)
      | foreign text => exact absurd .self (plain.own text)

theorem symm (equal : Equal a b) : Equal b a := by
  induction equal with
  | null => exact .null
  | bool x => exact .bool x
  | number equal => exact .number (Number.equals_comm _ _ ▸ equal)
  | text t => exact .text t
  | date equal => exact .date (Stamp.equals_comm _ _ ▸ equal)
  | array length items ih =>
      exact .array length.symm fun i b a first second => ih i a b second first
  | object names fields ih =>
      exact .object (fun name => (names name).symm) fun name b a first second =>
        ih name a b second first

end Equal

theorem equals_comm {a b : Value} (left : a.Distinct) (right : b.Distinct) :
    a.equals b = b.equals a := by
  rw [Bool.eq_iff_iff, equals_iff_equal left right, equals_iff_equal right left]
  exact ⟨.symm, .symm⟩

theorem equals_self {a : Value} (plain : a.Plain) : a.equals a = true :=
  (equals_iff_equal plain.distinct plain.distinct).mpr (.refl plain)

/-! ### Transitivity -/

/-- In the same place inside three values stand stamps that clash. -/
inductive Clashes : Value → Value → Value → Prop where
  | dates {s t u : Stamp} (clash : Stamp.Clash s t u) : Clashes (.date s) (.date t) (.date u)
  | items {as bs cs : List Value} {i : Nat} {a b c : Value} (first : as[i]? = some a)
      (second : bs[i]? = some b) (third : cs[i]? = some c) (inside : Clashes a b c) :
      Clashes (.array as) (.array bs) (.array cs)
  | fields {as bs cs : Record Text Value} {name : Text} {a b c : Value}
      (first : as.get? name = some a) (second : bs.get? name = some b)
      (third : cs.get? name = some c) (inside : Clashes a b c) :
      Clashes (.object as) (.object bs) (.object cs)

theorem Equal.trans_or_clashes {a b c : Value} (left : Equal a b) (right : Equal b c) :
    Equal a c ∨ Clashes a b c := by
  rw [or_iff_not_imp_right]
  intro fits
  induction left generalizing c with
  | null => exact right
  | bool x => exact right
  | text t => exact right
  | number first =>
      cases right with
      | number second => exact .number (Number.equals_trans first second)
  | date first =>
      cases right with
      | date second =>
          exact .date ((Stamp.equals_trans_or_clash first second).resolve_right
            fun clash => fits (.dates clash))
  | @array as bs length items ih =>
      cases right with
      | @array _ cs length' items' =>
          refine .array (length.trans length') fun i a c first third => ?_
          have held : i < bs.length := length ▸ (List.getElem?_eq_some_iff.mp first).1
          have second := List.getElem?_eq_getElem held
          exact ih i a bs[i] first second (items' i _ c second third)
            fun inside => fits (.items first second third inside)
  | @object as bs names fields ih =>
      cases right with
      | @object _ cs names' fields' =>
          refine .object (fun name => (names name).trans (names' name))
            fun name a c first third => ?_
          have held := names name
          rw [first, Option.isSome_some, eq_comm, Option.isSome_iff_exists] at held
          obtain ⟨b, second⟩ := held
          exact ih name a b first second (fields' name b c second third)
            fun inside => fits (.fields first second third inside)

theorem equals_trans_or_clashes {a b c : Value} (first : a.Distinct) (second : b.Distinct)
    (third : c.Distinct) (left : a.equals b = true) (right : b.equals c = true) :
    a.equals c = true ∨ Clashes a b c := by
  rw [equals_iff_equal first third]
  exact Equal.trans_or_clashes ((equals_iff_equal first second).mp left)
    ((equals_iff_equal second third).mp right)

end Value

end Formula
