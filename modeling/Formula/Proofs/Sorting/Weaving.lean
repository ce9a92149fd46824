import Formula.Proofs.Sorting
import Mathlib.Data.List.Count
import Mathlib.Order.Defs.LinearOrder

/-!
How a merge weaves two runs into one: it takes from each of them, at every step, what goes before
all that the other one still has. Elements of one key keep their order by that.
-/

namespace Formula.Sorting

variable {α ε κ : Type} [LinearOrder κ] {key : α → κ} {less : α → α → Except ε Bool}
  {passes : α → Except ε Bool} {test : α → Bool}

/-! ### Searching -/

/-- The elements of the front pass a test, and those of the back do not. -/
structure Splits (test : α → Bool) (front back : List α) : Prop where
  passing : ∀ x, x ∈ front → test x = true
  failing : ∀ x, x ∈ back → test x = false

theorem exists_splits {xs : List α} (falls : xs.Pairwise fun x y => test y = true → test x = true) :
    ∃ front back, xs = front ++ back ∧ Splits test front back := by
  induction xs with
  | nil => exact ⟨[], [], rfl, ⟨List.forall_mem_nil _, List.forall_mem_nil _⟩⟩
  | cons x rest ih =>
      obtain ⟨first, falls⟩ := List.pairwise_cons.mp falls
      cases passed : test x with
      | true =>
          obtain ⟨front, back, rfl, ⟨passing, failing⟩⟩ := ih falls
          exact ⟨x :: front, back, rfl, ⟨List.forall_mem_cons.mpr ⟨passed, passing⟩, failing⟩⟩
      | false =>
          refine ⟨[], x :: rest, rfl, ⟨List.forall_mem_nil _, ?_⟩⟩
          refine List.forall_mem_cons.mpr ⟨passed, fun y member => ?_⟩
          rw [Bool.eq_false_iff]
          intro later
          rw [first y member later] at passed
          cases passed

variable {front back : List α}

theorem Splits.passes_getElem (splits : Splits test front back)
    (tests : ∀ x, x ∈ front ++ back → passes x = .ok (test x)) {index : Nat} {x : α}
    (found : (front ++ back)[index]? = some x) :
    passes x = .ok (decide (index < front.length)) := by
  rw [tests x (List.mem_of_getElem? found)]
  by_cases inside : index < front.length
  · rw [List.getElem?_append_left inside] at found
    rw [splits.passing x (List.mem_of_getElem? found), decide_eq_true inside]
  · rw [List.getElem?_append_right (Nat.le_of_not_lt inside)] at found
    rw [splits.failing x (List.mem_of_getElem? found), decide_eq_false inside]

theorem Splits.search (splits : Splits test front back)
    (tests : ∀ x, x ∈ front ++ back → passes x = .ok (test x)) (side : Side) {low high : Nat}
    (lower : low ≤ front.length) (upper : front.length ≤ high)
    (within : high ≤ (front ++ back).length) :
    search side passes (front ++ back) low high = .ok front.length := by
  fun_induction Sorting.search side passes (front ++ back) low high with
  | case1 low high inside none =>
      have := middle_within side inside
      rw [List.getElem?_eq_none_iff] at none
      omega
  | case2 low high inside x found above below =>
      have := middle_within side inside
      rw [splits.passes_getElem tests found]
      by_cases passed : middle side low high < front.length
      · rw [decide_eq_true passed]
        exact above passed upper within
      · rw [decide_eq_false passed]
        exact below lower (by omega) (by omega)
  | case3 low high outside =>
      rw [show low = front.length by omega]

theorem Splits.stride (splits : Splits test front back)
    (tests : ∀ x, x ∈ front ++ back → passes x = .ok (test x)) {last : Nat} (next : Nat)
    (passed : last < front.length) :
    Returns (fun span => span.1 < front.length ∧ front.length ≤ span.2 ∧
      span.2 ≤ (front ++ back).length) (stride passes (front ++ back) last next) := by
  fun_induction Sorting.stride passes (front ++ back) last next with
  | case1 last next inside ih =>
      rw [splits.passes_getElem tests (List.getElem?_eq_getElem inside)]
      by_cases further : next < front.length
      · rw [decide_eq_true further]
        exact ih further
      · rw [decide_eq_false further]
        exact returns_ok ⟨passed, Nat.le_of_not_lt further, Nat.le_of_lt inside⟩
  | case2 last next outside =>
      refine returns_ok ⟨passed, ?_, Nat.le_refl _⟩
      rw [List.length_append]
      exact Nat.le_add_right _ _

theorem Splits.stretch (splits : Splits test front back)
    (tests : ∀ x, x ∈ front ++ back → passes x = .ok (test x)) (side : Side) :
    stretch side passes (front ++ back) = .ok front.length := by
  unfold Sorting.stretch
  split
  · rename_i none
    rw [(List.append_eq_nil_iff.mp none).1]
    rfl
  · rename_i x rest first
    have found : (front ++ back)[0]? = some x := by rw [first]; rfl
    rw [splits.passes_getElem tests found]
    by_cases some : 0 < front.length
    · obtain ⟨span, strode, low, high, within⟩ := splits.stride tests 1 some
      rw [decide_eq_true some]
      simp only [bind, Except.bind, if_true, strode]
      exact splits.search tests side low high within
    · rw [decide_eq_false some, Nat.eq_zero_of_not_pos some]
      rfl

theorem stretch_returns {xs : List α} (side : Side)
    (tests : ∀ x, x ∈ xs → passes x = .ok (test x))
    (falls : xs.Pairwise fun x y => test y = true → test x = true) :
    Returns (fun count => ∃ front back, xs = front ++ back ∧ count = front.length ∧
      Splits test front back) (stretch side passes xs) := by
  obtain ⟨front, back, rfl, splits⟩ := exists_splits falls
  exact ⟨_, splits.stretch tests side, front, back, rfl, rfl, splits⟩

/-! ### Elements with one key -/

/-- The elements of each key are the same, in the same order. -/
def SameTies (key : α → κ) (xs ys : List α) : Prop :=
  ∀ k, (xs.filter fun x => key x = k) = ys.filter fun y => key y = k

section

variable {xs ys zs rest : List α} {x : α}

theorem SameTies.refl (xs : List α) : SameTies key xs xs := fun _ => rfl

theorem SameTies.symm (same : SameTies key xs ys) : SameTies key ys xs := fun k => (same k).symm

theorem SameTies.trans (first : SameTies key xs ys) (second : SameTies key ys zs) :
    SameTies key xs zs := fun k => (first k).trans (second k)

theorem SameTies.append {xs' ys' : List α} (first : SameTies key xs ys)
    (second : SameTies key xs' ys') : SameTies key (xs ++ xs') (ys ++ ys') := by
  intro k
  rw [List.filter_append, List.filter_append, first, second]

theorem SameTies.reverse (same : SameTies key xs ys) : SameTies key xs.reverse ys.reverse := by
  intro k
  rw [List.filter_reverse, List.filter_reverse, same]

theorem SameTies.mem_iff (same : SameTies key xs ys) : x ∈ xs ↔ x ∈ ys := by
  have own : ∀ zs : List α, x ∈ zs ↔ x ∈ zs.filter fun y => key y = key x := by simp
  rw [own xs, own ys, same]

theorem SameTies.perm (same : SameTies key xs ys) : xs.Perm ys := by
  classical
  rw [List.perm_iff_count]
  intro x
  have own : ∀ zs : List α, zs.count x = (zs.filter fun y => key y = key x).count x := by
    intro zs
    rw [List.count_filter]
    exact decide_eq_true rfl
  rw [own xs, own ys, same]

/-- An element may go past elements of other keys. -/
theorem sameTies_middle (apart : ∀ y, y ∈ xs → key y ≠ key x) :
    SameTies key (xs ++ x :: rest) (x :: (xs ++ rest)) := by
  intro k
  rw [List.filter_append, List.filter_cons, List.filter_cons, List.filter_append]
  split
  · rename_i own
    have none : (xs.filter fun y => key y = k) = [] := by
      rw [List.filter_eq_nil_iff]
      intro y member
      rw [decide_eq_true_eq, ← of_decide_eq_true own]
      exact apart y member
    rw [none, List.nil_append, List.nil_append]
  · rfl

/-- Elements of different keys may be turned round. -/
theorem sameTies_reverse (apart : xs.Pairwise fun x y => key y ≠ key x) :
    SameTies key xs.reverse xs := by
  induction xs with
  | nil => exact .refl []
  | cons x rest ih =>
      obtain ⟨first, apart⟩ := List.pairwise_cons.mp apart
      rw [List.reverse_cons]
      have past : SameTies key (rest.reverse ++ [x]) (x :: (rest.reverse ++ [])) :=
        sameTies_middle fun y member => first y (List.mem_reverse.mp member)
      rw [List.append_nil] at past
      exact past.trans ((SameTies.refl [x]).append (ih apart))

end

/-! ### Merging -/

/-- A list is merged from two others, each element being taken from the start of one of them when it
goes before all that the other still has. -/
inductive Merges (second : α → α → Bool) : List α → List α → List α → Prop where
  | done : Merges second [] [] []
  | fromFirst {a : α} {as bs merged : List α} (wins : ∀ b, b ∈ bs → second a b = false)
      (rest : Merges second as bs merged) : Merges second (a :: as) bs (a :: merged)
  | fromSecond {b : α} {as bs merged : List α} (wins : ∀ a, a ∈ as → second a b = true)
      (rest : Merges second as bs merged) : Merges second as (b :: bs) (b :: merged)

namespace Merges

variable {second : α → α → Bool} {as bs merged : List α}

theorem firsts (wins : ∀ a, a ∈ front → ∀ b, b ∈ bs → second a b = false)
    (rest : Merges second as bs merged) : Merges second (front ++ as) bs (front ++ merged) := by
  induction front with
  | nil => exact rest
  | cons a others ih =>
      obtain ⟨first, wins⟩ := List.forall_mem_cons.mp wins
      exact .fromFirst first (ih wins)

theorem seconds (wins : ∀ b, b ∈ front → ∀ a, a ∈ as → second a b = true)
    (rest : Merges second as bs merged) : Merges second as (front ++ bs) (front ++ merged) := by
  induction front with
  | nil => exact rest
  | cons b others ih =>
      obtain ⟨first, wins⟩ := List.forall_mem_cons.mp wins
      exact .fromSecond first (ih wins)

theorem left (second : α → α → Bool) (as : List α) : Merges second as [] as := by
  induction as with
  | nil => exact .done
  | cons a as ih => exact .fromFirst (List.forall_mem_nil _) ih

theorem right (second : α → α → Bool) (bs : List α) : Merges second [] bs bs := by
  induction bs with
  | nil => exact .done
  | cons b bs ih => exact .fromSecond (List.forall_mem_nil _) ih

theorem firsts_seconds (wins : ∀ a, a ∈ as → ∀ b, b ∈ bs → second a b = false) :
    Merges second as bs (as ++ bs) := by
  have all := firsts wins (.right second bs)
  rwa [List.append_nil] at all

theorem seconds_firsts (wins : ∀ b, b ∈ bs → ∀ a, a ∈ as → second a b = true) :
    Merges second as bs (bs ++ as) := by
  have all := seconds wins (.left second as)
  rwa [List.append_nil] at all

theorem swap (merges : Merges second as bs merged) :
    Merges (fun b a => !second a b) bs as merged := by
  induction merges with
  | done => exact .done
  | fromFirst wins _ ih => exact .fromSecond (fun b member => by rw [wins b member]; rfl) ih
  | fromSecond wins _ ih => exact .fromFirst (fun a member => by rw [wins a member]; rfl) ih

theorem mem {x : α} (merges : Merges second as bs merged) (member : x ∈ merged) :
    x ∈ as ∨ x ∈ bs := by
  induction merges with
  | done => exact .inl member
  | fromFirst _ _ ih =>
      rcases List.mem_cons.mp member with rfl | later
      · exact .inl List.mem_cons_self
      · exact (ih later).imp_left (List.mem_cons_of_mem _)
  | fromSecond _ _ ih =>
      rcases List.mem_cons.mp member with rfl | later
      · exact .inr List.mem_cons_self
      · exact (ih later).imp_right (List.mem_cons_of_mem _)

theorem pairwise {before : α → α → Prop} (falls : ∀ a b, second a b = true → before b a)
    (rises : ∀ a b, second a b = false → before a b) (merges : Merges second as bs merged)
    (first : as.Pairwise before) (last : bs.Pairwise before) : merged.Pairwise before := by
  induction merges with
  | done => exact .nil
  | fromFirst wins rest ih =>
      obtain ⟨least, first⟩ := List.pairwise_cons.mp first
      refine .cons (fun x member => ?_) (ih first last)
      rcases rest.mem member with own | other
      · exact least x own
      · exact rises _ x (wins x other)
  | fromSecond wins rest ih =>
      obtain ⟨least, last⟩ := List.pairwise_cons.mp last
      refine .cons (fun x member => ?_) (ih first last)
      rcases rest.mem member with other | own
      · exact falls x _ (wins x other)
      · exact least x own

theorem sameTies (apart : ∀ a b, second a b = true → key a ≠ key b)
    (merges : Merges second as bs merged) : SameTies key (as ++ bs) merged := by
  induction merges with
  | done => exact .refl []
  | @fromFirst a as bs merged wins rest ih => exact (SameTies.refl [a]).append ih
  | @fromSecond b as bs merged wins rest ih =>
      exact (sameTies_middle fun a member => apart a b (wins a member)).trans
        ((SameTies.refl [b]).append ih)

end Merges

/-- Two runs can be merged from a side: it is known which element goes first, those behind a first
that is beaten are beaten too, and those before a second that wins win too. The run that is merged
into the other ends with an element that goes behind all of the other. -/
structure Mergeable (side : Side) (less : α → α → Except ε Bool) (second : α → α → Bool)
    (as bs : List α) : Prop where
  takes : ∀ a, a ∈ as → ∀ b, b ∈ bs → takesSecond side less a b = .ok (second a b)
  firsts : as.Pairwise fun a a' => ∀ b, second a b = true → second a' b = true
  seconds : bs.Pairwise fun b b' => ∀ a, second a b' = true → second a b = true
  front : side = .front → ∀ others a, as = others ++ [a] → ∀ b, b ∈ bs → second a b = true
  back : side = .back → ∀ others b, bs = others ++ [b] → ∀ a, a ∈ as → second a b = false

section

variable {side : Side} {second : α → α → Bool} {as bs as' bs' : List α} {a b : α}

theorem Mergeable.suffix (mergeable : Mergeable side less second as bs) (first : as' <:+ as)
    (last : bs' <:+ bs) : Mergeable side less second as' bs' := by
  refine ⟨?_, mergeable.firsts.sublist first.sublist, mergeable.seconds.sublist last.sublist,
    ?_, ?_⟩
  · intro a member b member'
    exact mergeable.takes a (first.mem member) b (last.mem member')
  · rintro front others a rfl b member
    obtain ⟨dropped, rfl⟩ := first
    exact mergeable.front front (dropped ++ others) a (List.append_assoc ..).symm b
      (last.mem member)
  · rintro back others b rfl a member
    obtain ⟨dropped, rfl⟩ := last
    exact mergeable.back back (dropped ++ others) b (List.append_assoc ..).symm a
      (first.mem member)

theorem Mergeable.firsts_lose (mergeable : Mergeable side less second (a :: as) bs)
    (wins : second a b = true) : ∀ a', a' ∈ a :: as → second a' b = true :=
  List.forall_mem_cons.mpr
    ⟨wins, fun a' later => (List.pairwise_cons.mp mergeable.firsts).1 a' later b wins⟩

theorem Mergeable.seconds_lose (mergeable : Mergeable side less second as (b :: bs))
    (wins : second a b = false) : ∀ b', b' ∈ b :: bs → second a b' = false := by
  refine List.forall_mem_cons.mpr ⟨wins, fun b' later => ?_⟩
  rw [Bool.eq_false_iff] at wins ⊢
  exact fun loses => wins ((List.pairwise_cons.mp mergeable.seconds).1 b' later a loses)

theorem Mergeable.remainder {rest : List α} (mergeable : Mergeable side less second as bs)
    (ended : remainder? side as bs = some rest) : Merges second as bs rest := by
  unfold remainder? at ended
  split at ended
  · cases ended
    exact .right second _
  · cases ended
    exact .left second _
  · rename_i a as b bs
    split at ended
    · rename_i last
      cases ended
      obtain rfl := List.isEmpty_iff.mp last.2
      refine .seconds_firsts fun b' member a' own => ?_
      rw [List.mem_singleton.mp own]
      exact mergeable.front last.1 [] a rfl b' member
    · split at ended
      · rename_i last
        cases ended
        obtain rfl := List.isEmpty_iff.mp last.2
        refine .firsts_seconds fun a' member b' own => ?_
        rw [List.mem_singleton.mp own]
        exact mergeable.back last.1 [] b rfl a' member
      · cases ended

theorem mergeAt_merges (patience : Nat) (pace : Pace)
    (mergeable : Mergeable side less second as bs) :
    Returns (fun merged => Merges second as bs merged.1)
      (mergeAt side less patience pace as bs) := by
  fun_induction mergeAt side less patience pace as bs with
  | case1 patience pace a as b bs left first others next apart fromSecond fromFirst =>
      simp only [apart, next]
      rw [mergeable.takes a List.mem_cons_self b List.mem_cons_self]
      cases wins : second a b with
      | true =>
          have rest := mergeable.suffix (List.suffix_refl _) (List.suffix_cons b bs)
          refine (fromSecond rest).bind fun merged merges => returns_ok ?_
          exact .fromSecond (mergeable.firsts_lose wins) merges
      | false =>
          have rest := mergeable.suffix (List.suffix_cons a as) (List.suffix_refl _)
          refine (fromFirst rest).bind fun merged merges => returns_ok ?_
          exact .fromFirst (mergeable.seconds_lose wins) merges
  | case2 patience pace a as b bs left first next apart ih =>
      simp only [apart, next]
      refine (stretch_returns side (mergeable.takes a List.mem_cons_self)
        (mergeable.seconds.imp fun falls => falls a)).bind fun count found => ?_
      obtain ⟨front, back, split, rfl, splits⟩ := found
      have rest := mergeable.suffix (List.suffix_cons a as) (List.drop_suffix front.length _)
      refine (ih _ rest).bind fun merged merges => returns_ok ?_
      have wins : ∀ b', b' ∈ front → ∀ a', a' ∈ a :: as → second a' b' = true :=
        fun b' member => mergeable.firsts_lose (splits.passing b' member)
      rw [split, List.drop_left] at merges
      rw [prepend, split, List.take_left, List.append_assoc]
      exact .seconds wins (.fromFirst splits.failing merges)
  | case3 patience pace a as b bs left paced notSingle notSecond next apart ih =>
      simp only [apart, next]
      have takes : ∀ x, x ∈ a :: as →
          (takesSecond side less x b).map (!·) = .ok (!second x b) := by
        intro x member
        rw [mergeable.takes x member b List.mem_cons_self]
        rfl
      have falls : (a :: as).Pairwise fun x y => (!second y b) = true → (!second x b) = true := by
        refine mergeable.firsts.imp fun beaten => ?_
        simp only [Bool.not_eq_true', Bool.eq_false_iff]
        exact mt (beaten b)
      refine (stretch_returns side takes falls).bind fun count found => ?_
      obtain ⟨front, back, split, rfl, splits⟩ := found
      have rest := mergeable.suffix (List.drop_suffix front.length _) (List.suffix_cons b bs)
      refine (ih _ rest).bind fun merged merges => returns_ok ?_
      have wins : ∀ a', a' ∈ front → ∀ b', b' ∈ b :: bs → second a' b' = false :=
        fun a' member => mergeable.seconds_lose (by simpa using splits.passing a' member)
      have loses : ∀ a', a' ∈ back → second a' b = true :=
        fun a' member => by simpa using splits.failing a' member
      rw [split, List.drop_left] at merges
      rw [prepend, split, List.take_left, List.append_assoc]
      exact .firsts wins (.fromSecond loses merges)
  | case4 patience pace as bs rest ended =>
      simp only [ended]
      exact returns_ok (mergeable.remainder ended)
  | case5 patience pace as bs apart ended =>
      simp only [ended]
      apply returns_ok
      cases as with
      | nil => exact .right second bs
      | cons a as =>
          cases bs with
          | nil =>
              rw [List.append_nil]
              exact .left second _
          | cons b bs => exact (apart a as b bs rfl rfl).elim

end

end Formula.Sorting
