import Formula.Proofs.Sorting.Permutation
import Formula.Proofs.Sorting.Weaving
import Mathlib.Data.List.Basic
import Mathlib.Data.List.Pairwise
import Mathlib.Order.Antisymmetrization
import Mathlib.Order.WithBot

/-!
Where comparisons follow a key of the elements, a sort returns them in the order of their keys, and
elements with one key in the order that they had.
-/

namespace Formula.Sorting

variable {α ε κ : Type} [LinearOrder κ] {P : α → Prop} {key : α → κ}
  {less : α → α → Except ε Bool} {front back : List α}

/-! ### Comparisons by a key -/

/-- Elements of some kind are compared by their keys. -/
def ComparesBy (P : α → Prop) (key : α → κ) (less : α → α → Except ε Bool) : Prop :=
  ∀ a b, P a → P b → less a b = .ok (decide (key a < key b))

/-- Elements that are all comparable, by a relation that is transitive, have keys. -/
theorem exists_key {atMost : α → α → Prop} (total : ∀ a b, P a → P b → atMost a b ∨ atMost b a)
    (trans : ∀ a b c, P a → P b → P c → atMost a b → atMost b c → atMost a c) :
    ∃ (κ : Type) (_ : LinearOrder κ) (key : α → κ),
      ∀ a b, P a → P b → (key a ≤ key b ↔ atMost a b) := by
  classical
  let order : Preorder { a // P a } :=
    { le := fun a b => atMost a.1 b.1
      le_refl := fun a => (total a.1 a.1 a.2 a.2).elim id id
      le_trans := fun a b c => trans a.1 b.1 c.1 a.2 b.2 c.2 }
  have : @Std.Total { a // P a } (· ≤ ·) := ⟨fun a b => total a.1 b.1 a.2 b.2⟩
  let level : { a // P a } → Antisymmetrization { a // P a } (· ≤ ·) := toAntisymmetrization (· ≤ ·)
  refine ⟨WithBot (Antisymmetrization { a // P a } (· ≤ ·)), inferInstance,
    fun a => if member : P a then (level ⟨a, member⟩ : WithBot _) else ⊥, fun a b first last => ?_⟩
  simp only [dif_pos first, dif_pos last, WithBot.coe_le_coe]
  rfl

/-- Elements of some kind in the order of their keys. -/
structure Ascending (P : α → Prop) (key : α → κ) (xs : List α) : Prop where
  members : ∀ x, x ∈ xs → P x
  sorted : xs.Pairwise fun x y => key x ≤ key y

/-- A list in the order of keys has what another one has, elements of one key in their order. -/
structure Sorts (P : α → Prop) (key : α → κ) (xs ys : List α) : Prop where
  ascending : Ascending P key ys
  ties : SameTies key xs ys

section

variable {xs ys middle merged tail as bs others rest : List α} {a b : α}

theorem Ascending.append (first : Ascending P key xs) (last : Ascending P key ys)
    (apart : ∀ x, x ∈ xs → ∀ y, y ∈ ys → key x ≤ key y) : Ascending P key (xs ++ ys) :=
  ⟨List.forall_mem_append.mpr ⟨first.members, last.members⟩,
    List.pairwise_append.mpr ⟨first.sorted, last.sorted, apart⟩⟩

theorem Ascending.left (ascending : Ascending P key (xs ++ ys)) : Ascending P key xs :=
  ⟨(List.forall_mem_append.mp ascending.members).1, (List.pairwise_append.mp ascending.sorted).1⟩

theorem Ascending.right (ascending : Ascending P key (xs ++ ys)) : Ascending P key ys :=
  ⟨(List.forall_mem_append.mp ascending.members).2,
    (List.pairwise_append.mp ascending.sorted).2.1⟩

theorem Ascending.apart (ascending : Ascending P key (xs ++ ys)) :
    ∀ x, x ∈ xs → ∀ y, y ∈ ys → key x ≤ key y :=
  (List.pairwise_append.mp ascending.sorted).2.2

theorem Ascending.head_le (ascending : Ascending P key (b :: rest)) :
    ∀ y, y ∈ b :: rest → key b ≤ key y :=
  List.forall_mem_cons.mpr ⟨le_refl _, (List.pairwise_cons.mp ascending.sorted).1⟩

theorem Ascending.le_last (ascending : Ascending P key (others ++ [a])) :
    ∀ x, x ∈ others ++ [a] → key x ≤ key a :=
  List.forall_mem_append.mpr
    ⟨fun x member => ascending.apart x member a List.mem_cons_self,
      fun _ last => le_of_eq (congrArg key (List.mem_singleton.mp last))⟩

/-- What comes before and behind what is sorted stays where it is. -/
theorem Sorts.between (first : Ascending P key (front ++ back))
    (last : Ascending P key (middle ++ tail)) (sorts : Sorts P key (back ++ middle) merged)
    (before : ∀ x, x ∈ front → ∀ y, y ∈ middle ++ tail → key x ≤ key y)
    (behind : ∀ x, x ∈ back → ∀ y, y ∈ tail → key x ≤ key y) :
    Sorts P key ((front ++ back) ++ (middle ++ tail)) (front ++ merged ++ tail) := by
  obtain ⟨toMiddle, toTail⟩ : (∀ x, x ∈ front → ∀ y, y ∈ middle → key x ≤ key y) ∧
      ∀ x, x ∈ front → ∀ y, y ∈ tail → key x ≤ key y := by
    simpa only [List.forall_mem_append, forall_and] using before
  constructor
  · refine (first.left.append sorts.ascending ?_).append last.right ?_
    · intro x member y sorted
      rcases List.mem_append.mp (sorts.ties.mem_iff.mpr sorted) with own | other
      · exact first.apart x member y own
      · exact toMiddle x member y other
    · refine List.forall_mem_append.mpr ⟨toTail, fun x sorted y member => ?_⟩
      rcases List.mem_append.mp (sorts.ties.mem_iff.mpr sorted) with other | own
      · exact behind x other y member
      · exact last.apart x own y member
  · have ties := ((SameTies.refl front).append sorts.ties).append (.refl tail)
    simpa only [List.append_assoc] using ties

/-! ### Merging runs -/

/-- The second run's element goes first: from the front if it is less, from the back if it is
not. -/
def secondWins (side : Side) (key : α → κ) (a b : α) : Bool :=
  decide (key b < key a) == (side == .front)

@[simp] theorem secondWins_front : secondWins .front key a b = true ↔ key b < key a := by
  simp [secondWins]

@[simp] theorem firstWins_front : secondWins .front key a b = false ↔ key a ≤ key b := by
  rw [Bool.eq_false_iff, ne_eq, secondWins_front, not_lt]

@[simp] theorem secondWins_back : secondWins .back key a b = true ↔ key a ≤ key b := by
  rw [secondWins, show (Side.back == Side.front) = false from rfl]
  simp

@[simp] theorem firstWins_back : secondWins .back key a b = false ↔ key b < key a := by
  rw [Bool.eq_false_iff, ne_eq, secondWins_back, not_le]

theorem ComparesBy.takes (compares : ComparesBy P key less) (side : Side)
    (first : ∀ a, a ∈ as → P a) (last : ∀ b, b ∈ bs → P b) :
    ∀ a, a ∈ as → ∀ b, b ∈ bs → takesSecond side less a b = .ok (secondWins side key a b) := by
  intro a member b member'
  rw [takesSecond, compares b a (last b member') (first a member)]
  rfl

/-- Merges from the front are sorted, and elements of one key have those of the first run first. -/
theorem Merges.sorts_front (merges : Merges (secondWins .front key) as bs merged)
    (first : Ascending P key as) (last : Ascending P key bs) : Sorts P key (as ++ bs) merged := by
  refine ⟨⟨fun x member => ?_, ?_⟩, merges.sameTies fun a b wins => ?_⟩
  · exact (merges.mem member).elim (first.members x) (last.members x)
  · refine merges.pairwise (fun a b wins => ?_) (fun a b wins => ?_) first.sorted last.sorted
    · exact le_of_lt (secondWins_front.mp wins)
    · exact firstWins_front.mp wins
  · exact ne_of_gt (secondWins_front.mp wins)

/-- So are merges from the back, turned round. -/
theorem Merges.sorts_back (merges : Merges (secondWins .back key) as.reverse bs.reverse merged)
    (first : Ascending P key as) (last : Ascending P key bs) :
    Sorts P key (as ++ bs) merged.reverse := by
  refine ⟨⟨fun x member => ?_, List.pairwise_reverse.mpr ?_⟩, ?_⟩
  · rcases merges.mem (List.mem_reverse.mp member) with own | other
    · exact first.members x (List.mem_reverse.mp own)
    · exact last.members x (List.mem_reverse.mp other)
  · refine merges.pairwise (fun a b wins => ?_) (fun a b wins => ?_)
      (List.pairwise_reverse.mpr first.sorted) (List.pairwise_reverse.mpr last.sorted)
    · exact secondWins_back.mp wins
    · exact le_of_lt (firstWins_back.mp wins)
  · -- with the sides exchanged, elements of the second run come first, and so last again
    have ties : SameTies key (bs.reverse ++ as.reverse) merged := merges.swap.sameTies (by
      intro b a wins
      exact ne_of_lt (by simpa using wins))
    rw [← List.reverse_append] at ties
    simpa only [List.reverse_reverse] using ties.reverse

variable (compares : ComparesBy P key less)

include compares

theorem mergeable_front (first : Ascending P key as) (last : Ascending P key bs)
    (greatest : ∀ others a, as = others ++ [a] → ∀ b, b ∈ bs → key b < key a) :
    Mergeable .front less (secondWins .front key) as bs := by
  refine ⟨compares.takes .front first.members last.members, ?_, ?_, ?_, by simp⟩
  · refine first.sorted.imp fun le b => ?_
    simp only [secondWins_front]
    exact fun less => lt_of_lt_of_le less le
  · refine last.sorted.imp fun le a => ?_
    simp only [secondWins_front]
    exact fun less => lt_of_le_of_lt le less
  · simpa only [secondWins_front] using fun _ => greatest

theorem mergeable_back (first : Ascending P key as) (last : Ascending P key bs)
    (least : ∀ b rest, bs = b :: rest → ∀ a, a ∈ as → key b < key a) :
    Mergeable .back less (secondWins .back key) as.reverse bs.reverse := by
  refine ⟨compares.takes .back ?_ ?_, ?_, ?_, by simp, ?_⟩
  · simpa only [List.mem_reverse] using first.members
  · simpa only [List.mem_reverse] using last.members
  · refine (List.pairwise_reverse.mpr first.sorted).imp fun le b => ?_
    simp only [secondWins_back]
    exact le_trans le
  · refine (List.pairwise_reverse.mpr last.sorted).imp fun le a => ?_
    simp only [secondWins_back]
    exact fun below => le_trans below le
  · intro _ others b split a member
    rw [List.reverse_eq_iff, List.reverse_append, List.reverse_singleton] at split
    exact firstWins_back.mpr (least b _ split a (List.mem_reverse.mp member))

theorem mergeOverlap_sorts (patience : Nat) (first : Ascending P key (others ++ [a]))
    (last : Ascending P key (b :: rest)) (least : ∀ x, x ∈ others ++ [a] → key b < key x)
    (greatest : ∀ y, y ∈ b :: rest → key y < key a) :
    Returns (fun merged => Sorts P key ((others ++ [a]) ++ b :: rest) merged.1)
      (mergeOverlap less patience (others ++ [a]) (b :: rest)) := by
  unfold mergeOverlap
  split
  · have mergeable : Mergeable .front less (secondWins .front key) (others ++ [a]) rest := by
      have behind : Ascending P key ([b] ++ rest) := last
      refine mergeable_front compares first behind.right ?_
      intro others' a' split y member
      obtain ⟨-, same⟩ := List.append_inj' split rfl
      rw [← (List.cons.inj same).1]
      exact greatest y (List.mem_cons_of_mem b member)
    refine (mergeAt_merges patience _ mergeable).bind fun merged merges => returns_ok ?_
    refine Merges.sorts_front (.fromSecond (fun x member => ?_) merges) first last
    exact secondWins_front.mpr (least x member)
  · have mergeable : Mergeable .back less (secondWins .back key) others.reverse (b :: rest).reverse := by
      refine mergeable_back compares first.left last ?_
      rintro _ _ ⟨⟩ x member
      exact least x (List.mem_append_left _ member)
    rw [List.reverse_append, List.reverse_singleton, List.singleton_append]
    refine (mergeAt_merges patience _ mergeable).bind fun merged merges => returns_ok ?_
    have all : Merges (secondWins .back key) (others ++ [a]).reverse (b :: rest).reverse
        (a :: merged.1) := by
      rw [List.reverse_append, List.reverse_singleton, List.singleton_append]
      refine .fromFirst (fun y member => ?_) merges
      exact firstWins_back.mpr (greatest y (List.mem_reverse.mp member))
    exact all.sorts_back first last

/-- The first run's elements that stay before the second run. -/
theorem before_returns (ascending : Ascending P key as) (least : P b) :
    Returns (fun count => ∃ front back, as = front ++ back ∧ count = front.length ∧
      (∀ x, x ∈ front → key x ≤ key b) ∧ ∀ x, x ∈ back → key b < key x)
      (stretch .front (fun x => (less b x).map (!·)) as) := by
  have tests : ∀ x, x ∈ as → (less b x).map (!·) = .ok (!decide (key b < key x)) := by
    intro x member
    rw [compares b x least (ascending.members x member)]
    rfl
  refine (stretch_returns .front tests ?_).imp ?_
  · refine ascending.sorted.imp fun le => ?_
    simpa using le_trans le
  · rintro count ⟨front, back, split, length, splits⟩
    refine ⟨front, back, split, length, fun x member => ?_, fun x member => ?_⟩
    · simpa using splits.passing x member
    · simpa using splits.failing x member

/-- The second run's elements that stay behind the first run. -/
theorem behind_returns (ascending : Ascending P key bs) (greatest : P a) :
    Returns (fun count => ∃ middle tail, bs = middle ++ tail ∧ count = tail.length ∧
      (∀ y, y ∈ middle → key y < key a) ∧ ∀ y, y ∈ tail → key a ≤ key y)
      (stretch .back (fun x => (less x a).map (!·)) bs.reverse) := by
  have tests : ∀ x, x ∈ bs.reverse → (less x a).map (!·) = .ok (!decide (key x < key a)) := by
    intro x member
    rw [compares x a (ascending.members x (List.mem_reverse.mp member)) greatest]
    rfl
  refine (stretch_returns .back tests ?_).imp ?_
  · refine (List.pairwise_reverse.mpr ascending.sorted).imp fun le => ?_
    simpa using fun below => le_trans below le
  · rintro count ⟨tail, middle, split, length, splits⟩
    rw [List.reverse_eq_iff, List.reverse_append] at split
    refine ⟨middle.reverse, tail.reverse, split, ?_, fun y member => ?_, fun y member => ?_⟩
    · rw [length, List.length_reverse]
    · simpa using splits.failing y (List.mem_reverse.mp member)
    · simpa using splits.passing y (List.mem_reverse.mp member)

/-- Merging sorts two runs that are sorted. -/
theorem merge_sorts (patience : Nat) (first : Ascending P key as) (last : Ascending P key bs) :
    Returns (fun merged => Sorts P key (as ++ bs) merged.1) (merge less patience as bs) := by
  unfold merge
  split
  · rename_i b a start finish
    obtain ⟨rest, own⟩ := List.head?_eq_some_iff.mp start
    obtain ⟨others, own'⟩ := List.getLast?_eq_some_iff.mp finish
    have least : ∀ y, y ∈ bs → key b ≤ key y := own ▸ (own ▸ last).head_le
    have greatest : ∀ x, x ∈ as → key x ≤ key a := own' ▸ (own' ▸ first).le_last
    refine (before_returns compares first (last.members b (by simp [own]))).bind
      fun before found => ?_
    obtain ⟨front, back, rfl, rfl, low, high⟩ := found
    -- the front stays before the whole second run, and the tail behind the whole first one
    have fromFront : ∀ x, x ∈ front → ∀ y, y ∈ bs → key x ≤ key y :=
      fun x member y member' => le_trans (low x member) (least y member')
    split
    · rename_i whole
      obtain rfl : back = [] := by simpa using whole
      rw [List.append_nil] at first ⊢
      exact returns_ok ⟨first.append last fromFront, .refl _⟩
    rename_i inside
    refine (behind_returns compares last (first.members a (by simp [own']))).bind
      fun behind found => ?_
    obtain ⟨middle, tail, rfl, rfl, low', high'⟩ := found
    have toTail : ∀ x, x ∈ front ++ back → ∀ y, y ∈ tail → key x ≤ key y :=
      fun x member y member' => le_trans (greatest x member) (high' y member')
    split
    · rename_i whole
      obtain rfl : middle = [] := by simpa using whole
      exact returns_ok ⟨first.append last toTail, .refl _⟩
    rename_i inside'
    have inner : (middle ++ tail).length - tail.length = middle.length := by simp
    rw [inner, List.drop_left, List.take_left]
    dsimp only
    rw [List.take_left, List.drop_left]
    have someBack : back ≠ [] := fun none => inside (by simp [none])
    have someMiddle : middle ≠ [] := fun none => inside' (by simp [none])
    rw [List.getLast?_append_of_ne_nil front someBack] at finish
    rw [List.head?_append_of_ne_nil middle someMiddle] at start
    obtain ⟨others', rfl⟩ := List.getLast?_eq_some_iff.mp finish
    obtain ⟨rest', rfl⟩ := List.head?_eq_some_iff.mp start
    refine (mergeOverlap_sorts compares patience first.right last.left high low').bind
      fun merged sorts => returns_ok ?_
    exact sorts.between first last fromFront
      fun x member => toTail x (List.mem_append_right front member)
  · rename_i none
    apply returns_ok
    cases as with
    | nil => exact ⟨last, .refl _⟩
    | cons a as =>
        cases bs with
        | nil =>
            rw [List.append_nil]
            exact ⟨first, .refl _⟩
        | cons b bs => exact (none b _ rfl List.getLast?_cons).elim

end

/-! ### Runs -/

section

instance descending_trans (key : α → κ) : IsTrans α fun x y => key y < key x :=
  ⟨fun _ _ _ first second => lt_trans second first⟩

instance ascending_trans (key : α → κ) : IsTrans α fun x y => key x ≤ key y :=
  ⟨fun _ _ _ => le_trans⟩

variable {xs rest : List α} {x last : α} (compares : ComparesBy P key less)

include compares

theorem descendingRun_descends (first : P last) (members : ∀ x, x ∈ xs → P x) :
    Returns (fun run => (last :: run).Pairwise fun x y => key y < key x)
      (descendingRun less last xs) := by
  induction xs generalizing last with
  | nil => exact returns_ok (List.pairwise_singleton _ last)
  | cons x rest ih =>
      obtain ⟨next, members⟩ := List.forall_mem_cons.mp members
      rw [descendingRun, compares x last next first]
      by_cases descends : key x < key last
      · rw [decide_eq_true descends]
        refine (ih next members).bind fun run falls => returns_ok ?_
        exact List.pairwise_cons_cons_iff_of_trans.mpr ⟨descends, falls⟩
      · rw [decide_eq_false descends]
        exact returns_ok (List.pairwise_singleton _ last)

theorem ascendingRun_ascends (first : P last) (members : ∀ x, x ∈ xs → P x) :
    Returns (fun run => (last :: run).Pairwise fun x y => key x ≤ key y)
      (ascendingRun less last xs) := by
  induction xs generalizing last with
  | nil => exact returns_ok (List.pairwise_singleton _ last)
  | cons x rest ih =>
      obtain ⟨next, members⟩ := List.forall_mem_cons.mp members
      rw [ascendingRun, compares x last next first]
      by_cases descends : key x < key last
      · rw [decide_eq_true descends]
        exact returns_ok (List.pairwise_singleton _ last)
      · rw [decide_eq_false descends]
        have ascends := le_of_not_gt descends
        refine (ih next members).bind fun run rises => returns_ok ?_
        exact List.pairwise_cons_cons_iff_of_trans.mpr ⟨ascends, rises⟩

theorem firstRun_sorts (members : ∀ y, y ∈ x :: rest → P y) :
    Returns (fun run => ∃ front, front <+: x :: rest ∧ Sorts P key front run)
      (firstRun less (x :: rest)) := by
  cases rest with
  | nil =>
      refine returns_ok ⟨[x], List.prefix_refl _, ⟨members, List.pairwise_singleton _ x⟩, .refl _⟩
  | cons y rest =>
      obtain ⟨first, next, others⟩ : P x ∧ P y ∧ ∀ z, z ∈ rest → P z := by
        simpa only [List.forall_mem_cons] using members
      have started : ∀ run, run <+: rest → x :: y :: run <+: x :: y :: rest := fun run start =>
        (List.prefix_cons_inj x).mpr ((List.prefix_cons_inj y).mpr start)
      rw [firstRun, compares y x next first]
      by_cases descends : key y < key x
      · rw [decide_eq_true descends]
        refine ((descendingRun_descends compares next others).and
          (descendingRun_start y rest)).bind fun run found => returns_ok ?_
        obtain ⟨falls, start⟩ := found
        have all : (x :: y :: run).Pairwise fun x y => key y < key x :=
          List.pairwise_cons_cons_iff_of_trans.mpr ⟨descends, falls⟩
        refine ⟨_, started run start, ⟨fun z member => ?_, ?_⟩, ?_⟩
        · exact members z ((started run start).mem (List.mem_reverse.mp member))
        · exact List.pairwise_reverse.mpr (all.imp le_of_lt)
        · exact (sameTies_reverse (all.imp ne_of_lt)).symm
      · rw [decide_eq_false descends]
        have ascends := le_of_not_gt descends
        refine ((ascendingRun_ascends compares next others).and
          (ascendingRun_start y rest)).bind fun run found => returns_ok ?_
        obtain ⟨rises, start⟩ := found
        refine ⟨_, started run start, ⟨fun z member => ?_, ?_⟩, .refl _⟩
        · exact members z ((started run start).mem member)
        · exact List.pairwise_cons_cons_iff_of_trans.mpr ⟨ascends, rises⟩

theorem insert_sorts (ascending : Ascending P key xs) (member : P x) :
    Returns (Sorts P key (xs ++ [x])) (insert less xs x) := by
  have tests : ∀ y, y ∈ xs → (less x y).map (!·) = .ok (!decide (key x < key y)) := by
    intro y among
    rw [compares x y member (ascending.members y among)]
    rfl
  have falls : xs.Pairwise fun y z =>
      (!decide (key x < key z)) = true → (!decide (key x < key y)) = true := by
    refine ascending.sorted.imp fun le => ?_
    simpa using le_trans le
  obtain ⟨front, back, rfl, splits⟩ := exists_splits falls
  have found := splits.search tests .front (Nat.zero_le _) (by simp) (Nat.le_refl _)
  refine (Returns.bind ⟨_, found, rfl⟩ fun index same => returns_ok ?_ :
    Returns (Sorts P key (front ++ back ++ [x])) (insert less (front ++ back) x))
  subst same
  rw [List.take_left, List.drop_left]
  have low : ∀ y, y ∈ front → key y ≤ key x := fun y own => by simpa using splits.passing y own
  have high : ∀ y, y ∈ back → key x < key y := fun y own => by simpa using splits.failing y own
  constructor
  · refine ascending.left.append ⟨?_, .cons ?_ ascending.right.sorted⟩ ?_
    · exact List.forall_mem_cons.mpr ⟨member, ascending.right.members⟩
    · exact fun y own => le_of_lt (high y own)
    · intro y own
      refine List.forall_mem_cons.mpr ⟨low y own, fun z other => ?_⟩
      exact ascending.apart y own z other
  · have past : SameTies key (back ++ x :: []) (x :: (back ++ [])) :=
      sameTies_middle fun y own => ne_of_gt (high y own)
    rw [List.append_nil] at past
    rw [List.append_assoc]
    exact (SameTies.refl front).append past

theorem foldlM_insert_sorts (others run : List α) (ascending : Ascending P key run)
    (members : ∀ x, x ∈ others → P x) :
    Returns (Sorts P key (run ++ others)) (others.foldlM (insert less) run) := by
  induction others generalizing run with
  | nil =>
      rw [List.append_nil]
      exact returns_ok ⟨ascending, .refl run⟩
  | cons x rest ih =>
      obtain ⟨first, members⟩ := List.forall_mem_cons.mp members
      rw [List.foldlM_cons]
      refine (insert_sorts compares ascending first).bind fun longer inserted => ?_
      refine (ih longer inserted.ascending members).imp fun filled sorts => ⟨sorts.ascending, ?_⟩
      rw [List.append_cons]
      exact (inserted.ties.append (.refl rest)).trans sorts.ties

/-- A list is split into runs that are sorted. -/
theorem splitRuns_sorts (minimum : Nat) (members : ∀ x, x ∈ xs → P x) :
    Returns (fun runs => (∀ run, run ∈ runs → Ascending P key run) ∧ SameTies key xs runs.flatten)
      (splitRuns less minimum xs) := by
  fun_induction splitRuns less minimum xs with
  | case1 => exact returns_ok ⟨List.forall_mem_nil _, .refl []⟩
  | case2 x rest ih =>
      refine ((firstRun_sorts compares members).and (firstRun_front x rest)).bind
        fun run found => ?_
      obtain ⟨⟨front, ⟨after, split⟩, first⟩, -, nonempty⟩ := found
      have length : front.length = run.length := first.ties.perm.length_eq
      rw [← split] at members ⊢
      rw [← length, List.drop_left]
      obtain ⟨own, others⟩ := List.forall_mem_append.mp members
      refine (foldlM_insert_sorts compares _ run first.ascending fun y taken =>
        others y (List.mem_of_mem_take taken)).bind fun filled sorts => ?_
      have filledLength := sorts.ties.perm.length_eq
      rw [List.length_append, List.length_take, ← length] at filledLength
      have positive := List.length_pos_iff.mpr nonempty
      -- what the run leaves, less what was inserted into it
      have left : rest.drop (filled.length - 1) =
          after.drop (min (minimum - front.length) after.length) := by
        rw [← List.drop_cons (by omega), ← split, ← filledLength, List.drop_length_add_append]
      refine (ih filled fun y later => others y (List.mem_of_mem_drop (left ▸ later))).bind
        fun runs found => returns_ok ?_
      obtain ⟨sorted, ties⟩ := found
      refine ⟨List.forall_mem_cons.mpr ⟨sorts.ascending, sorted⟩, ?_⟩
      have start := (first.ties.append (.refl _)).trans sorts.ties
      rw [left] at ties
      have all := start.append ties
      rwa [List.append_assoc, take_append_drop_min] at all

end

/-! ### Sorting -/

/-- All runs that wait are sorted. -/
def Waiting (P : α → Prop) (key : α → κ) (runs : List (Run α)) : Prop :=
  ∀ run, run ∈ runs → Ascending P key run.items

section

variable {xs : List α} {earlier later merged : Run α} {runs rest : List (Run α)}

theorem elements_merged_ties (rest : List (Run α))
    (sorts : Sorts P key (earlier.items ++ later.items) merged.items) :
    SameTies key (elements (later :: earlier :: rest)) (elements (merged :: rest)) := by
  rw [elements_cons, elements_cons, elements_cons, List.append_assoc]
  exact (SameTies.refl _).append sorts.ties

variable (compares : ComparesBy P key less)

include compares

theorem run_merge_sorts (patience : Nat) (first : Ascending P key earlier.items)
    (last : Ascending P key later.items) :
    Returns (fun merged : Run α × Nat => Sorts P key (earlier.items ++ later.items) merged.1.items)
      (earlier.merge less patience later) :=
  (merge_sorts compares patience first last).bind fun _ sorts => returns_ok sorts

theorem collapse_sorts (depth : Nat) (runs : List (Run α)) (patience : Nat)
    (waiting : Waiting P key runs) :
    Returns (fun p => Waiting P key p.runs ∧ SameTies key (elements runs) (elements p.runs))
      (collapse less depth runs patience) := by
  fun_induction collapse less depth runs patience with
  | case1 patience later earlier rest deeper ih =>
      obtain ⟨last, first, waiting⟩ : Ascending P key later.items ∧ Ascending P key earlier.items ∧
          Waiting P key rest := by simpa only [Waiting, List.forall_mem_cons] using waiting
      refine (run_merge_sorts compares patience first last).bind fun merged sorts => ?_
      have next := ih merged.1 merged.2 (List.forall_mem_cons.mpr ⟨sorts.ascending, waiting⟩)
      exact next.imp fun p found => ⟨found.1, (elements_merged_ties rest sorts).trans found.2⟩
  | case2 => exact returns_ok ⟨waiting, .refl _⟩
  | case3 => exact returns_ok ⟨waiting, .refl _⟩

theorem push_sorts (total : Nat) (p : Pending α) (waiting : Waiting P key p.runs)
    (ascending : Ascending P key xs) :
    Returns (fun p' => Waiting P key p'.runs ∧
      SameTies key (elements p.runs ++ xs) (elements p'.runs)) (push less total p xs) := by
  unfold push
  split
  · rename_i none
    refine returns_ok ⟨?_, ?_⟩
    · exact fun run member => List.mem_singleton.mp member ▸ ascending
    · rw [none, elements_cons]
      exact .refl _
  · refine (collapse_sorts compares _ p.runs p.patience waiting).bind fun collapsed found => ?_
    obtain ⟨waiting, ties⟩ := found
    split
    · rename_i none
      refine returns_ok ⟨?_, ?_⟩
      · exact fun run member => List.mem_singleton.mp member ▸ ascending
      · rw [none] at ties
        rw [elements_cons]
        exact ties.append (.refl xs)
    · rename_i top rest some
      rw [some] at waiting ties
      refine returns_ok ⟨List.forall_mem_cons.mpr ⟨ascending, ?_⟩, ?_⟩
      · exact List.forall_mem_cons.mpr (List.forall_mem_cons.mp waiting)
      · rw [elements_cons] at ties
        rw [elements_cons, elements_cons]
        exact ties.append (.refl xs)

theorem foldlM_push_sorts (total : Nat) (runs : List (List α)) (p : Pending α)
    (waiting : Waiting P key p.runs) (sorted : ∀ run, run ∈ runs → Ascending P key run) :
    Returns (fun p' => Waiting P key p'.runs ∧
      SameTies key (elements p.runs ++ runs.flatten) (elements p'.runs))
      (runs.foldlM (push less total) p) := by
  induction runs generalizing p with
  | nil =>
      rw [List.flatten_nil, List.append_nil]
      exact returns_ok ⟨waiting, .refl _⟩
  | cons run rest ih =>
      obtain ⟨first, sorted⟩ := List.forall_mem_cons.mp sorted
      rw [List.foldlM_cons]
      refine (push_sorts compares total p waiting first).bind fun pushed found => ?_
      refine (ih pushed found.1 sorted).imp fun p' later => ⟨later.1, ?_⟩
      rw [List.flatten_cons, ← List.append_assoc]
      exact (found.2.append (.refl _)).trans later.2

theorem mergeAll_sorts (runs : List (Run α)) (patience : Nat) (waiting : Waiting P key runs) :
    Returns (Sorts P key (elements runs)) (mergeAll less runs patience) := by
  fun_induction mergeAll less runs patience with
  | case1 => exact returns_ok ⟨⟨List.forall_mem_nil P, .nil⟩, .refl []⟩
  | case2 patience run =>
      refine returns_ok ⟨waiting run List.mem_cons_self, ?_⟩
      rw [elements_cons]
      exact .refl _
  | case3 patience later earlier third rest shorter ih =>
      obtain ⟨last, middle, first, waiting⟩ : Ascending P key later.items ∧
          Ascending P key earlier.items ∧ Ascending P key third.items ∧ Waiting P key rest := by
        simpa only [Waiting, List.forall_mem_cons] using waiting
      refine (run_merge_sorts compares patience first middle).bind fun merged sorts => ?_
      refine (ih merged.1 merged.2 ?_).imp fun sorted all => ⟨all.ascending, ?_⟩
      · exact List.forall_mem_cons.mpr
          ⟨last, List.forall_mem_cons.mpr ⟨sorts.ascending, waiting⟩⟩
      · have ties := all.ties
        rw [elements_cons] at ties ⊢
        exact ((elements_merged_ties rest sorts).append (.refl _)).trans ties
  | case4 patience later earlier third rest longer ih =>
      obtain ⟨last, first, waiting⟩ : Ascending P key later.items ∧
          Ascending P key earlier.items ∧ Waiting P key (third :: rest) := by
        simpa only [Waiting, List.forall_mem_cons] using waiting
      refine (run_merge_sorts compares patience first last).bind fun merged sorts => ?_
      have next := ih merged.1 merged.2 (List.forall_mem_cons.mpr ⟨sorts.ascending, waiting⟩)
      exact next.imp fun sorted all =>
        ⟨all.ascending, (elements_merged_ties (third :: rest) sorts).trans all.ties⟩
  | case5 patience later earlier ih =>
      obtain ⟨last, first⟩ : Ascending P key later.items ∧ Ascending P key earlier.items := by
        simpa [Waiting] using waiting
      refine (run_merge_sorts compares patience first last).bind fun merged sorts => ?_
      have next := ih merged.1 merged.2 fun run member =>
        List.mem_singleton.mp member ▸ sorts.ascending
      exact next.imp fun sorted all =>
        ⟨all.ascending, (elements_merged_ties [] sorts).trans all.ties⟩

/-- A sort returns the elements in the order of their keys, and those of one key in the order that
they had. -/
theorem sort_sorts (members : ∀ x, x ∈ xs → P x) : Returns (Sorts P key xs) (sort less xs) := by
  refine (splitRuns_sorts compares _ members).bind fun runs split => ?_
  obtain ⟨sorted, ties⟩ := split
  have none : Waiting P key ([] : List (Run α)) := List.forall_mem_nil _
  refine (foldlM_push_sorts compares xs.length runs _ none sorted).bind fun pending pushed => ?_
  refine (mergeAll_sorts compares _ _ pushed.1).imp fun ys merged => ⟨merged.ascending, ?_⟩
  exact ties.trans (pushed.2.trans merged.ties)

/-- A sort from the greatest to the least turns the order round, and keeps that of elements of one
key. -/
theorem sortDescending_sorts (members : ∀ x, x ∈ xs → P x) :
    Returns (fun ys => ys.Pairwise (fun x y => key y ≤ key x) ∧ SameTies key xs ys)
      (sortDescending less xs) := by
  have turned : ∀ x, x ∈ xs.reverse → P x := fun x member => members x (List.mem_reverse.mp member)
  refine (sort_sorts compares turned).map fun ys sorts => ⟨?_, ?_⟩
  · exact List.pairwise_reverse.mpr sorts.ascending.sorted
  · have ties := sorts.ties.reverse
    rwa [List.reverse_reverse] at ties

end

end Formula.Sorting
