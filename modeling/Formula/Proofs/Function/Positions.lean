import Formula.Evaluation.Operators
import Formula.Proofs.Function.Calls
import Formula.Proofs.Text.Search

/-!
Places in a text, counted from one, and its parts. `FIND` gives the first place where `MID` takes out
the text that is looked for; `LEFT` and `RIGHT` split a text, and `MID` is a `LEFT` of a `RIGHT`.
-/

namespace Formula.Texts

open Parameter

variable {t n : Text} {x y : Number} {before count : Nat}

theorem countOf_number (whole : y.wholeValue? = some (count : Int)) (default : Int) :
    countOf (.number y) default = .ok count := by
  rw [countOf, Value.toWhole, Value.number?, bind_of_ok (Number.toWhole_eq_ok_iff.mpr whole)]
  rfl

theorem startOf_number (whole : x.wholeValue? = some ((before + 1 : Nat) : Int)) :
    startOf (.number x) = .ok before := by
  rw [startOf, Value.toWhole, Value.number?, bind_of_ok (Number.toWhole_eq_ok_iff.mpr whole)]
  rfl

theorem concat_texts (s t : Text) :
    BinaryOp.concat.evaluate (.text s) (.text t) = .ok (.text (s ++ t)) := rfl

/-! ### Calls -/

section

variable (c : Context) (position : Nat)

theorem call_length (short : ¬ 2 ^ Number.maxBits ≤ t.length) :
    Registry.builtin.call c "LEN" position (.ok [.text t]) = .ok (.ofNat t.length) := by
  have member : lenFunction ∈ builtinFunctions := by simp [builtinFunctions, functions]
  exact Registry.call_builtin (d := lenFunction) member
    (Definition.checkArguments_of_forall₂ rfl (.cons (accepts_any rfl _) .nil)) rfl
    (Value.check_ofNat short)

theorem call_left (t : Text) (whole : y.wholeValue? = some (count : Int)) :
    Registry.builtin.call c "LEFT" position (.ok [.text t, .number y]) =
      .ok (.text ⟨t.points.take count⟩) := by
  have member : leftFunction ∈ builtinFunctions := by simp [builtinFunctions, functions]
  have returned : left (.text t) (.number y) = .ok (.text ⟨t.points.take count⟩) :=
    bind_of_ok (countOf_number whole 1)
  exact Registry.call_builtin (d := leftFunction) member
    (Definition.checkArguments_of_forall₂ rfl
      (.cons (accepts_text rfl t) (.cons (accepts_number rfl y) .nil)))
    (mapError_eq_ok.mpr returned) rfl

theorem call_right (t : Text) (whole : y.wholeValue? = some (count : Int)) :
    Registry.builtin.call c "RIGHT" position (.ok [.text t, .number y]) =
      .ok (.text ⟨t.points.drop (t.length - count)⟩) := by
  have member : rightFunction ∈ builtinFunctions := by simp [builtinFunctions, functions]
  have returned : right (.text t) (.number y) =
      .ok (.text ⟨t.points.drop (t.length - count)⟩) := bind_of_ok (countOf_number whole 1)
  exact Registry.call_builtin (d := rightFunction) member
    (Definition.checkArguments_of_forall₂ rfl
      (.cons (accepts_text rfl t) (.cons (accepts_number rfl y) .nil)))
    (mapError_eq_ok.mpr returned) rfl

theorem call_mid (t : Text) (start : x.wholeValue? = some ((before + 1 : Nat) : Int))
    (whole : y.wholeValue? = some (count : Int)) :
    Registry.builtin.call c "MID" position (.ok [.text t, .number x, .number y]) =
      .ok (.text ⟨(t.points.drop before).take count⟩) := by
  have member : midFunction ∈ builtinFunctions := by simp [builtinFunctions, functions]
  have returned : mid (.text t) (.number x) (.number y) =
      .ok (.text ⟨(t.points.drop before).take count⟩) := by
    rw [mid, bind_of_ok (startOf_number start), bind_of_ok (countOf_number whole 0)]
    rfl
  exact Registry.call_builtin (d := midFunction) member
    (Definition.checkArguments_of_forall₂ rfl
      (.cons (accepts_text rfl t) (.cons (accepts_number rfl x) (.cons (accepts_number rfl y) .nil))))
    (mapError_eq_ok.mpr returned) rfl

theorem call_find (start : x.wholeValue? = some ((before + 1 : Nat) : Int)) {place : Nat}
    (found : ((Text.findFrom? n.points t.points before).map (· + 1)).getD 0 = place)
    (short : ¬ 2 ^ Number.maxBits ≤ place) :
    Registry.builtin.call c "FIND" position (.ok [.text n, .text t, .number x]) =
      .ok (.ofNat place) := by
  have member : findFunction ∈ builtinFunctions := by simp [builtinFunctions, functions]
  have returned : find (.text n) (.text t) (.number x) = .ok (.ofNat place) := by
    rw [find, bind_of_ok (startOf_number start), ← found]
    rfl
  exact Registry.call_builtin (d := findFunction) member
    (Definition.checkArguments_of_forall₂ rfl
      (.cons (accepts_text rfl n) (.cons (accepts_text rfl t) (.cons (accepts_number rfl x) .nil))))
    (mapError_eq_ok.mpr returned) (Value.check_ofNat short)

/-! ### Places -/

/-- The places from `i` on at which `MID` takes a text out of another one. -/
def placesOf (t n : Text) (i : Nat) : Set Nat :=
  { place | i ≤ place ∧ place + n.length ≤ t.length + 1 ∧
    Registry.builtin.call c "MID" position (.ok [.text t, .ofNat place, .ofNat n.length]) =
      .ok (.text n) }

theorem mem_placesOf {place : Nat} : place ∈ placesOf c position t n (before + 1) ↔
    before + 1 ≤ place ∧ Text.OccursAt n.points t.points (place - 1) := by
  refine and_congr_right fun later => ?_
  obtain ⟨p, rfl⟩ := Nat.exists_eq_add_of_le' (Nat.le_trans (Nat.le_add_left 1 before) later)
  have start : (Number.int (p + 1 : Nat)).wholeValue? = some ((p + 1 : Nat) : Int) := rfl
  have count : (Number.int n.length).wholeValue? = some (n.length : Int) := rfl
  rw [show Value.ofNat (p + 1) = .number (.int (p + 1 : Nat)) from rfl,
    show Value.ofNat n.length = .number (.int n.length) from rfl,
    call_mid c position t start count, Nat.add_sub_cancel,
    Except.ok.injEq, Value.text.injEq, Text.mk.injEq, eq_comm, Text.length,
    ← List.prefix_iff_eq_take]
  refine and_congr_left fun begins => ?_
  have fits := begins.length_le
  rw [List.length_drop] at fits
  change p + 1 + n.points.length ≤ t.points.length + 1 ↔ p ≤ t.points.length
  omega

/-- `FIND` gives the first place there is, and zero without one. -/
theorem find_least (start : x.wholeValue? = some ((before + 1 : Nat) : Int))
    (short : ¬ 2 ^ Number.maxBits ≤ t.length + 1) :
    ∃ place : Nat,
      Registry.builtin.call c "FIND" position (.ok [.text n, .text t, .number x]) =
        .ok (.ofNat place) ∧
      (IsLeast (placesOf c position t n (before + 1)) place ∨
        place = 0 ∧ placesOf c position t n (before + 1) = ∅) := by
  rcases Text.findFrom?_cases n.points t.points before with
    ⟨p, found, ⟨later, occurs⟩, least⟩ | ⟨missed, nowhere⟩
  · have inside : p + 1 ≤ t.length + 1 := Nat.succ_le_succ occurs.1
    refine ⟨p + 1, call_find c position start (by rw [found]; rfl)
      fun wide => short (wide.trans inside), .inl ⟨?_, ?_⟩⟩
    · exact (mem_placesOf c position).mpr ⟨Nat.succ_le_succ later, occurs⟩
    · intro place member
      obtain ⟨le, occurs'⟩ := (mem_placesOf c position).mp member
      have first : p ≤ place - 1 := least ⟨Nat.le_sub_of_add_le le, occurs'⟩
      omega
  · refine ⟨0, call_find c position start (by rw [missed]; rfl)
      fun wide => short (wide.trans (Nat.zero_le _)), .inr ⟨rfl, ?_⟩⟩
    refine Set.eq_empty_of_forall_notMem fun place member => ?_
    obtain ⟨le, occurs⟩ := (mem_placesOf c position).mp member
    exact nowhere (place - 1) (Nat.le_sub_of_add_le le) occurs

end

/-- For all texts and all numbers that are integers, a place `i` from one on and a count `k` from zero
on: `FIND` gives the first place from `i` on where `MID` takes out the text that is looked for, or
zero; `LEFT` with a count and `RIGHT` with what is left of the length, joined by `&`, are the text;
and `MID` is the `LEFT` of the `RIGHT` that starts at its place. A length or a place of more than ten
thousand bits, which no text in memory has, would not pass the check of results. -/
theorem positions_fit (c : Context) (position : Nat) (t n : Text) {x y : Number} {i k : Nat}
    (place : x.wholeValue? = some (i : Int)) (positive : 1 ≤ i)
    (count : y.wholeValue? = some (k : Int)) :
    let call := fun name args => Registry.builtin.call c name position (.ok args)
    (t.length + 1 < 2 ^ Number.maxBits → call "LEN" [.text t] = .ok (.ofNat t.length) ∧
      ∃ found : Nat, call "FIND" [.text n, .text t, .number x] = .ok (.ofNat found) ∧
        (IsLeast (placesOf c position t n i) found ∨
          found = 0 ∧ placesOf c position t n i = ∅)) ∧
      (k ≤ t.length → ∃ front back : Text,
        call "LEFT" [.text t, .number y] = .ok (.text front) ∧
        call "RIGHT" [.text t, .int (t.length - k)] = .ok (.text back) ∧
        BinaryOp.concat.evaluate (.text front) (.text back) = .ok (.text t)) ∧
      (i ≤ t.length + 1 → ∃ back middle : Text,
        call "RIGHT" [.text t, .int (t.length - i + 1)] = .ok (.text back) ∧
        call "LEFT" [.text back, .number y] = .ok (.text middle) ∧
        call "MID" [.text t, .number x, .number y] = .ok (.text middle)) := by
  obtain ⟨before, rfl⟩ := Nat.exists_eq_add_of_le' positive
  refine ⟨fun short => ?search, fun inside => ?split, fun inside => ?middle⟩
  case search =>
    have narrow : ¬ 2 ^ Number.maxBits ≤ t.length + 1 := Nat.not_le.mpr short
    exact ⟨call_length c position fun wide => narrow (Nat.le_succ_of_le wide),
      find_least c position place narrow⟩
  case split =>
    have rest : (t.length - k : Int) = (t.length - k : Nat) := (Nat.cast_sub inside).symm
    refine ⟨_, _, call_left c position t count,
      call_right c position t (congrArg some rest), ?_⟩
    rw [Nat.sub_sub_self inside, concat_texts]
    exact congrArg (fun points => Except.ok (Value.text ⟨points⟩)) (List.take_append_drop k t.points)
  case middle =>
    have rest : (t.length - (before + 1 : Nat) + 1 : Int) = (t.length - before : Nat) := by omega
    refine ⟨_, _, call_right c position t (congrArg some rest),
      call_left c position _ count, ?_⟩
    rw [Nat.sub_sub_self (Nat.le_of_succ_le_succ inside)]
    exact call_mid c position t place count

theorem positions_fit_overlapping :
    let context : Context := {
      clock := .ofMoment .universal (.atMidnight ⟨2024, 1, 15, by decide⟩ none) }
    let call := fun name args => Registry.builtin.call context name 0 (.ok args)
    let two : Number := .float (Float.ofBits 0x4000000000000000)
    (two.wholeValue? = some 2 ∧ Text.length "banana" + 1 < 2 ^ Number.maxBits) ∧
      (∃ found : Nat, call "FIND" [.text "ana", .text "banana", .int 3] = .ok (.ofNat found) ∧
        (IsLeast (placesOf context 0 "banana" "ana" 3) found ∨
          found = 0 ∧ placesOf context 0 "banana" "ana" 3 = ∅)) ∧
      (∃ front back : Text,
        call "LEFT" [.text "banana", .number two] = .ok (.text front) ∧
        call "RIGHT" [.text "banana", .int 4] = .ok (.text back) ∧
        BinaryOp.concat.evaluate (.text front) (.text back) = .ok (.text "banana")) ∧
      ∃ back middle : Text,
        call "RIGHT" [.text "banana", .int 4] = .ok (.text back) ∧
        call "LEFT" [.text back, .number two] = .ok (.text middle) ∧
        call "MID" [.text "banana", .int 3, .number two] = .ok (.text middle) := by
  intro context call two
  have whole : two.wholeValue? = some 2 := by decide +kernel
  have short : Text.length "banana" + 1 < 2 ^ Number.maxBits := by decide +kernel
  obtain ⟨search, split, middle⟩ := positions_fit context 0 "banana" "ana" (x := .int 3)
    (y := two) (i := 3) (k := 2) rfl (by decide) whole
  exact ⟨⟨whole, short⟩, (search short).2, split (by decide), middle (by decide)⟩

end Formula.Texts
