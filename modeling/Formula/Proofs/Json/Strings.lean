import Formula.Json.Reading
import Formula.Json.Writing

/-!
A text that is written as a JSON string is read back, whatever stands behind it.
-/

namespace Formula.Json

/-! ### Results of readers -/

/-- A reader takes a value from the front of a text and leaves a rest. -/
def Reads {α : Type} {cs : List CodePoint} (result : Except ReadError (Read α cs)) (v : α)
    (rest : List CodePoint) : Prop :=
  ∃ r, result = .ok r ∧ r.value = v ∧ r.rest = rest

section

variable {α : Type} {cs ds rest : List CodePoint} {v : α}

theorem Reads.widen {result : Except ReadError (Read α ds)} (reads : Reads result v rest)
    (shorter : ds.length ≤ cs.length) : Reads (result.map fun r => r.widen shorter) v rest := by
  obtain ⟨r, rfl, value, left⟩ := reads
  exact ⟨_, rfl, value, left⟩

end

/-! ### Characters of strings -/

/-- The escape of a control character stands for its number. -/
theorem hexNumber?_hex {n : Nat} (control : n < 32) : ∃ a b c d, Text.hex 4 n = [a, b, c, d] ∧
    hexNumber? (.char a) (.char b) (.char c) (.char d) = some n := by
  refine ⟨_, _, _, _, rfl, ?_⟩
  revert n
  decide

/-- How a character is written: with a letter, with its number, or as it is. -/
inductive Escaped (c : Char) : List Char → Prop where
  | letter {e : Char} (short : shortEscape? (.char e) = some c) : Escaped c ['\\', e]
  | number (control : c.toNat < 32) : Escaped c ('\\' :: 'u' :: Text.hex 4 c.toNat)
  | own (quote : c ≠ '"') (backslash : c ≠ '\\') (visible : 32 ≤ c.toNat) : Escaped c [c]

theorem escaped_escapeChar (c : Char) : Escaped c (escapeChar c) := by
  have numbered {n : Nat} (code : c.toNat = n) : c = Char.ofNat n := by
    rw [← code, Char.ofNat_toNat]
  unfold escapeChar
  split
  · rename_i quote
    exact .letter (by rw [beq_iff_eq.mp quote]; rfl)
  split
  · rename_i backslash
    exact .letter (by rw [beq_iff_eq.mp backslash]; rfl)
  split
  · rename_i newline
    exact .letter (by rw [beq_iff_eq.mp newline]; rfl)
  split
  · rename_i carriage
    exact .letter (by rw [beq_iff_eq.mp carriage]; rfl)
  split
  · rename_i tab
    exact .letter (by rw [beq_iff_eq.mp tab]; rfl)
  split
  · rename_i backspace
    exact .letter (by rw [numbered backspace]; rfl)
  split
  · rename_i formFeed
    exact .letter (by rw [numbered formFeed]; rfl)
  split
  · rename_i control
    exact .number control
  · rename_i quote backslash _ _ _ _ _ visible
    exact .own (fun same => quote (beq_iff_eq.mpr same))
      (fun same => backslash (beq_iff_eq.mpr same)) (Nat.le_of_not_lt visible)

section

variable {done tail rest : List CodePoint} {t : Text}

theorem readString_short {e c : Char} (escape : shortEscape? (.char e) = some c)
    (reads : Reads (readString (.char c :: done) tail) t rest) :
    Reads (readString done (.char '\\' :: .char e :: tail)) t rest := by
  rw [readString.eq_4, escape]
  · exact reads.widen _
  · rintro a b c d rest same -
    rw [same] at escape
    cases escape

theorem readString_hex {n : Nat} {a b c d : CodePoint} (number : hexNumber? a b c d = some n)
    (control : n < 32) (reads : Reads (readString (.ofCode n :: done) tail) t rest) :
    Reads (readString done (.char '\\' :: .char 'u' :: a :: b :: c :: d :: tail)) t rest := by
  have alone : (if isHighHalf n then lowHalf? tail else none) = none := by
    rw [if_neg]
    simp only [isHighHalf, Bool.and_eq_true, decide_eq_true_iff, not_and]
    omega
  rw [readString.eq_3, number]
  dsimp only
  split
  · rename_i pair
    rw [alone] at pair
    cases pair
  · exact reads.widen _

theorem readString_plain {p : CodePoint} (quote : p ≠ .char '"') (backslash : p ≠ .char '\\')
    (visible : 32 ≤ p.code) (reads : Reads (readString (p :: done) tail) t rest) :
    Reads (readString done (p :: tail)) t rest := by
  have plain : (decide (p.code < 32) || p == .char '\\') = false := by
    rw [Bool.or_eq_false_iff, decide_eq_false_iff_not, beq_eq_false_iff_ne]
    exact ⟨Nat.not_lt.mpr visible, backslash⟩
  rw [readString.eq_5, plain]
  · exact reads.widen _
  · exact quote
  · exact fun _ _ _ _ _ same _ => backslash same
  · exact fun _ _ same _ => backslash same

/-- The escape of a code point is read as the code point. -/
theorem readString_escapePoint {p : CodePoint}
    (reads : Reads (readString (p :: done) tail) t rest) :
    Reads (readString done (escapePoint p ++ tail)) t rest := by
  cases p with
  | half index =>
      refine readString_plain (by simp) (by simp) ?_ reads
      simp only [CodePoint.code, CodePoint.firstHalf]
      omega
  | char c =>
      have escaped := escaped_escapeChar c
      unfold escapePoint
      dsimp only
      generalize escapeChar c = written at escaped ⊢
      cases escaped with
      | letter short => exact readString_short short reads
      | number control =>
          obtain ⟨a, b, x, y, digits, number⟩ := hexNumber?_hex control
          rw [← CodePoint.ofCode_code (.char c)] at reads
          rw [digits]
          exact readString_hex number control reads
      | own quote backslash visible =>
          exact readString_plain (fun same => quote (CodePoint.char.inj same))
            (fun same => backslash (CodePoint.char.inj same)) visible reads

end

/-- A written string is read back. -/
theorem readString_flatMap (points done rest : List CodePoint) :
    Reads (readString done (points.flatMap escapePoint ++ .char '"' :: rest))
      ⟨done.reverse ++ points⟩ rest := by
  induction points generalizing done with
  | nil =>
      refine ⟨_, readString.eq_2 done rest, ?_, rfl⟩
      rw [List.append_nil]
  | cons p points ih =>
      have later := ih (p :: done)
      rw [List.reverse_cons, List.append_assoc] at later
      rw [List.flatMap_cons, List.append_assoc]
      exact readString_escapePoint later

end Formula.Json
