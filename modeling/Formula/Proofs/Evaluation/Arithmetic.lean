import Formula.Proofs.Evaluation.Faults
import Formula.Proofs.Evaluation.Range
import Formula.Proofs.Number.Integer

/-!
Whether the results of arithmetic are in range, whatever the operands are. Every result of the binary
operators is, but the quotient of a division that comes out even; nothing looks at that one, nor at
what the minus sign gives.
-/

namespace Formula

namespace Arithmetic

/-- The operator that formulas write for an operation. -/
def operator : Arithmetic → BinaryOp
  | .add => .add
  | .subtract => .subtract
  | .multiply => .multiply
  | .divide => .divide
  | .modulo => .modulo
  | .power => .power

/-- A division of integers comes out even, and its quotient is too wide. -/
def EvenTooWide (op : Arithmetic) (a b : Number) : Prop :=
  op = .divide ∧ ∃ q n : Int, a = .int (q * n) ∧ b = .int n ∧ n ≠ 0 ∧ ¬ (Number.int q).InRange

variable {op : Arithmetic} {a b x : Number} {v : Value}

theorem operator_evaluate (op : Arithmetic) (a b : Number) :
    op.operator.evaluate (.number a) (.number b) = op.evaluate (.number a) (.number b) := by
  cases op <;> rfl

/-- What an operator returns for numbers is what its operation returns, which must not divide by
zero. -/
theorem evaluate_numbers_eq_ok_iff : op.evaluate (.number a) (.number b) = .ok v ↔
    (op.zeroDivision?.isSome → b.isZero = false) ∧ ∃ x, op.apply a b = .ok x ∧ v = .number x := by
  unfold evaluate
  split
  · rename_i cause divides zero
    rw [divides]
    refine iff_of_false (fun returned => nomatch returned) fun returned => ?_
    exact absurd zero (Bool.eq_false_iff.mp (returned.1 rfl))
  · rename_i unchecked
    have nonzero : op.zeroDivision?.isSome → b.isZero = false := by
      intro divides
      obtain ⟨cause, found⟩ := Option.isSome_iff_exists.mp divides
      exact Bool.eq_false_iff.mpr (unchecked cause found)
    rw [and_iff_right nonzero]
    dsimp only
    cases op.apply a b with
    | error f => simp
    | ok x => simp [eq_comm]

/-- A division of integers that comes out even returns the quotient, however wide it is. -/
theorem evaluate_divide_even {n : Int} (nonzero : n ≠ 0) (q : Int) :
    BinaryOp.divide.evaluate (.int (q * n)) (.int n) = .ok (.int q) := by
  have even : (q * n).fmod n = 0 := Int.mul_fmod_left q n
  have divided : Number.divide (.int (q * n)) (.int n) = .ok (.int q) :=
    (if_pos even).trans (by rw [Int.mul_fdiv_cancel q nonzero])
  refine evaluate_numbers_eq_ok_iff.mpr ⟨fun _ => ?_, .int q, divided, rfl⟩
  exact Bool.eq_false_iff.mpr fun zero => nonzero (Number.isZero_int_iff.mp zero)

/-- Of what operations return only the quotient of integers that comes out even is not looked at. -/
theorem apply_returns_inRange_or (nonzero : op.zeroDivision?.isSome → b.isZero = false) :
    ReturnsOnly (fun x => x.InRange ∨ op.EvenTooWide a b) (op.apply a b) := by
  by_cases division : op = .divide
  · subst division
    refine (a.divide_returns b).imp ?_
    rintro x (checked | ⟨m, n, rfl, rfl, even, rfl⟩)
    · exact .inl checked
    refine or_iff_not_imp_left.mpr fun wide => ?_
    have product := Int.mul_fdiv_add_fmod m n
    rw [even, Int.add_zero, Int.mul_comm] at product
    refine ⟨rfl, m.fdiv n, n, by rw [product], rfl, fun zero => ?_, wide⟩
    exact Bool.eq_false_iff.mp (nonzero rfl) (Number.isZero_int_iff.mpr zero)
  · exact (apply_returns division a b).imp fun _ => .inl

/-- Whatever the numbers are, an arithmetic operator fails with an error of the formula or returns a
number in range, unless it divides integers evenly and the quotient is too wide, which it returns.
The minus sign returns a number in range for one in range, and for no other. -/
theorem results_in_range (op : Arithmetic) (a b : Number) :
    (¬ op.EvenTooWide a b →
      (∃ c, op.operator.evaluate (.number a) (.number b) = .error (.cause c)) ∨
        ∃ x, op.operator.evaluate (.number a) (.number b) = .ok (.number x) ∧ x.InRange) ∧
    (op.EvenTooWide a b →
      ∃ x, op.operator.evaluate (.number a) (.number b) = .ok (.number x) ∧ ¬ x.InRange) ∧
    ∃ x, UnaryOp.negate.evaluate (.number a) = .ok (.number x) ∧ (x.InRange ↔ a.InRange) := by
  rw [operator_evaluate]
  refine ⟨fun narrow => ?_, ?_, a.negate, rfl, Number.inRange_negate⟩
  · cases evaluated : op.evaluate (.number a) (.number b) with
    | error stop =>
        obtain ⟨c, rfl, -⟩ := op.evaluate_fails _ _ stop evaluated
        exact .inl ⟨c, rfl⟩
    | ok v =>
        obtain ⟨nonzero, x, applied, rfl⟩ := evaluate_numbers_eq_ok_iff.mp evaluated
        have inRange := (apply_returns_inRange_or nonzero x applied).resolve_right narrow
        exact .inr ⟨x, rfl, inRange⟩
  · rintro ⟨rfl, q, n, rfl, rfl, nonzero, wide⟩
    exact ⟨.int q, evaluate_divide_even nonzero q, wide⟩

/-- Nothing looks at an even quotient, nor at what the minus sign gives. -/
theorem wide_results_returned :
    ¬ (Number.int (2 ^ 10000)).InRange ∧
      BinaryOp.divide.evaluate (.int (2 ^ 10000)) (.int 1) = .ok (.int (2 ^ 10000)) ∧
      UnaryOp.negate.evaluate (.int (-2 ^ 10000)) = .ok (.int (2 ^ 10000)) := by
  refine ⟨by decide +kernel, ?_, ?_⟩
  · have divided := evaluate_divide_even one_ne_zero (2 ^ 10000)
    rwa [Int.mul_one] at divided
  · have twice := Int.neg_neg (2 ^ 10000)
    exact congrArg (fun n => Except.ok (Value.int n)) twice

end Arithmetic

end Formula
