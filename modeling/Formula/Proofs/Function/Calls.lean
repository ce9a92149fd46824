import Formula.Evaluation.Basic
import Formula.Proofs.Function.Arguments
import Formula.Proofs.Function.Registry
import Formula.Proofs.Value.Range

/-!
Calls of functions that return: the function is found, accepts its arguments, and what it makes of
them passes the check of results.
-/

namespace Formula

theorem Number.toWhole_eq_ok_iff {name : String} {a : Number} {n : Int} :
    a.toWhole name = .ok n ↔ a.wholeValue? = some n := by
  cases a with
  | int m => simp [toWhole, wholeValue?]
  | float y =>
      rw [toWhole]
      split
      · rename_i m whole
        rw [whole, Except.ok.injEq, Option.some.injEq]
      · rename_i other
        simp [other]

theorem Value.check_ofNat {n : Nat} (short : ¬ 2 ^ Number.maxBits ≤ n) :
    (ofNat n).check = .ok (ofNat n) := by
  have inRange : (Number.int n).InRange := Number.bitLength_natCast_le (Nat.lt_of_not_le short)
  exact check_number_iff.mpr ⟨rfl, inRange⟩

namespace Registry

variable {c : Context} {position : Nat} {args : List Value} {d : Definition} {v : Value}

theorem call_eq_ok {r : Registry} {callee : String} (found : r.find? callee = some d)
    (accepted : d.checkArguments args = .ok ()) (returned : d.call c args = .ok v) :
    r.call c callee position (.ok args) = .ok v := by
  rw [call, found]
  dsimp only [bind, Except.bind]
  rw [accepted, returned]
  rfl

theorem call_builtin (member : d ∈ builtinFunctions) (accepted : d.checkArguments args = .ok ())
    (returned : d.implementation c args = .ok v) (passes : v.check = .ok v) :
    builtin.call c d.name position (.ok args) = .ok v :=
  call_eq_ok (find?_builtin_of_mem member) accepted
    (Definition.call_eq_ok_iff.mpr ⟨v, returned, passes⟩)

end Registry

end Formula
