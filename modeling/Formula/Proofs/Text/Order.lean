import Formula.Text.Basic
import Mathlib.Logic.Function.Basic

/-!
The order of texts: by the codes of their points, and a text before whatever it begins.
-/

namespace Formula

namespace CodePoint

theorem code_injective : Function.Injective code :=
  Function.LeftInverse.injective ofCode_code

instance : Std.TransOrd CodePoint := inferInstanceAs (Std.TransCmp (compareOn code))

theorem compare_eq_iff_eq {a b : CodePoint} : Ord.compare a b = .eq ↔ a = b := by
  have codes : Ord.compare a b = Ord.compare a.code b.code := rfl
  rw [codes, Nat.compare_eq_eq, code_injective.eq_iff]

instance : Std.LawfulEqOrd CodePoint where
  compare_self := compare_eq_iff_eq.mpr rfl
  eq_of_compare := compare_eq_iff_eq.mp

end CodePoint

namespace Text

instance : Std.TransOrd Text := inferInstanceAs (Std.TransCmp (compareOn Text.points))

theorem compare_eq_iff_eq {a b : Text} : Ord.compare a b = .eq ↔ a = b := by
  have points : Ord.compare a b = Ord.compare a.points b.points := rfl
  rw [points, Std.LawfulEqOrd.compare_eq_iff_eq, Text.mk.injEq]

end Text

end Formula
