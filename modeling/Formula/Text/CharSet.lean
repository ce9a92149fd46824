/-!
Sets of characters given by spans of code points.
-/

namespace Formula.Text

/-- The characters whose code point lies in one of the spans, both ends included. -/
structure CharSet where
  spans : List (Nat × Nat)

def CharSet.contains (s : CharSet) (c : Char) : Bool :=
  s.spans.any fun span => span.1 ≤ c.toNat && c.toNat ≤ span.2

theorem CharSet.contains_iff (s : CharSet) (c : Char) :
    s.contains c = true ↔ ∃ span ∈ s.spans, span.1 ≤ c.toNat ∧ c.toNat ≤ span.2 := by
  simp [CharSet.contains]

end Formula.Text
