import Formula.Calendar.Moment

/-!
The host that formulas run on. However deep the limits let a formula be, the host follows it only so
far, and it has a zone of its own for clocks that have none.
-/

namespace Formula

structure Host where
  /-- The nesting of sources that the host can follow. -/
  nesting : Nat
  /-- The depth of trees that the host can follow. -/
  depth : Nat
  /-- What the host calls its own zone at a time, which it may not be able to place. -/
  zoneName : Moment → Except Fault String
  positive : 0 < nesting ∧ 0 < depth := by decide

/-- A host of some size whose clocks show universal time. It cannot place the first day of the
calendar, before which it looks for a change of its zone. -/
def Host.universal : Host where
  nesting := 500
  depth := 450
  zoneName m := if m.date = Date.first then .error (.yearRange 0) else .ok "UTC"

end Formula
