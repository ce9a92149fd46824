import Formula.Dependency

/-!
Evaluating calculated fields in the order of their dependencies, each with the values of those
before it. A field that fails, or that a circular reference holds up, has its fallback.
-/

namespace Formula

/-- All values, and the errors of the fields that have fallbacks. -/
structure Recalculation where
  values : Record String Value
  errors : Record String ErrorInfo := []

namespace Recalculation

def note (r : Recalculation) (field : CalculatedField) : Outcome → Recalculation
  | .value v => { r with values := Record.put field.id v r.values }
  | .error e =>
      { values := Record.put field.id field.fallback r.values
        errors := Record.put field.id e r.errors }

/-- Evaluates a field in the context with the values so far. -/
def step (engine : Engine) (context : Context) (r : Recalculation) (field : CalculatedField) :
    Except Defect Recalculation := do
  let outcome ← engine.evaluate field.formula (context.scope r.values)
  return r.note field outcome

/-- A field that depends on itself fails. -/
def noteCircular (r : Recalculation) (field : CalculatedField) : Recalculation :=
  r.note field (.error (.circular field.id))

end Recalculation

/-- Evaluates fields on top of given values. Of fields with one name the last counts. -/
def Engine.recalculate (engine : Engine) (fields : List CalculatedField)
    (given : Record String Value) (context : Context) : Except Defect Recalculation := do
  let graph := engine.dependencies fields
  let byId := Record.ofList (fields.map fun field => (field.id, field))
  let find := fun (ids : List String) => ids.filterMap fun id => Record.get? id byId
  let placed ← (find graph.order).foldlM (Recalculation.step engine context)
    { values := Record.update context.fields given }
  return (find graph.cyclic).foldl Recalculation.noteCircular placed

end Formula
