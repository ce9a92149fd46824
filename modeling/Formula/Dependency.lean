import Formula.Validation

/-!
Calculated fields and the order in which they are evaluated. A field comes after the fields that its
formula refers to; those that a circular reference holds up have no place in the order.
-/

namespace Formula

/-- A field with the formula of its value, and the value that it has if the formula fails. -/
structure CalculatedField where
  id : String
  formula : String
  fallback : Value := .null

/-- An order of fields, and which field refers to which. -/
structure DependencyGraph where
  order : List String
  dependencies : Record String (List String)
  dependents : Record String (List String)
  cyclic : List String
deriving DecidableEq, Repr

/-! ### Placing fields -/

/-- How many references each field waits for, and the fields that wait for none, which are placed
next. -/
structure Placement where
  waiting : Record String Int
  ready : List String

namespace Placement

/-- One reference less to wait for. -/
def settle (p : Placement) (name : String) : Placement :=
  let left := (Record.get? name p.waiting).getD 0 - 1
  { waiting := Record.put name left p.waiting
    ready := if left = 0 then p.ready ++ [name] else p.ready }

def waitingCount (waiting : Record String Int) : Nat := waiting.countP fun field => 0 < field.2

theorem waitingCount_put (name : String) (left : Int) (waiting : Record String Int) :
    waitingCount (Record.put name left waiting) +
        (if 0 < (Record.get? name waiting).getD 0 then 1 else 0) =
      waitingCount waiting + (if 0 < left then 1 else 0) := by
  induction waiting with
  | nil => simp [waitingCount, Record.put, List.countP_cons]
  | cons field rest ih =>
      simp only [waitingCount] at ih ⊢
      by_cases h : field.1 = name
      · simp [Record.put, Record.get?, h, List.countP_cons]
        omega
      · simp only [Record.put, Record.get?, h, if_false, List.countP_cons]
        omega

/-- What is left to do: the fields to place and those that wait. -/
def work (p : Placement) : Nat := p.ready.length + waitingCount p.waiting

theorem work_settle_le (p : Placement) (name : String) : (p.settle name).work ≤ p.work := by
  have h := waitingCount_put name ((Record.get? name p.waiting).getD 0 - 1) p.waiting
  by_cases hl : (Record.get? name p.waiting).getD 0 - 1 = 0
  · have hone : (Record.get? name p.waiting).getD 0 = 1 := by omega
    simp only [hone] at h
    simp [work, settle, hone]
    simp at h
    omega
  · simp only [work, settle, hl, if_false]
    split at h <;> split at h <;> omega

theorem work_foldl_settle_le (names : List String) (p : Placement) :
    (names.foldl settle p).work ≤ p.work := by
  induction names generalizing p with
  | nil => exact Nat.le_refl _
  | cons name rest ih => exact Nat.le_trans (ih _) (work_settle_le p name)

/-- Places the fields that are ready, and those that become ready by it behind them. -/
def order (dependents : Record String (List String)) (p : Placement) : List String :=
  match p with
  | ⟨_, []⟩ => []
  | ⟨waiting, current :: rest⟩ =>
      let settled := ((Record.get? current dependents).getD []).foldl settle ⟨waiting, rest⟩
      current :: order dependents settled
termination_by p.work
decreasing_by
  have h := work_foldl_settle_le ((Record.get? current dependents).getD []) ⟨waiting, rest⟩
  simp only [work, List.length_cons] at h ⊢
  omega

/-- At the start a field waits for all its references. -/
def start (ids : List String) (dependencies : Record String (List String)) : Placement :=
  let count := fun id => ((Record.get? id dependencies).getD []).length
  { waiting := Record.ofList (ids.map fun id => (id, (count id : Int)))
    ready := ids.filter fun id => count id == 0 }

end Placement

/-! ### The graph -/

namespace DependencyGraph

/-- The fields among `ids` that a formula refers to. -/
def referred (engine : Engine) (ids : List String) (formula : String) : List String :=
  (engine.validate formula none).fields.filter ids.contains

def addDependent (id : String) (dependents : Record String (List String)) (name : String) :
    Record String (List String) :=
  Record.put name ((Record.get? name dependents).getD [] ++ [id]) dependents

/-- For every field those that refer to it, from the references of each field. -/
def invert (ids : List String) (references : List (String × List String)) :
    Record String (List String) :=
  references.foldl (fun dependents field => field.2.foldl (addDependent field.1) dependents)
    (Record.ofList (ids.map (·, [])))

def ofReferences (references : List (String × List String)) : DependencyGraph :=
  let ids := references.map Prod.fst
  let dependencies := Record.ofList references
  let dependents := invert ids references
  let order := (Placement.start ids dependencies).order dependents
  { order, dependencies, dependents, cyclic := ids.filter fun id => !order.contains id }

end DependencyGraph

def Engine.dependencies (engine : Engine) (fields : List CalculatedField) : DependencyGraph :=
  let ids := fields.map (·.id)
  .ofReferences (fields.map fun field =>
    (field.id, DependencyGraph.referred engine ids field.formula))

end Formula
