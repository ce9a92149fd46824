import Formula.Function.Calling
import Formula.Json.Writing
import Formula.Sorting
import Formula.Text.Search

/-!
Arrays: access, search, filters and sorting.
-/

namespace Formula.Arrays

def first (v : Value) : Value := v.items.head?.getD .null

def last (v : Value) : Value := v.items.getLast?.getD .null

/-- The item at an index from zero; null outside. -/
def index (v key : Value) : Except Fault Value :=
  match v.items?, key.number? with
  | some items, some x => do
      match ← x.toWhole "index" with
      | .ofNat n => return (items[n]?).getD .null
      | .negSucc _ => return .null
  | _, _ => .ok .null

/-- The number of items, characters or fields. -/
def length : Value → Value
  | .array items => .ofNat items.length
  | .text t => .ofNat t.length
  | .object fields => .ofNat fields.length
  | _ => .int 0

/-- An item equals the value; or the text of the value, which is not null, occurs in a text. -/
def contains (v wanted : Value) : Except Fault Value :=
  match v, wanted with
  | .text _, .null => .ok (.bool false)
  | .text t, wanted => do
      return .bool (Text.occursIn (← wanted.toText).points t.points)
  | v, wanted => .ok (.bool (v.items.any (·.equals wanted)))

/-- The items that equal none of those kept before them. -/
def uniqueItems (items : List Value) : List Value :=
  items.foldl (fun kept v => if kept.any v.equals then kept else kept ++ [v]) []

def unique (v : Value) : Value := .array (uniqueItems v.items)

def sortableTypes : List String := ["number", "string", "date"]

/-- The types of values, each once, in the order of their names. -/
def typeNames (items : List Value) : List String :=
  let names := items.map Value.typeName
  (names.foldl (fun seen name => if seen.contains name then seen else seen ++ [name]) []).mergeSort
    fun a b => a ≤ b

def less (a b : Value) : Except CallFailure Bool :=
  match a.compare b with
  | .ok order => .ok (order == .lt)
  | .error e => .error (.cause (.order e))

/-- Sorts items of one type; nulls go last in both directions. -/
def sort (v descending : Value) : Except CallFailure Value :=
  match v.items? with
  | none => .ok (.array [])
  | some items => do
      let present := items.filter (!·.isNull)
      let types := typeNames present
      if 1 < types.length || !types.all sortableTypes.contains then
        .error (.fault (.cannotSort (", ".intercalate types)))
      else
        let down ← descending.truth.mapError .fault
        let sorted ← if down then Sorting.sortDescending less present else Sorting.sort less present
        return .array (sorted ++ List.replicate (items.length - present.length) .null)

def filter (v wanted : Value) : Value := .array (v.items.filter (·.equals wanted))

def countIf (v wanted : Value) : Value := .ofNat (v.items.countP (·.equals wanted))

end Formula.Arrays
