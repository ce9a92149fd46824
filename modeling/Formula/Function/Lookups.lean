import Formula.Function.Calling

/-!
Looking up records of datasets and rows of tables.
-/

namespace Formula.Lookups

/-- A field of an object; nothing for no name. -/
def fieldOf (fields : Record Text Value) (name : Value) : Value :=
  (name.text?.bind fields.get?).getD .null

/-- The first record of a dataset whose key field equals a value. -/
def lookup (c : Context) (dataset key wanted result : Value) : Except Fault Value :=
  match (dataset.text?.bind Text.toString?).bind c.datasets.get? with
  | none => .error (.unknownDataset (dataset.text?.getD "None"))
  | some records =>
      let found := records.findSome? fun record =>
        match record with
        | .object fields => if (fieldOf fields key).equals wanted then some fields else none
        | _ => none
      .ok ((found.map (fieldOf · result)).getD .null)

def lookupRecord : Implementation := fun c args =>
  let at_ := argument args
  (lookup c (at_ 0) (at_ 1) (at_ 2) (at_ 3)).mapError .fault

/-- The rows of a table that have a first cell, which stands beside them. -/
def rows (table : List Value) : List (Value × List Value) :=
  table.filterMap fun row =>
    match row with
    | .array (cell :: cells) => some (cell, cell :: cells)
    | _ => none

/-- The last row whose first cell is not greater than a value, up to the first whose cell is. Rows
whose first cell has another type are passed over. -/
def lastNotAbove (v : Value) (found : Option (List Value)) :
    List (Value × List Value) → Except CallFailure (Option (List Value))
  | [] => .ok found
  | (cell, row) :: rest =>
      if cell.typeName != v.typeName then lastNotAbove v found rest
      else
        match cell.compare v with
        | .error e => .error (.cause (.order e))
        | .ok .gt => .ok found
        | .ok _ => lastNotAbove v (some row) rest

/-- The row of a table for a value: the first whose cell equals it, or the last that is not
above. -/
def findRow (v : Value) (table : List Value) (exact : Value) :
    Except CallFailure (Option (List Value)) := do
  if exact.isNull || (← exact.truth.mapError .fault) then
    return ((rows table).find? fun row => row.1.equals v).map Prod.snd
  else if v.isNull then return none
  else lastNotAbove v none (rows table)

/-- A column, counted from one, of the row that is found for a value. -/
def tableLookup (v table column exact : Value) : Except CallFailure Value :=
  match table.items?, column.number? with
  | some items, some x => do
      let index ← (x.toWhole "column").mapError .fault
      if index < 1 then .error (.fault .columnTooSmall)
      else
        let row ← findRow v items exact
        return ((row.getD [])[(index - 1).toNat]?).getD .null
  | _, _ => .ok .null

end Formula.Lookups
