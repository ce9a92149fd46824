/-!
Records: entries under names, which are of any type that can be told apart, in the order of their
first insertion. Putting an entry under a name that is already there replaces it in its place.
-/

namespace Formula

abbrev Record (κ α : Type) := List (κ × α)

namespace Record

variable {κ α : Type} [DecidableEq κ]

def get? (name : κ) : Record κ α → Option α
  | [] => none
  | (key, value) :: rest => if key = name then some value else get? name rest

def contains (name : κ) (r : Record κ α) : Bool := (get? name r).isSome

def put (name : κ) (value : α) : Record κ α → Record κ α
  | [] => [(name, value)]
  | (key, old) :: rest =>
      if key = name then (key, value) :: rest else (key, old) :: put name value rest

def ofList (entries : List (κ × α)) : Record κ α :=
  entries.foldl (fun r entry => put entry.1 entry.2 r) []

/-- The entries of `changes` put on top of a record. -/
def update (r changes : Record κ α) : Record κ α :=
  changes.foldl (fun r entry => put entry.1 entry.2 r) r

def keys (r : Record κ α) : List κ := r.map Prod.fst

@[simp] theorem get?_nil (name : κ) : get? name ([] : Record κ α) = none := rfl

theorem get?_put_self (name : κ) (value : α) (r : Record κ α) :
    get? name (put name value r) = some value := by
  induction r with
  | nil => simp [put, get?]
  | cons entry rest ih =>
      by_cases h : entry.1 = name <;> simp [put, get?, h, ih]

theorem get?_put_of_ne {name other : κ} (h : name ≠ other) (value : α)
    (r : Record κ α) : get? other (put name value r) = get? other r := by
  induction r with
  | nil => simp [put, get?, h]
  | cons entry rest ih =>
      by_cases hn : entry.1 = name
      · simp [put, get?, hn, h]
      · simp [put, get?, hn, ih]

theorem keys_put (name : κ) (value : α) (r : Record κ α) :
    keys (put name value r) = if name ∈ keys r then keys r else keys r ++ [name] := by
  induction r with
  | nil => simp [put, keys]
  | cons entry rest ih =>
      by_cases h : entry.1 = name
      · simp [put, keys, h]
      · have hne : ¬ name = entry.1 := fun e => h e.symm
        by_cases hm : name ∈ keys rest
        · simp only [keys] at ih hm
          simp [put, keys, h, hne, hm, ih]
        · simp only [keys] at ih hm
          simp [put, keys, h, hne, hm, ih]

end Record

end Formula
