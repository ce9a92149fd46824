import Formula.Function.Definition

/-!
Registries of functions. A function is found by its name in any case. A frozen registry takes no
more functions.
-/

namespace Formula

/-- Functions by their names in upper case, in the order of their registration. -/
structure Registry where
  functions : Record String Definition := []
  frozen : Bool := false

inductive RegistryError where
  | frozen (name : String)
  | duplicate (key : String)
  | unknown (name : String)
  | unknownCategory (name : String)

def RegistryError.message : RegistryError → String
  | .frozen name => s!"Cannot register '{name}': function registry is frozen"
  | .duplicate key => s!"Function '{key}' is already registered"
  | .unknown name => s!"Unknown function: {name}"
  | .unknownCategory name => s!"{Text.quote name} is not a valid FunctionCategory"

def Category.ofName (name : String) : Except RegistryError Category :=
  match Category.ofName? name with
  | some category => .ok category
  | none => .error (.unknownCategory name)

namespace Registry

def empty : Registry := {}

def size (r : Registry) : Nat := r.functions.length

def freeze (r : Registry) : Registry := { r with frozen := true }

def find? (r : Registry) (name : String) : Option Definition :=
  r.functions.get? (Text.upperName name)

def contains (r : Registry) (name : String) : Bool := (r.find? name).isSome

def get (r : Registry) (name : String) : Except RegistryError Definition :=
  match r.find? name with
  | some d => .ok d
  | none => .error (.unknown name)

def register (r : Registry) (d : Definition) : Except RegistryError Registry :=
  let key := Text.upperName d.name
  if r.frozen then .error (.frozen d.name)
  else if r.functions.contains key then .error (.duplicate key)
  else .ok { r with functions := r.functions.put key d }

/-- The registry of some functions, of which the first of a name counts. -/
def ofDefinitions (definitions : List Definition) : Registry :=
  definitions.foldl (fun r d => (r.register d).toOption.getD r) empty

/-- All functions, sorted by name. -/
def list (r : Registry) : List Definition :=
  (r.functions.map Prod.snd).mergeSort fun a b => a.name ≤ b.name

def listCategory (r : Registry) (category : Category) : List Definition :=
  r.list.filter fun d => d.category == category

/-- The categories that some function has, in the order of all categories. -/
def categories (r : Registry) : List Category :=
  Category.all.filter fun category => r.functions.any fun entry => entry.2.category == category

/-- The categories of the listed functions, in the order of their first functions. -/
def listedCategories (r : Registry) : List Category :=
  r.list.foldl
    (fun seen d => if seen.contains d.category then seen else seen ++ [d.category]) []

def doc (r : Registry) : Value :=
  .object [
    ("functions", .object (r.list.map fun d => (d.name, d.doc))),
    ("byCategory", .object (r.listedCategories.map fun category =>
      (category.name, .array ((r.listCategory category).map Definition.doc)))),
    ("count", .ofNat r.size)]

end Registry

end Formula
