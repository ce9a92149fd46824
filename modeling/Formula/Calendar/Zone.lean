import Formula.Number.Digits

/-!
Zones of clocks. A clock is at a fixed distance from universal time, or it shows the time of a
region, whose distance changes now and then. When it grows a region's clocks skip some readings, and
when it shrinks they show some twice: such readings are doubtful, and it has to be said whether they
go by the time before the change or by the one after it.
-/

namespace Formula.Calendar

def microsPerSecond : Nat := 1000000

def microsPerDay : Nat := 86400000000

/-- The distance of a clock from universal time in microseconds, less than a day. -/
structure Offset where
  micros : Int
  inRange : -(microsPerDay : Int) < micros ∧ micros < (microsPerDay : Int)
deriving DecidableEq

def Offset.universal : Offset := ⟨0, by decide⟩

/-- Hours, minutes and, where there are any, seconds and microseconds, with a sign. -/
def Offset.chars (o : Offset) : List Char :=
  let size := o.micros.natAbs
  let seconds := size / microsPerSecond
  let micros := size % microsPerSecond
  let twoDigits := fun n => padZeros 2 (digitChars n)
  (if o.micros < 0 then '-' else '+') ::
    twoDigits (seconds / 3600) ++ ':' :: twoDigits (seconds / 60 % 60) ++
    (if seconds % 60 = 0 ∧ micros = 0 then [] else ':' :: twoDigits (seconds % 60)) ++
    (if micros = 0 then [] else '.' :: padZeros 6 (digitChars micros))

/-- The name of a zone that has nothing but its distance from universal time. -/
def Offset.zoneName (o : Offset) : String :=
  if o.micros = 0 then "UTC" else "UTC" ++ String.ofList o.chars

/-! ### Regions -/

/-- A time that the clocks of a region follow, and what it is called. -/
structure Standard where
  offset : Offset
  label : String
deriving DecidableEq

/-- From an instant on the clocks of a region follow another standard. Instants are microseconds of
universal time, counted as the readings of clocks are. -/
structure Change where
  since : Int
  standard : Standard
deriving DecidableEq

/-- The reading from which on a change has happened. The doubtful ones are between the two bounds:
they are past the change if they go by the standard after it. -/
def Change.bound (c : Change) (old : Standard) (later : Bool) : Int :=
  c.since +
    if later then min old.offset.micros c.standard.offset.micros
    else max old.offset.micros c.standard.offset.micros

/-- The standard that a reading goes by, if clocks follow an old one until the changes. -/
def standardOf (old : Standard) : List Change → (reading : Int) → (later : Bool) → Standard
  | [], _, _ => old
  | c :: rest, reading, later =>
      if reading < c.bound old later then old else standardOf c.standard rest reading later

/-- No reading is doubtful for two changes, and the changes are in their order. -/
def Apart (old : Standard) : List Change → Prop
  | c :: d :: rest => c.bound old false ≤ d.bound c.standard true ∧ Apart c.standard (d :: rest)
  | _ => True

instance Apart.decidable (old : Standard) : (changes : List Change) → Decidable (Apart old changes)
  | [] => .isTrue trivial
  | [_] => .isTrue trivial
  | c :: d :: rest =>
      have _ := Apart.decidable c.standard (d :: rest)
      inferInstanceAs (Decidable (_ ∧ _))

/-- A region is told from others by its name, whatever its clocks show. -/
structure Region where
  name : String
  first : Standard
  changes : List Change
  apart : Apart first changes := by decide
deriving DecidableEq

def Region.standard (r : Region) (reading : Nat) (later : Bool) : Standard :=
  standardOf r.first r.changes reading later

/-! ### Zones -/

inductive Zone where
  | fixed (offset : Offset)
  /-- The clocks of a region. Of a doubtful reading it is said here which one it is. -/
  | region (region : Region) (later : Bool)
deriving DecidableEq

namespace Zone

def offset (reading : Nat) : Zone → Offset
  | .fixed o => o
  | .region r later => (r.standard reading later).offset

/-- What a zone is called at a reading of its clocks. -/
def label (reading : Nat) : Zone → String
  | .fixed o => o.zoneName
  | .region r later => (r.standard reading later).label

/-- The zone for a reading of which nothing is said. -/
def unsaid : Zone → Zone
  | .fixed o => .fixed o
  | .region r _ => .region r false

def sameRegion : Zone → Zone → Bool
  | .region r _, .region s _ => r == s
  | _, _ => false

/-- The two standards that a reading may go by are at different distances from universal time. -/
def isDoubtful (reading : Nat) : Zone → Bool
  | .fixed _ => false
  | .region r _ => (r.standard reading false).offset != (r.standard reading true).offset

end Zone

end Formula.Calendar
