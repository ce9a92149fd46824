import Formula.Host
import Formula.Text.Case
import Formula.Value.Basic

/-!
What a formula is evaluated against: fields, variables and datasets, the user, and the clock.
-/

namespace Formula

/-- The time that an evaluation reports. -/
structure Clock where
  now : Moment
  /-- What the zone of the clock is called, if it has one. -/
  zoneLabel : Option String
  /-- What the host calls its own zone at that time. -/
  hostZone : Except Fault String

namespace Clock

def ofMoment (host : Host) (now : Moment) : Clock where
  now := now
  zoneLabel := now.zoneLabel?
  hostZone := host.zoneName now

/-- A clock whose zone has no name is taken for the host's. -/
def zoneName (c : Clock) : Except Fault String :=
  match c.zoneLabel with
  | some label => if label.isEmpty then c.hostZone else .ok label
  | none => c.hostZone

end Clock

def anonymousUser : Record Text Value := [
  ("id", .text ""),
  ("email", .text ""),
  ("name", .text ""),
  ("groups", .array []),
  ("roles", .array []),
  ("metadata", .object [])]

structure Context where
  fields : Record String Value := []
  vars : Record String Value := []
  datasets : Record String (List Value) := []
  clock : Clock
  user : Record Text Value := anonymousUser
  timezone : Option String := none
  locale : String := "en-US"

/-- The names that a context answers itself when no field or variable has them. -/
def contextNames : List String := ["now", "today", "user", "system"]

namespace Context

/-- The zone that is reported: the one of the context, unless it is empty, else the clock's. -/
def zoneName (c : Context) : Except Fault String :=
  match c.timezone with
  | some zone => if zone.isEmpty then c.clock.zoneName else .ok zone
  | none => c.clock.zoneName

def now (c : Context) : Value := .date (.moment c.clock.now)

def today (c : Context) : Value := .date (.day c.clock.now.date)

def system (c : Context) : Except Fault Value := do
  let zone ← c.zoneName
  return .object [
    ("now", c.now),
    ("today", c.today),
    ("timezone", .text zone),
    ("locale", .text c.locale)]

/-- What the context itself answers to a name, in any case. -/
def ownValue (c : Context) (name : String) : Except Fault Value :=
  match Text.lowerName name with
  | "now" => .ok c.now
  | "today" => .ok c.today
  | "user" => .ok (.object c.user)
  | "system" => c.system
  | _ => .ok .null

/-- A name stands for a field, else for a variable, of which a name with a dollar sign also finds
the one without, else for what the context itself answers. -/
def resolve (c : Context) (name : String) : Except Fault Value :=
  match c.fields.get? name with
  | some v => .ok v
  | none =>
      match c.vars.get? name with
      | some v => .ok v
      | none =>
          match name.toList with
          | '$' :: bare => .ok ((c.vars.get? (String.ofList bare)).getD .null)
          | _ => c.ownValue name

/-- The context with other fields that batches and recalculations pass on: variables, datasets and
clock stay, user, timezone and locale do not. -/
def scope (c : Context) (fields : Record String Value) : Context where
  fields := fields
  vars := c.vars
  datasets := c.datasets
  clock := c.clock

end Context

end Formula
