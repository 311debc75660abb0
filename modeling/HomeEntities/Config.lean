import HomeEntities.Entity.Description
import HomeEntities.Log.Level
import HomeEntities.Toml.Reader

/-!
# Configuration

A configuration is a TOML document with two sections, one for logging and one for the entities.
Sections and keys may be absent. Unknown ones are left out of account, but what looks like a number
under them has to be one. A section may also be written as an array of its values in order, where
nothing after the known values is looked at.

* `Config.read?`: the configuration that a text holds.
* `Config.extras`: what it says about descriptions.
-/

namespace HomeEntities

open Toml (Node)

/-- What can be configured. -/
structure Config where
  logging : LogFilter := {}
  enableDebugEntities : Option Bool := none
deriving Repr

namespace Config

/-- The keys of a section given by name, if those that are not known have values. -/
def namedKeys? (known : List String) (members : Toml.Members) : Option Toml.Members :=
  if members.all fun (name, node) => known.contains name || node.hasValue then some members
  else none

/-- The keys of a section, given by name or by order. A moment in time counts as a section without
known keys. -/
def keys? (known : List String) : Node → Option Toml.Members
  | .inline members | .table _ members => namedKeys? known members
  | .array items => some (known.zip items)
  | .tables earlier last => some (known.zip ((earlier ++ [last]).map (.table .declared)))
  | .datetime _ => some []
  | _ => none

/-- A key with a default. -/
def key? {α : Type} (members : Toml.Members) (name : String) (default : α)
    (read : Node → Option α) : Option α :=
  match members.lookup name with
  | none => some default
  | some node => read node

/-- A level: its name, or a table whose only key is its name and holds nothing. -/
def level? : Node → Option Level
  | .string name => Level.ofName? name
  | .inline [(name, content)] | .table _ [(name, content)] =>
    match content with
    | .array [] | .inline [] | .table _ [] => Level.ofName? name
    | _ => none
  | _ => none

/-- Levels for targets. -/
def overrides? : Node → Option (List (String × Level))
  | .inline members | .table _ members =>
    members.mapM fun (target, node) => (level? node).map (target, ·)
  | _ => none

def boolean? : Node → Option Bool
  | .boolean b => some b
  | _ => none

/-- The section on logging. -/
def logging? (node : Node) : Option LogFilter := do
  let members ← keys? ["level", "overrides"] node
  let level ← key? members "level" .info level?
  let overrides ← key? members "overrides" [] overrides?
  return .ofOverrides level overrides

/-- The section on entities. -/
def entities? (node : Node) : Option (Option Bool) := do
  let members ← keys? ["enable_debug_entities"] node
  key? members "enable_debug_entities" none fun node => (boolean? node).map some

/-- The configuration that a document holds. -/
def ofMembers? (members : Toml.Members) : Option Config := do
  let members ← namedKeys? ["logging", "tplink"] members
  let logging ← key? members "logging" {} logging?
  let enableDebugEntities ← key? members "tplink" none entities?
  return { logging, enableDebugEntities }

/-- The configuration that a text holds. -/
def read? (text : String) : Option Config := (Toml.read? text).bind ofMembers?

/-- What the configuration says about descriptions. -/
def extras (c : Config) : Extras := { debugEnabled := c.enableDebugEntities }

end Config

end HomeEntities
