import HomeEntities.Device.Basic
import HomeEntities.Json.Reader

/-!
# Reading devices

Devices, features and versions are records: an object with named members, or an array of the
members in order. Members that are not known are left out of account, a known member must not be
repeated, and members with a default may be absent.

* `Feature.ofJson?`, `Device.ofJson?`: the record that a value holds.
* `Device.read?`, `Feature.read?`: the record that a JSON text holds, with a limit on nesting.
-/

namespace HomeEntities

open Decimal

/-! ### Records -/

namespace Record

/-- The members of a record whose members are known by name and order. -/
def members? (known : List String) : Json → Option Json.Members
  | .obj members =>
    if known.all fun name => (members.filter (·.1 == name)).length ≤ 1 then some members else none
  | .arr items => if items.length ≤ known.length then some (known.zip items) else none
  | _ => none

/-- A member that must be present. -/
def required {α : Type} (members : Json.Members) (name : String) (read : Json → Option α) :
    Option α :=
  (members.find? name).bind read

/-- A member with a default. -/
def defaulted {α : Type} (members : Json.Members) (name : String) (default : α)
    (read : Json → Option α) : Option α :=
  match members.find? name with
  | none => some default
  | some value => read value

/-- A value that may be `null`. -/
def nullable {α : Type} (read : Json → Option α) : Json → Option (Option α)
  | .null => some none
  | value => (read value).map some

/-- A name out of a fixed set: a text, or an object whose only member holds `null`. -/
def name? : Json → Option String
  | .str s => some s
  | .obj [(s, .null)] => some s
  | _ => none

/-- A list of texts. -/
def texts? (value : Json) : Option (List String) :=
  value.asItems?.bind fun items => items.mapM Json.asText?

end Record

/-! ### Features -/

namespace Feature

def memberNames : List String :=
  ["id", "name", "type", "category", "value", "choices", "minimum_value", "maximum_value", "unit"]

open Record in
/-- The feature with the given members. -/
def ofMembers? (members : Json.Members) : Option Feature := do
  let id ← required members "id" Json.asText?
  let name ← required members "name" Json.asText?
  let type ← required members "type" name?
  let category ← required members "category" name?
  let value ← defaulted members "value" .null Json.normal?
  let choices ← defaulted members "choices" none (nullable texts?)
  let minimum ← defaulted members "minimum_value" none (nullable Json.asNumber?)
  let maximum ← defaulted members "maximum_value" none (nullable Json.asNumber?)
  let unit ← defaulted members "unit" none (nullable Json.asText?)
  return { id, name, type := .ofName type, category := .ofName category, value, choices,
           minimum, maximum, unit }

/-- The feature that a value holds. -/
def ofJson? (value : Json) : Option Feature :=
  (Record.members? memberNames value).bind ofMembers?

end Feature

/-! ### Devices -/

namespace Versions

def memberNames : List String := ["sw_ver", "hw_ver"]

/-- The versions that a value holds. -/
def ofJson? (value : Json) : Option Versions := do
  let members ← Record.members? memberNames value
  let software ← Record.defaulted members "sw_ver" "" Json.asText?
  let hardware ← Record.defaulted members "hw_ver" "" Json.asText?
  return { software, hardware }

end Versions

namespace Device

def memberNames : List String :=
  ["device_id", "alias", "model", "mac", "device_type", "family", "hw_info", "features", "children"]

/-- The features in an array. -/
def features? (value : Json) : Option (List Feature) :=
  value.asItems?.bind fun items => items.mapM Feature.ofJson?

open Record in
/-- The device with the given members and children. -/
def ofMembers? (members : Json.Members) (children : List Device) : Option Device := do
  let id ← required members "device_id" Json.asText?
  let name ← required members "alias" Json.asText?
  let model ← required members "model" Json.asText?
  let mac ← required members "mac" Json.asText?
  let type ← required members "device_type" name?
  let family ← defaulted members "family" .smart fun v => (name? v).bind Family.ofName?
  let versions ← defaulted members "hw_info" {} Versions.ofJson?
  let features ← defaulted members "features" [] features?
  return { id, name, model, mac, type := .ofName type, family, versions, features, children }

mutual

/-- The device that a value holds, with its children to any depth. -/
def ofJson? : Json → Option Device
  | .obj members =>
    match Record.members? memberNames (.obj members), childrenMember? members with
    | some members, some children => ofMembers? members children
    | _, _ => none
  | .arr items =>
    match Record.members? memberNames (.arr items), childrenItem? 8 items with
    | some members, some children => ofMembers? members children
    | _, _ => none
  | _ => none

/-- The devices in an array. -/
def listOfJson? : Json → Option (List Device)
  | .arr items => listOfItems? items
  | _ => none

def listOfItems? : List Json → Option (List Device)
  | [] => some []
  | item :: rest =>
    match ofJson? item, listOfItems? rest with
    | some device, some devices => some (device :: devices)
    | _, _ => none

/-- The children among the members of an object, none if there is no such member. -/
def childrenMember? : List (String × Json) → Option (List Device)
  | [] => some []
  | (name, value) :: rest =>
    if name == "children" then listOfJson? value else childrenMember? rest

/-- The children at a position of an array, none if the array ends before it. -/
def childrenItem? : Nat → List Json → Option (List Device)
  | _, [] => some []
  | 0, value :: _ => listOfJson? value
  | n + 1, _ :: rest => childrenItem? n rest

end

end Device

/-! ### Nesting -/

/-- What a place in a device text holds. Nothing is known of what stands anywhere else. -/
inductive Place where
  | device | devices | feature | features | versions | name | value | plain
deriving DecidableEq

namespace Place

/-- What a named member of a record holds. -/
def member? : Place → String → Option Place
  | device, "device_type" => some name
  | device, "family" => some name
  | device, "hw_info" => some versions
  | device, "features" => some features
  | device, "children" => some devices
  | device, key => if key ∈ Device.memberNames then some plain else none
  | feature, "type" => some name
  | feature, "category" => some name
  | feature, "value" => some value
  | feature, "choices" => some value
  | feature, key => if key ∈ Feature.memberNames then some plain else none
  | value, _ => some value
  | _, _ => none

/-- What the next items of an array hold: those of a record by order, those of a list alike. -/
def items : Place → List (Option Place)
  | device => Device.memberNames.map device.member?
  | feature => Feature.memberNames.map feature.member?
  | _ => []

/-- What each further item of an array holds. -/
def item? : Place → Option Place
  | devices => some device
  | features => some feature
  | value => some value
  | _ => none

end Place

mutual

/-- How many brackets stand around the deepest known part of a value. -/
def Json.nesting (place : Place) : Json → Nat
  | .arr items => 1 + Json.itemsNesting place.items place.item? items
  | .obj members => 1 + Json.membersNesting place members
  | _ => 0

def Json.itemsNesting (places : List (Option Place)) (further : Option Place) : List Json → Nat
  | [] => 0
  | item :: rest =>
    let here := match places.head?.getD further with
      | some place => Json.nesting place item
      | none => 0
    max here (Json.itemsNesting places.tail further rest)

def Json.membersNesting (place : Place) : List (String × Json) → Nat
  | [] => 0
  | (key, item) :: rest =>
    let here := match place.member? key with
      | some place => Json.nesting place item
      | none => 0
    max here (Json.membersNesting place rest)

end

/-- The deepest nesting that a text may have. -/
def nestingLimit : Nat := 127

/-- The device that a JSON text holds. -/
def Device.read? (text : String) : Option Device :=
  match Json.read? text with
  | some value =>
    if value.nesting .device ≤ nestingLimit then Device.ofJson? value else none
  | none => none

/-- The feature that a JSON text holds. A snapshot is read as a whole; this is the reading of one of
its features for itself, with the nesting counted from there. -/
def Feature.read? (text : String) : Option Feature :=
  match Json.read? text with
  | some value =>
    if value.nesting .feature ≤ nestingLimit then Feature.ofJson? value else none
  | none => none

end HomeEntities
