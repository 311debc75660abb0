import HomeEntities.Device.Basic

/-!
# Writing devices

A device or feature as an object with every member, in order.

* `Device.toJson`, `Feature.toJson`: the object of a device and of a feature.
* `Json.overwrite`: an object whose members a device changed behind the back of the program.
-/

namespace HomeEntities

/-- A feature with all its members. -/
def Feature.toJson (f : Feature) : Json := .obj [
  ("id", .str f.id),
  ("name", .str f.name),
  ("type", .str f.type.name),
  ("category", .str f.category.name),
  ("value", f.value),
  ("choices", Json.ofTexts? f.choices),
  ("minimum_value", Json.ofNumber? f.minimum),
  ("maximum_value", Json.ofNumber? f.maximum),
  ("unit", Json.ofText? f.unit)]

/-- Versions with both members. -/
def Versions.toJson (v : Versions) : Json :=
  .obj [("sw_ver", .str v.software), ("hw_ver", .str v.hardware)]

mutual

/-- A device with all its members. -/
def Device.toJson : Device → Json
  | ⟨id, name, model, mac, type, family, versions, features, children⟩ => .obj [
    ("device_id", .str id),
    ("alias", .str name),
    ("model", .str model),
    ("mac", .str mac),
    ("device_type", .str type.name),
    ("family", .str family.name),
    ("hw_info", versions.toJson),
    ("features", .arr (features.map Feature.toJson)),
    ("children", .arr (Device.listToJson children))]

def Device.listToJson : List Device → List Json
  | [] => []
  | device :: rest => device.toJson :: Device.listToJson rest

end

/-- An object with some of its members given new values. Written, overwritten and read again, a
device or a feature is what a fetch may find in place of it. -/
def Json.overwrite (members : Json.Members) : Json → Json
  | .obj old => .obj (old.filter (fun (name, _) => (members.find? name).isNone) ++ members)
  | value => value

end HomeEntities
