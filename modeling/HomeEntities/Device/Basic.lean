import HomeEntities.Device.Feature
import HomeEntities.Text.Uppercase

/-!
# Devices

A device has features and children. Look-ups see two levels only, a root and its children, and
take the first match; the root comes before its children.

* `Device.find?`, `Device.feature?`: look-up by id.
* `Device.legacyId`: the key under which earlier releases knew a device.
* `normalizeMac`: a hardware address without separators, in capitals.
-/

namespace HomeEntities

/-- The kind of a device. -/
inductive DeviceType where
  | bulb | lightStrip | dimmer | hub | plug | strip | stripSocket | wallSwitch | fan | thermostat
  | sensor | camera | unknown
deriving Repr, DecidableEq

namespace DeviceType

def all : List DeviceType :=
  [bulb, lightStrip, dimmer, hub, plug, strip, stripSocket, wallSwitch, fan, thermostat, sensor,
    camera, unknown]

def name : DeviceType → String
  | bulb => "bulb"
  | lightStrip => "light_strip"
  | dimmer => "dimmer"
  | hub => "hub"
  | plug => "plug"
  | strip => "strip"
  | stripSocket => "strip_socket"
  | wallSwitch => "wall_switch"
  | fan => "fan"
  | thermostat => "thermostat"
  | sensor => "sensor"
  | camera => "camera"
  | unknown => "unknown"

/-- The kind of a name. -/
def ofName? (s : String) : Option DeviceType := all.find? (·.name == s)

/-- The kind of a name; names of no kind are `unknown`. -/
def ofName (s : String) : DeviceType := (ofName? s).getD unknown

/-- Kinds whose main control belongs to a light entity. -/
def isLight : DeviceType → Bool
  | bulb | lightStrip | dimmer => true
  | _ => false

end DeviceType

/-- The protocol that a device speaks. -/
inductive Family where
  | iot | smart
deriving Repr, DecidableEq

namespace Family

def name : Family → String
  | iot => "iot"
  | smart => "smart"

/-- The family of a name. -/
def ofName? (s : String) : Option Family := [iot, smart].find? (·.name == s)

end Family

/-- Versions of firmware and hardware. -/
structure Versions where
  software : String := ""
  hardware : String := ""
deriving Repr, DecidableEq

/-- A device with its features and children. Its name is the one that its users gave it. -/
structure Device where
  id : String
  name : String
  model : String
  mac : String
  type : DeviceType
  family : Family := .smart
  versions : Versions := {}
  features : List Feature := []
  children : List Device := []

instance : Inhabited Device := ⟨⟨"", "", "", "", .unknown, .smart, {}, [], []⟩⟩

namespace Device

/-- The first feature of an id. -/
def feature? (device : Device) (id : String) : Option Feature :=
  device.features.find? (·.id == id)

/-- The device itself or its first child of an id. -/
def find? (root : Device) (id : String) : Option Device :=
  if root.id == id then some root else root.children.find? (·.id == id)

/-- Whether the device speaks the older protocol. -/
def isLegacy (device : Device) : Bool := device.family == .iot

/-- The characters up to the next underscore. -/
def segment (cs : List Char) : List Char := cs.takeWhile (· != '_')

/-- The second of the segments that underscores cut a text into, if there are two. -/
def secondSegment? (cs : List Char) : Option (List Char) :=
  match cs.dropWhile (· != '_') with
  | [] => none
  | _ :: rest => some (segment rest)

/-- The key under which earlier releases knew a device: the second segment of its id, or the whole
id if it has no underscore. -/
def legacyId (device : Device) : String :=
  match secondSegment? device.id.toList with
  | some cs => String.ofList cs
  | none => device.id

end Device

/-- A hardware address without colons, in capitals. -/
def normalizeMac (mac : String) : String :=
  String.ofList ((mac.toList.filter (· != ':')).flatMap Text.uppercase)

end HomeEntities
