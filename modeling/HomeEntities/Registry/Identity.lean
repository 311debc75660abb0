import HomeEntities.Device.Basic
import HomeEntities.Registry.Category

/-!
# Identity in the registry

Every entity is filed in the registry under a unique id and a device record.

* `Request.uniqueId`: the unique id, which has to stay the same from release to release.
* `Request.deviceInfo`: the record. Main controls of a child are filed under its parent, unless
  the parent is a hub; measurements and settings stay on the child, whose record points back at
  the parent.
* `Request.resolve`: both, with the entity's name and category.
-/

namespace HomeEntities

/-- The domain of all identifiers in the registry. -/
def domain : String := "tplink"

def manufacturer : String := "TP-Link"

/-- The id of the feature that switches a device on and off. -/
def stateId : String := "state"

/-- How a device record is anchored: by hardware address, or by the device it is reached through. -/
inductive Link where
  | mac (address : String)
  | via (deviceId : String)
deriving Repr, DecidableEq

/-- The record of a device in the registry. -/
structure DeviceInfo where
  id : String
  manufacturer : String
  model : String
  name : String
  software : String
  hardware : String
  link : Link
deriving Repr, DecidableEq

/-- How an entity is filed in the registry. -/
structure Identity where
  uniqueId : String
  deviceInfo : DeviceInfo
  /-- The entity's name if its place in the registry dictates one. -/
  name : Option String
  category : Option EntityCategory
deriving Repr, DecidableEq

/-- Nothing that a unique id could be made of. -/
structure NoUniqueId where
  platform : Platform
  deviceId : String
deriving Repr, DecidableEq

def NoUniqueId.message (e : NoUniqueId) : String :=
  "No unique id can be derived for " ++ e.platform.name ++ " entity on device " ++ e.deviceId

/-- What the identity of an entity depends on. -/
structure Request where
  platform : Platform
  device : Device
  feature : Option Feature := none
  parent : Option Device := none
  /-- The key of the entity's description. -/
  key : Option String := none
  /-- A unique id that the entity insists on. -/
  fixedId : Option String := none

namespace Request

/-- The parent, if entities of the device may be filed under it. -/
def host? (r : Request) : Option Device := r.parent.filter (·.type != .hub)

/-- Whether the entity is a main control, to be filed under its host. -/
def isMainControl (r : Request) : Bool :=
  !r.platform.isSensorDomain && r.feature.all (·.category == .primary)

/-- The device that the entity is filed under. -/
def registryDevice (r : Request) : Device :=
  match r.host? with
  | some host => if r.isMainControl then host else r.device
  | none => r.device

/-- The name of the record. A child's own record carries the host's name in front, since children
often share their names. -/
def deviceName (r : Request) : String :=
  match r.host? with
  | some host => if r.isMainControl then host.name else host.name ++ " " ++ r.device.name
  | none => r.device.name

/-- The name of an entity filed under its host: that of the device it controls. -/
def name (r : Request) : Option String :=
  match r.host? with
  | some _ => if r.isMainControl then some r.device.name else none
  | none => none

/-- The record points at the parent unless it is the parent's own. -/
def link (r : Request) : Link :=
  match r.parent with
  | some parent => if parent.id != r.registryDevice.id then .via parent.id else .mac r.device.mac
  | none => .mac r.device.mac

/-- The device record that the entity is filed under. -/
def deviceInfo (r : Request) : DeviceInfo where
  id := r.registryDevice.id
  manufacturer := manufacturer
  model := r.registryDevice.model
  name := r.deviceName
  software := r.registryDevice.versions.software
  hardware := r.registryDevice.versions.hardware
  link := r.link

/-- The unique id, with a device's older key given by `legacyId`. The main switch carries the bare
key; lights carry the hardware address, save the dimmers that once were switches. -/
def uniqueId (legacyId : Device → String) (r : Request) : Except NoUniqueId String :=
  match r.feature with
  | some feature =>
    if feature.id == stateId then .ok (legacyId r.device)
    else .ok (legacyId r.device ++ "_" ++ feature.id)
  | none =>
    match r.fixedId with
    | some id => .ok id
    | none =>
      if r.platform == .light then
        if r.device.type == .dimmer && r.device.isLegacy then .ok (legacyId r.device)
        else .ok (normalizeMac r.device.mac)
      else
        match r.key with
        | some key => .ok (legacyId r.device ++ "_" ++ key)
        | none => .error ⟨r.platform, r.device.id⟩

/-- The identity of the entity. -/
def resolve (legacyId : Device → String) (r : Request) : Except NoUniqueId Identity :=
  match r.uniqueId legacyId with
  | .ok uniqueId => .ok ⟨uniqueId, r.deviceInfo, r.name, EntityCategory.ofFeature? r.feature⟩
  | .error e => .error e

end Request

end HomeEntities
