import HomeEntities.Entity.State
import HomeEntities.Text.Slug

/-!
# Entities

An entity is bound to a device of a tree, and to a feature of it if there is one behind it. What
the registry needs is settled when the entity is made; its state and whether it can be read change
with every update.

* `Binding`: what an entity is made of.
* `Entity.create`: bind an entity.
* `Entity.update`: read the device anew. Only the first of several failures in a row is logged.
-/

namespace HomeEntities

/-- The id of an entity, made of the names of its platform, its device and itself. -/
def entityIdFor (platform : Platform) (deviceName : String) (name : Option String) : String :=
  let full := match name with
    | some name => deviceName ++ " " ++ name
    | none => deviceName
  platform.name ++ "." ++ Text.slugify full

/-- What an entity is made of: its device, the feature behind it and the parent of the device, where
there are any, and the state that it starts in. -/
structure Binding where
  device : Device
  feature : Option Feature := none
  parent : Option Device := none
  description : Option Description := none
  fixedId : Option String := none
  state : State

namespace Binding

/-- What the registry is asked for. -/
def request (b : Binding) : Request where
  platform := b.state.platform
  device := b.device
  feature := b.feature
  parent := b.parent
  key := b.description.map (·.key)
  fixedId := b.fixedId

/-- What is worth logging when the entity is made. -/
def events (b : Binding) : List Event := EntityCategory.events b.feature

end Binding

/-- An entity of any platform. -/
structure Entity where
  deviceId : String
  deviceName : String
  featureId : Option String
  identity : Identity
  description : Option Description
  entityId : String
  /-- Whether the last reading succeeded. -/
  readable : Bool
  state : State

namespace Entity

def platform (e : Entity) : Platform := e.state.platform

def uniqueId (e : Entity) : String := e.identity.uniqueId

/-- The name of the entity; none if it stands for the device itself. -/
def name (e : Entity) : Option String := e.identity.name <|> e.description.map (·.name)

/-- Whether the registry enables the entity when it is first seen. -/
def enabled (e : Entity) : Bool := (e.description.map (·.enabled)).getD true

/-- Bind an entity. -/
def create (legacyId : Device → String) (b : Binding) : Except NoUniqueId Entity :=
  match b.request.resolve legacyId with
  | .error e => .error e
  | .ok identity => .ok {
      deviceId := b.device.id
      deviceName := b.device.name
      featureId := b.feature.map (·.id)
      identity
      description := b.description
      entityId := entityIdFor b.state.platform identity.deviceInfo.name
        (identity.name <|> b.description.map (·.name))
      readable := true
      state := b.state }

/-- The device and the feature that the entity reads. -/
def source (snapshot : Device) (e : Entity) : Except ReadError (Device × Option Feature) :=
  match snapshot.find? e.deviceId with
  | none => .error (.missingDevice e.deviceId)
  | some device =>
    match e.featureId with
    | none => .ok (device, none)
    | some id =>
      match device.requiredFeature id with
      | .ok feature => .ok (device, some feature)
      | .error error => .error error

/-- Bring the state of the entity up to date from the device it reads. -/
def updateState (snapshot : Device) (e : Entity) : Except ReadError (List Event) × State :=
  match e.source snapshot with
  | .error error => (.error error, e.state)
  | .ok (device, feature) => e.state.update device feature (e.description.bind (·.unit))

/-- Read the entity anew. A failure makes it unreadable, which is logged if it was readable. -/
def update (snapshot : Device) (e : Entity) : Entity × List Event :=
  match e.updateState snapshot with
  | (.ok events, state) => ({ e with state, readable := true }, events)
  | (.error error, state) =>
    ({ e with state, readable := false },
      if e.readable then [.unreadable e.deviceName e.deviceId e.entityId error] else [])

end Entity

end HomeEntities
