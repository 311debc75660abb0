import HomeEntities.Entity.Basic

/-!
# Candidates

The entities that each platform makes of a device tree, before any is dropped. A candidate has a
*source*: the device and feature it comes from and the parent it hangs below. The tree has two
levels; what lies below a child is not looked at.

* `qualifies`: whether a feature becomes an entity of a type.
* `Platform.sources`: the sources of a platform, in order.
* `Platform.candidates`: the entities made of them.
-/

namespace HomeEntities

/-- Where an entity comes from. -/
structure Source where
  device : Device
  feature : Option Feature := none
  parent : Option Device := none

/-- Whether a feature of a device becomes an entity of a type. The main controls of light devices
belong to their light entities. -/
def qualifies (device : Device) (feature : Feature) (type : FeatureType) : Bool :=
  feature.type == type && (feature.category != .primary || !device.type.isLight)

/-- The qualifying features of one device. -/
def Device.sources (device : Device) (parent : Option Device) (type : FeatureType) : List Source :=
  (device.features.filter (qualifies device · type)).map fun f => ⟨device, some f, parent⟩

/-- The qualifying features of a tree: those of the children, then those of the root. -/
def Device.treeSources (root : Device) (type : FeatureType) : List Source :=
  root.children.flatMap (·.sources (some root) type) ++ root.sources none type

namespace Platform

/-- The sources of a platform in a tree. Lights stand for light devices, the root first; climate
entities stand for thermostats, which only exist as children. -/
def sources (platform : Platform) (root : Device) : List Source :=
  match platform with
  | .binarySensor => root.treeSources .binarySensor
  | .button => root.treeSources .action
  | .climate =>
    (root.children.filter (·.type == .thermostat)).map fun c => { device := c, parent := some root }
  | .light =>
    (if root.type.isLight then [{ device := root }] else [])
      ++ (root.children.filter (·.type.isLight)).map fun c => { device := c, parent := some root }
  | .number => root.treeSources .number
  | .select => root.treeSources .choice
  | .sensor => root.treeSources .sensor
  | .switch => root.treeSources .switch

/-- The description of an entity made of a feature. Select entities take the feature's choices as
their options; lights and climate entities have no description. -/
def describe? (platform : Platform) (feature : Feature) (extras : Extras) : Option Description :=
  match platform with
  | .climate | .light => none
  | .select => some (.ofFeature feature { extras with options := some (feature.choices.getD []) })
  | _ => some (.ofFeature feature extras)

/-- The unique id that entities of a platform insist on. -/
def fixedId? (platform : Platform) (device : Device) : Option String :=
  if platform == .climate then some (device.id ++ "_climate") else none

/-- What an entity of a platform is made of, in its initial state. -/
def binding (platform : Platform) (extras : Extras) (source : Source) : Binding where
  device := source.device
  feature := source.feature
  parent := source.parent
  description := source.feature.bind (platform.describe? · extras)
  fixedId := platform.fixedId? source.device
  state := .initial platform source.feature

/-- An entity of a platform, in its initial state. -/
def entity (platform : Platform) (extras : Extras) (source : Source) : Except NoUniqueId Entity :=
  Entity.create Device.legacyId (platform.binding extras source)

/-- The entities that a platform makes of a tree. -/
def candidates (platform : Platform) (root : Device) (extras : Extras) :
    Except NoUniqueId (List Entity) :=
  (platform.sources root).mapM (platform.entity extras)

/-- What is worth logging while a platform makes its entities. -/
def events (platform : Platform) (root : Device) : List Event :=
  (if platform.featureType?.isSome && !root.children.isEmpty then
    [.initializing root.children.length] else [])
    ++ (platform.sources root).flatMap (fun s => EntityCategory.events s.feature)

end Platform

end HomeEntities
