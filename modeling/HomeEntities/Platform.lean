import HomeEntities.Device.Feature

/-!
# Platforms

A platform is the kind of an entity in the registry. Six platforms take one type of feature each;
lights and climate entities stand for whole devices.
-/

namespace HomeEntities

/-- The kind of an entity. -/
inductive Platform where
  | binarySensor | button | climate | light | number | select | sensor | switch
deriving Repr, DecidableEq

namespace Platform

/-- All platforms, in the order in which they are set up. -/
def all : List Platform :=
  [binarySensor, button, climate, light, number, select, sensor, switch]

def name : Platform → String
  | binarySensor => "binary_sensor"
  | button => "button"
  | climate => "climate"
  | light => "light"
  | number => "number"
  | select => "select"
  | sensor => "sensor"
  | switch => "switch"

/-- The platform of a name. -/
def ofName? (s : String) : Option Platform := all.find? (·.name == s)

/-- Platforms of mere measurements, which stay on their own device. -/
def isSensorDomain (p : Platform) : Bool := p == sensor

/-- The type of the features that become entities of a platform. -/
def featureType? : Platform → Option FeatureType
  | binarySensor => some .binarySensor
  | button => some .action
  | number => some .number
  | select => some .choice
  | sensor => some .sensor
  | switch => some .switch
  | climate | light => none

end Platform

end HomeEntities
