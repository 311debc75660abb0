import HomeEntities.Json.Basic

/-!
# Features

A feature is one capability of a device: something it measures, switches or can be told. Types
and categories that are not known by name read as `unknown` and `unset`.
-/

namespace HomeEntities

open Decimal

/-- What kind of entity a feature becomes. -/
inductive FeatureType where
  | sensor | binarySensor | switch | action | number | choice | unknown
deriving Repr, DecidableEq

namespace FeatureType

def all : List FeatureType := [sensor, binarySensor, switch, action, number, choice, unknown]

def name : FeatureType → String
  | sensor => "sensor"
  | binarySensor => "binary_sensor"
  | switch => "switch"
  | action => "action"
  | number => "number"
  | choice => "choice"
  | unknown => "unknown"

/-- The type of a name; names of no type are `unknown`. -/
def ofName (s : String) : FeatureType := (all.find? (·.name == s)).getD unknown

end FeatureType

/-- How prominent a feature is on its device. -/
inductive FeatureCategory where
  | primary | config | info | debug | unset
deriving Repr, DecidableEq

namespace FeatureCategory

def all : List FeatureCategory := [primary, config, info, debug, unset]

def name : FeatureCategory → String
  | primary => "primary"
  | config => "config"
  | info => "info"
  | debug => "debug"
  | unset => "unset"

/-- The category of a name; names of no category are `unset`. -/
def ofName (s : String) : FeatureCategory := (all.find? (·.name == s)).getD unset

end FeatureCategory

/-- One capability of a device. -/
structure Feature where
  id : String
  name : String
  type : FeatureType
  category : FeatureCategory
  value : Json := .null
  choices : Option (List String) := none
  minimum : Option Binary64 := none
  maximum : Option Binary64 := none
  unit : Option String := none

end HomeEntities
