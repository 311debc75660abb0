import HomeEntities.Device.Feature

/-!
# Descriptions

What is fixed about an entity made of a feature. Extras, given by the configuration or by a
platform, take the place of the defaults.
-/

namespace HomeEntities

/-- What may be set for descriptions in advance. -/
structure Extras where
  /-- Whether entities are enabled, whatever their category. -/
  enabled : Option Bool := none
  /-- Whether entities of debug features are enabled. -/
  debugEnabled : Option Bool := none
  options : Option (List String) := none
  unit : Option String := none
deriving Repr, DecidableEq

/-- What is fixed about an entity made of a feature. -/
structure Description where
  key : String
  name : String
  enabled : Bool
  options : Option (List String)
  unit : Option String
deriving Repr, DecidableEq

/-- The description of a feature. Entities of debug features are disabled unless extras say
otherwise. -/
def Description.ofFeature (feature : Feature) (extras : Extras) : Description where
  key := feature.id
  name := feature.name
  enabled := extras.enabled.getD (feature.category != .debug || extras.debugEnabled.getD false)
  options := extras.options
  unit := extras.unit <|> feature.unit

end HomeEntities
