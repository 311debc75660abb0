import HomeEntities.Log.Event

/-!
# Entity categories

How the registry classes an entity that is not a main control of its device.
-/

namespace HomeEntities

/-- The class of an entity that is no main control. -/
inductive EntityCategory where
  | config
  | diagnostic
deriving Repr, DecidableEq

namespace EntityCategory

def name : EntityCategory → String
  | config => "config"
  | diagnostic => "diagnostic"

/-- The class of entities made of features of a category; main controls have none. -/
def ofCategory? : FeatureCategory → Option EntityCategory
  | .primary => none
  | .config => some .config
  | .info | .debug | .unset => some .diagnostic

/-- The class of an entity with or without a feature behind it. -/
def ofFeature? (feature : Option Feature) : Option EntityCategory :=
  feature.bind fun f => ofCategory? f.category

/-- Features without a category are reported when they are classed. -/
def events (feature : Option Feature) : List Event :=
  match feature with
  | some f => if f.category = .unset then [.unhandledCategory f.category f.id] else []
  | none => []

end EntityCategory

end HomeEntities
