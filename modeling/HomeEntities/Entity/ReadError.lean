import HomeEntities.Json.Writer

/-!
# Why a reading fails

An entity reads its device anew on every update. A reading fails if the device or a feature is
gone or if a value is of the wrong kind.
-/

namespace HomeEntities

/-- What kind of value a reading takes. -/
inductive ValueKind where
  | boolean | number | string | scalar
deriving Repr, DecidableEq

def ValueKind.name : ValueKind → String
  | boolean => "boolean"
  | number => "number"
  | string => "string"
  | scalar => "scalar"

/-- The cause of a failed reading. -/
inductive ReadError where
  | missingDevice (deviceId : String)
  | missingFeature (deviceId featureId : String)
  | unexpectedValue (featureId : String) (expected : ValueKind) (found : Json)

/-- The wording of a failed reading. -/
def ReadError.message : ReadError → String
  | missingDevice deviceId => "device " ++ deviceId ++ " is missing from the snapshot"
  | missingFeature deviceId featureId =>
    "feature " ++ featureId ++ " is missing on device " ++ deviceId
  | unexpectedValue featureId expected found =>
    "unexpected value for " ++ featureId ++ ": expected " ++ expected.name ++ ", found "
      ++ found.render

end HomeEntities
