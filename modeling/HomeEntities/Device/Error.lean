/-!
# Failures of devices

What can go wrong when a device is asked or told something, with the text that it came with.
-/

namespace HomeEntities

/-- The cause of a failure. -/
inductive Failure where
  | authentication
  | timeout
  | device
deriving Repr, DecidableEq

/-- A failure and what was said about it. -/
structure DeviceError where
  failure : Failure
  text : String
deriving Repr, DecidableEq

namespace DeviceError

/-- A write to a device that is not in the tree. -/
def unknownDevice (deviceId : String) : DeviceError := ⟨.device, "Unknown device: " ++ deviceId⟩

/-- A write to a feature that the device does not have. -/
def unknownFeature (deviceId featureId : String) : DeviceError :=
  ⟨.device, "Unknown feature " ++ featureId ++ " on device " ++ deviceId⟩

end DeviceError

end HomeEntities
