import HomeEntities.Device.Error
import HomeEntities.Entity.ReadError
import HomeEntities.Log.Level
import HomeEntities.Platform

/-!
# Log events

What is worth a line in the log, as data; the wording, the level and the target of each event are
functions of it.
-/

namespace HomeEntities

/-- Something worth logging. -/
inductive Event where
  | refreshFailed (error : DeviceError)
  | reauthStarted (name : String)
  | unhandledCategory (category : FeatureCategory) (featureId : String)
  | unreadable (name deviceId entityId : String) (error : ReadError)
  | initializing (children : Nat)
  | created (count : Nat) (platform : Platform)
  | duplicate (platform : Platform) (uniqueId entityId : String)
  | setUp (count : Nat) (name : String)
  | unknownThermostatState (state : String)
  | configLoaded (path : String)

namespace Event

def level : Event → Level
  | refreshFailed _ | unreadable .. | unknownThermostatState _ => .warn
  | reauthStarted _ | setUp .. | configLoaded _ => .info
  | unhandledCategory .. | duplicate .. => .error
  | initializing _ | created .. => .debug

/-- The part of the program that an event comes from. -/
def target : Event → String
  | refreshFailed _ | reauthStarted _ => "hearthd_tplink::coordinator"
  | unhandledCategory .. => "hearthd_tplink::entity::category"
  | unreadable .. => "hearthd_tplink::entity::coordinated"
  | initializing _ => "hearthd_tplink::entity::enumerate"
  | created .. | duplicate .. | setUp .. => "hearthd_tplink::platforms"
  | unknownThermostatState _ => "hearthd_tplink::platforms::climate"
  | configLoaded _ => "hearthd_tplink"

def message : Event → String
  | refreshFailed error => "Failed to refresh device: " ++ error.text
  | reauthStarted name => "Starting re-authentication for " ++ name
  | unhandledCategory category featureId =>
    "Unhandled category " ++ category.name ++ " for feature " ++ featureId
      ++ ", fallback to diagnostic"
  | unreadable name deviceId entityId error =>
    "Unable to read data for " ++ name ++ " (" ++ deviceId ++ ") " ++ entityId ++ ": "
      ++ error.message
  | initializing children => "Initializing device with " ++ toString children ++ " children"
  | created count platform => "Created " ++ toString count ++ " " ++ platform.name ++ " entities"
  | duplicate platform uniqueId entityId =>
    "Platform " ++ platform.name ++ " does not generate unique IDs. ID " ++ uniqueId
      ++ " already exists - ignoring " ++ entityId
  | setUp count name => "Set up " ++ toString count ++ " entities for " ++ name
  | unknownThermostatState state =>
    "Unknown thermostat state " ++ state ++ ", defaulting to OFF"
  | configLoaded path => "Loaded config from: " ++ path

/-- The line of an event in the log. -/
def line (event : Event) : String :=
  event.level.label ++ " " ++ event.target ++ ": " ++ event.message

end Event

/-- The lines of the events that a filter keeps. -/
def LogFilter.lines (filter : LogFilter) (events : List Event) : List String :=
  (events.filter fun e => filter.wouldEnable e.target e.level).map Event.line

end HomeEntities
