import HomeEntities.Connection.Coordinator
import HomeEntities.Decimal.Layout
import HomeEntities.Entity.Basic
import HomeEntities.Text.Template

/-!
# Actions

An action on an entity is checked first; what passes is a list of values to write to features of
the entity's own device. After all writes succeeded the device tree is fetched once, whether or
not that succeeds. A failed write is reported in the user's words and nothing is fetched.

* `Entity.writes`: the check, and the writes of an action.
* `Connection.finish`: what follows the writes.
* `Connection.perform`: a whole action.
-/

namespace HomeEntities

open Decimal

/-! ### Reports -/

/-- How a cause of failure is put to the user. -/
structure Notice where
  failure : Failure
  key : String
  /-- The wording, with marks for the action and for the device's own text. -/
  template : String
  /-- Whether new credentials are needed. -/
  startReauth : Bool
deriving Repr, DecidableEq

/-- The mark for the name of an action. -/
def funcMark : String := "\x7bfunc\x7d"

/-- The mark for the text of a failure. -/
def excMark : String := "\x7bexc\x7d"

namespace Notice

/-- The notice of what is no more than a failure of the device. -/
def generic : Notice :=
  ⟨.device, "device_error",
    "Unable to communicate with the device " ++ funcMark ++ ": " ++ excMark, false⟩

/-- The notices, each with the cause that it is for. -/
def all : List Notice :=
  [⟨.authentication, "device_authentication",
    "Device authentication error " ++ funcMark ++ ": " ++ excMark, true⟩,
  ⟨.timeout, "device_timeout",
    "Timeout communicating with the device " ++ funcMark ++ ": " ++ excMark, false⟩,
  generic]

end Notice

/-- The notice of a cause, the last one if none is for it. -/
def Failure.notice (failure : Failure) : Notice :=
  (Notice.all.find? (·.failure == failure)).getD .generic

/-- A failed write as it is reported. -/
structure Report where
  key : String
  func : String
  exc : String
  message : String
  source : DeviceError
deriving Repr, DecidableEq

/-- Report a failed write of an action. -/
def Report.ofError (func : String) (e : DeviceError) : Report :=
  let notice := e.failure.notice
  { key := notice.key
    func
    exc := e.text
    message := Text.fill excMark e.text (Text.fill funcMark func notice.template)
    source := e }

/-- Why an action is refused before anything is written. -/
inductive Refusal where
  | notBacked
  | invalidOption (option : String)
  | outOfRange (value : Binary64)
  | unsupportedBrightness (brightness : Nat)

/-- The wording of a refusal. -/
def Refusal.reason (entityId : String) : Refusal → String
  | notBacked => entityId ++ " is not backed by a feature"
  | invalidOption option => option ++ " is not a valid option for " ++ entityId
  | outOfRange value => value.plain ++ " is out of range for " ++ entityId
  | unsupportedBrightness brightness =>
    "brightness " ++ toString brightness ++ " is not supported by " ++ entityId

/-- How an action can fail. -/
inductive ActionError where
  | device (report : Report)
  | invalidInput (func reason : String)

def ActionError.message : ActionError → String
  | device report => report.message
  | invalidInput func reason => "Invalid input for " ++ func ++ ": " ++ reason

/-! ### Checks -/

/-- What can be asked of an entity. -/
inductive Action where
  | turnOn
  | turnOnAt (brightness : Nat)
  | turnOff
  | press
  | selectOption (option : String)
  | setNativeValue (value : Binary64)
  | setTemperature (value : Binary64)
  | setHvacMode (mode : HvacMode)

/-- The name of an action in reports. -/
def Action.func : Action → String
  | turnOn | turnOnAt _ => "turn_on"
  | turnOff => "turn_off"
  | press => "press"
  | selectOption _ => "select_option"
  | setNativeValue _ => "set_native_value"
  | setTemperature _ => "set_temperature"
  | setHvacMode _ => "set_hvac_mode"

/-- Whether a number is finite and within bounds, where there are any. -/
def inRange (value : Binary64) (minimum maximum : Option Binary64) : Bool :=
  value.isFinite && minimum.all (·.le value) && maximum.all (value.le ·)

namespace Entity

/-- A write to the feature behind the entity. -/
def ownWrite (e : Entity) (value : Json) : Except Refusal (List (String × Json)) :=
  match e.featureId with
  | some id => .ok [(id, value)]
  | none => .error .notBacked

/-- The writes of an action, or why it is refused; nothing if the platform has no such action.
Numbers are written as whole numbers. -/
def writes (e : Entity) (action : Action) : Option (Except Refusal (List (String × Json))) :=
  match e.state, action with
  | .switch _, .turnOn => some (e.ownWrite (.bool true))
  | .switch _, .turnOff => some (e.ownWrite (.bool false))
  | .button, .press => some (e.ownWrite (.bool true))
  | .select s, .selectOption option =>
    some (if s.options.contains option then e.ownWrite (.str option)
      else .error (.invalidOption option))
  | .number s, .setNativeValue value =>
    some (if inRange value s.minimum s.maximum then e.ownWrite (.int value.toInt64)
      else .error (.outOfRange value))
  | .light _, .turnOn => some (.ok [(stateId, .bool true)])
  | .light s, .turnOnAt brightness =>
    some (if s.supportsBrightness && brightness ≤ 100 then
        .ok [(LightState.brightnessId, .int brightness), (stateId, .bool true)]
      else .error (.unsupportedBrightness brightness))
  | .light _, .turnOff => some (.ok [(stateId, .bool false)])
  | .climate s, .setTemperature value =>
    some (if inRange value s.minimum s.maximum then
        .ok [(ClimateState.targetId, .int value.toInt64)]
      else .error (.outOfRange value))
  | .climate _, .setHvacMode mode => some (.ok [(stateId, .bool (mode == .heat))])
  | .climate _, .turnOn => some (.ok [(stateId, .bool true)])
  | .climate _, .turnOff => some (.ok [(stateId, .bool false)])
  | _, _ => none

end Entity

/-! ### Performance -/

namespace Connection

variable {σ : Type}

/-- What follows the writes of an action: a fetch after success, a report after failure. -/
def finish (client : Client σ) (func : String) :
    Except DeviceError Unit × Connection σ → Except ActionError Unit × Connection σ
  | (.ok (), c) => (.ok (), (c.refresh client).2)
  | (.error e, c) =>
    (.error (.device (.ofError func e)),
      if e.failure.notice.startReauth then c.startReauth else c)

/-- Write values to features of a device as one action. -/
def writeFeatures (client : Client σ) (func deviceId : String) (writes : List (String × Json))
    (c : Connection σ) : Except ActionError Unit × Connection σ :=
  finish client func (c.writeAll client deviceId writes)

/-- Perform an action on an entity; nothing if its platform has no such action. -/
def perform (client : Client σ) (e : Entity) (action : Action) (c : Connection σ) :
    Option (Except ActionError Unit × Connection σ) :=
  (e.writes action).map fun
    | .ok writes => c.writeFeatures client action.func e.deviceId writes
    | .error refusal => (.error (.invalidInput action.func (refusal.reason e.entityId)), c)

end Connection

end HomeEntities
