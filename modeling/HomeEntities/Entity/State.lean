import HomeEntities.Device.Basic
import HomeEntities.Entity.Description
import HomeEntities.Log.Event
import HomeEntities.Registry.Identity

/-!
# States of entities

Each platform has a state of its own and a hook that brings it up to date. A hook is given a device,
and the feature behind the entity if there is one; it changes the state in place, and can fail.

* `Hook`: what a hook can do.
* `State.update`: the hook of an entity of any platform.
* `State.toJson`: a state as it is reported.
-/

namespace HomeEntities

open Decimal

/-! ### Typed values -/

namespace Feature

/-- The error of a value of the wrong kind. -/
def unexpected (feature : Feature) (kind : ValueKind) : ReadError :=
  .unexpectedValue feature.id kind feature.value

/-- A typed value of a feature. -/
def typed {α : Type} (feature : Feature) (kind : ValueKind) (read : Json → Option α) :
    Except ReadError α :=
  match read feature.value with
  | some a => .ok a
  | none => .error (feature.unexpected kind)

def boolean (feature : Feature) : Except ReadError Bool := feature.typed .boolean Json.asBool?

def number (feature : Feature) : Except ReadError Binary64 :=
  feature.typed .number Json.asNumber?

/-- The number of a feature that need not be there. -/
def number? (feature : Option Feature) : Except ReadError (Option Binary64) := feature.mapM number

def text (feature : Feature) : Except ReadError String := feature.typed .string Json.asText?

/-- The value of a feature that is no array and no object. -/
def scalar (feature : Feature) : Except ReadError Json :=
  match feature.value with
  | .arr _ | .obj _ => .error (feature.unexpected .scalar)
  | value => .ok value

end Feature

/-- A feature that a reading cannot do without. -/
def Device.requiredFeature (device : Device) (id : String) : Except ReadError Feature :=
  match device.feature? id with
  | some feature => .ok feature
  | none => .error (.missingFeature device.id id)

/-! ### Hooks -/

/-- A hook changes a state in place. It can fail at any point; the state is then what it had been
changed to. What it gives is what is worth logging. -/
abbrev Hook (σ : Type) := ExceptT ReadError (StateM σ)

/-- Run a hook on a part of a larger state. -/
def Hook.within {σ τ : Type} (wrap : σ → τ) (hook : Hook σ (List Event)) (s : σ) :
    Except ReadError (List Event) × τ :=
  let (outcome, s) := hook.run.run s
  (outcome, wrap s)

/-! ### Climate -/

/-- What a thermostat is set to. -/
inductive HvacMode where
  | heat | off
deriving Repr, DecidableEq

namespace HvacMode

def name : HvacMode → String
  | heat => "heat"
  | off => "off"

/-- The mode of a name. -/
def ofName? (s : String) : Option HvacMode := [heat, off].find? (·.name == s)

/-- The mode of a thermostat that is switched on or off. -/
def ofState (on : Bool) : HvacMode := if on then heat else off

end HvacMode

/-- What a thermostat is doing. -/
inductive HvacAction where
  | idle | heating | off
deriving Repr, DecidableEq

namespace HvacAction

def name : HvacAction → String
  | idle => "idle"
  | heating => "heating"
  | off => "off"

/-- The action of a name. -/
def ofName? (s : String) : Option HvacAction := [idle, heating, off].find? (·.name == s)

end HvacAction

/-- The state of a climate entity; temperatures are in degrees Celsius. -/
structure ClimateState where
  current : Option Binary64 := none
  target : Option Binary64 := none
  minimum : Option Binary64 := none
  maximum : Option Binary64 := none
  mode : Option HvacMode := none
  action : Option HvacAction := none
deriving DecidableEq

namespace ClimateState

def currentId : String := "temperature"
def targetId : String := "target_temperature"
def modeId : String := "mode"

/-- Bring a thermostat up to date. A mode that is no known action counts as off, with a warning. -/
def update (device : Device) : Hook ClimateState (List Event) := do
  let targetFeature ← device.requiredFeature targetId
  let on ← (← device.requiredFeature stateId).boolean
  let mode ← (← device.requiredFeature modeId).text
  let current ← (← device.requiredFeature currentId).number
  let target ← targetFeature.number
  let action? := HvacAction.ofName? mode
  set
    { current := some current
      target := some target
      minimum := targetFeature.minimum
      maximum := targetFeature.maximum
      mode := some (.ofState on)
      action := some (action?.getD .off) : ClimateState }
  return if action?.isNone then [.unknownThermostatState mode] else []

end ClimateState

/-! ### Light -/

/-- The state of a light; brightness is a percentage. -/
structure LightState where
  isOn : Option Bool := none
  brightness : Option Nat := none
  supportsBrightness : Bool := false
deriving Repr, DecidableEq

namespace LightState

def brightnessId : String := "brightness"

/-- Bring a light up to date. -/
def update (device : Device) : Hook LightState (List Event) := do
  let on ← (← device.requiredFeature stateId).boolean
  let brightness ← Feature.number? (device.feature? brightnessId)
  set
    { isOn := some on
      brightness := brightness.map fun x => (x.clamp (.ofInt 0) (.ofInt 100)).round.toByte
      supportsBrightness := (device.feature? brightnessId).isSome : LightState }
  return []

end LightState

/-! ### Entities of one feature -/

/-- The state of a number. -/
structure NumberState where
  value : Option Binary64 := none
  minimum : Option Binary64 := none
  maximum : Option Binary64 := none
deriving DecidableEq

/-- Bring a number and its bounds up to date. -/
def NumberState.update (feature : Option Feature) : Hook NumberState (List Event) := do
  if let some feature := feature then
    let value ← feature.number
    modify fun s => { s with value := some value }
    modify fun s => { s with minimum := feature.minimum }
    modify fun s => { s with maximum := feature.maximum }
  return []

/-- The state of a choice. -/
structure SelectState where
  current : Option String := none
  options : List String := []
deriving Repr, DecidableEq

/-- Bring a choice up to date; the options stay as they are if the feature names none. -/
def SelectState.update (feature : Option Feature) : Hook SelectState (List Event) := do
  if let some feature := feature then
    let current ← feature.text
    modify fun s => { s with current := some current }
    if let some choices := feature.choices then
      modify fun s => { s with options := choices }
  return []

/-- The state of a sensor. -/
structure SensorState where
  value : Json := .null
  unit : Option String := none

/-- Bring a sensor up to date; without a unit of its own the feature takes the described one. -/
def SensorState.update (feature : Option Feature) (described : Option String) :
    Hook SensorState (List Event) := do
  let some feature := feature | return []
  let value ← feature.scalar
  modify fun s => { s with value }
  modify fun s => { s with unit := feature.unit <|> described }
  return []

/-- Bring the state of a switch or of a binary sensor up to date. -/
def updateSwitch (feature : Option Feature) : Hook (Option Bool) (List Event) := do
  if let some feature := feature then
    let on ← feature.boolean
    set (some on)
  return []

/-! ### All platforms -/

/-- The state of an entity. An entity with a `fixed` state has nothing to read; it reports one
value for ever. -/
inductive State where
  | binarySensor (isOn : Option Bool)
  | button
  | climate (state : ClimateState)
  | light (state : LightState)
  | number (state : NumberState)
  | select (state : SelectState)
  | sensor (state : SensorState)
  | switch (isOn : Option Bool)
  | fixed (platform : Platform) (value : Json)

namespace State

/-- The platform of an entity in a state. -/
def platform : State → Platform
  | binarySensor _ => .binarySensor
  | button => .button
  | climate _ => .climate
  | light _ => .light
  | number _ => .number
  | select _ => .select
  | sensor _ => .sensor
  | switch _ => .switch
  | fixed platform _ => platform

/-- The state of an entity before its first reading. -/
def initial (platform : Platform) (feature : Option Feature) : State :=
  match platform with
  | .binarySensor => binarySensor none
  | .button => button
  | .climate => climate {}
  | .light => light {}
  | .number =>
    number { minimum := feature.bind (·.minimum), maximum := feature.bind (·.maximum) }
  | .select => select { options := (feature.bind (·.choices)).getD [] }
  | .sensor => sensor {}
  | .switch => switch none

/-- Bring the state of an entity up to date; what is worth logging about it, or why it failed, and
the state that is left. Lights and climate entities read the device; the others read the feature
behind them, if there is one. -/
def update (device : Device) (feature : Option Feature) (described : Option String) :
    State → Except ReadError (List Event) × State
  | binarySensor isOn => (updateSwitch feature).within binarySensor isOn
  | button => (.ok [], button)
  | climate s => (ClimateState.update device).within climate s
  | light s => (LightState.update device).within light s
  | number s => (NumberState.update feature).within number s
  | select s => (SelectState.update feature).within select s
  | sensor s => (SensorState.update feature described).within sensor s
  | switch isOn => (updateSwitch feature).within switch isOn
  | fixed platform value => (.ok [], fixed platform value)

/-- A state as it is reported. -/
def toJson : State → Json
  | binarySensor isOn | switch isOn => .obj [("is_on", .ofBool? isOn)]
  | button => .obj []
  | climate s => .obj [
    ("current_temperature", .ofNumber? s.current),
    ("target_temperature", .ofNumber? s.target),
    ("min_temp", .ofNumber? s.minimum),
    ("max_temp", .ofNumber? s.maximum),
    ("hvac_mode", .ofText? (s.mode.map HvacMode.name)),
    ("hvac_action", .ofText? (s.action.map HvacAction.name))]
  | light s => .obj [
    ("is_on", .ofBool? s.isOn),
    ("brightness", (s.brightness.map fun b => Json.int b).getD .null),
    ("supports_brightness", .bool s.supportsBrightness)]
  | number s => .obj [
    ("native_value", .ofNumber? s.value),
    ("native_min_value", .ofNumber? s.minimum),
    ("native_max_value", .ofNumber? s.maximum)]
  | select s => .obj [
    ("current_option", .ofText? s.current),
    ("options", .ofTexts s.options)]
  | sensor s => .obj [
    ("native_value", s.value),
    ("native_unit_of_measurement", .ofText? s.unit)]
  | fixed _ value => value

/-- The main value of a state, which the accessors of the platforms give: whether a switch or a
binary sensor is on, the value of a number or a sensor, the option chosen, the brightness of a light
and what a thermostat is doing. Entities without one give `null`. -/
def mainValue : State → Json
  | binarySensor isOn | switch isOn => .ofBool? isOn
  | climate s => .ofText? (s.action.map HvacAction.name)
  | light s => (s.brightness.map fun b => Json.int b).getD .null
  | number s => .ofNumber? s.value
  | select s => .ofText? s.current
  | sensor s => s.value
  | button | fixed .. => .null

end State

end HomeEntities
