import HomeEntities.Entity.Basic
import HomeEntities.Proofs.Decimal.Whole

/-! # What hooks do

Each hook reads all that it needs before it changes anything. So it does what a *reading* says,
which takes the device and gives a new state or an error, and changes nothing: after the hook the
state is the one that was read, and **a failure leaves it as it was**. This is shown platform by
platform (`LightState.run_update` and its like), and for all of them in `State.update_eq` and
`State.update_of_error`. An update of an entity is a reading of its source in the same way
(`Entity.update_eq`), and what is proved of updates is proved of readings. -/

namespace HomeEntities

open Decimal

/-- A state after a reading: the new one, with what is worth logging, or the old one after a
failure. -/
def settled {σ : Type} (s : σ) :
    Except ReadError (σ × List Event) → Except ReadError (List Event) × σ
  | .ok (s', events) => (.ok events, s')
  | .error error => (.error error, s)

theorem settled_eq_error {σ : Type} {s s' : σ} {x : Except ReadError (σ × List Event)}
    {error : ReadError} (h : settled s x = (.error error, s')) : s' = s := by
  cases x with
  | error => cases h; rfl
  | ok => cases h

namespace Hook

variable {σ : Type} {s : σ}

/-- A hook that begins with a reading does what is read, if what follows does. -/
theorem run_bind {α : Type} {x : Except ReadError α} {hook : α → Hook σ (List Event)}
    {reading : α → Except ReadError (σ × List Event)}
    (h : ∀ a, (hook a).run.run s = settled s (reading a)) :
    (liftM x >>= hook).run.run s = settled s (x >>= reading) := by
  cases x with
  | error => rfl
  | ok a => exact h a

variable {τ : Type} {hook : Hook σ (List Event)}

theorem within_eq {reading : Except ReadError (σ × List Event)}
    (h : hook.run.run s = settled s reading) (wrap : σ → τ) : hook.within wrap s =
      settled (wrap s) ((fun (s', events) => (wrap s', events)) <$> reading) := by
  unfold within
  rw [h]
  cases reading <;> rfl

theorem within_eq_map {reading : Except ReadError σ}
    (h : hook.run.run s = settled s ((·, []) <$> reading)) (wrap : σ → τ) :
    hook.within wrap s = settled (wrap s) ((·, []) <$> wrap <$> reading) := by
  rw [within_eq h, Functor.map_map, Functor.map_map]

end Hook

/-! ### Thermostats and lights -/

namespace ClimateState

/-- Read a thermostat. A mode that is no known action counts as off, with a warning. -/
def read (device : Device) : Except ReadError (ClimateState × List Event) := do
  let targetFeature ← device.requiredFeature targetId
  let on ← (← device.requiredFeature stateId).boolean
  let mode ← (← device.requiredFeature modeId).text
  let current ← (← device.requiredFeature currentId).number
  let target ← targetFeature.number
  let action? := HvacAction.ofName? mode
  let state : ClimateState :=
    { current := some current
      target := some target
      minimum := targetFeature.minimum
      maximum := targetFeature.maximum
      mode := some (.ofState on)
      action := some (action?.getD .off) }
  return (state, if action?.isNone then [.unknownThermostatState mode] else [])

theorem run_update (s : ClimateState) (device : Device) :
    (update device).run.run s = settled s (read device) :=
  Hook.run_bind fun _ => Hook.run_bind fun _ => Hook.run_bind fun _ => Hook.run_bind fun _ =>
    Hook.run_bind fun _ => Hook.run_bind fun _ => Hook.run_bind fun _ => Hook.run_bind fun _ => rfl

end ClimateState

namespace LightState

/-- Read a light. -/
def read (device : Device) : Except ReadError LightState := do
  let isOn ← (← device.requiredFeature stateId).boolean
  match device.feature? brightnessId with
  | none => return { isOn := some isOn }
  | some feature =>
    let brightness ← feature.number
    return { isOn := some isOn, brightness := some brightness.percent, supportsBrightness := true }

theorem run_update (s : LightState) (device : Device) :
    (update device).run.run s = settled s ((·, []) <$> read device) := by
  unfold update read
  simp only [map_bind]
  refine Hook.run_bind fun switch => Hook.run_bind fun on => ?_
  cases device.feature? brightnessId with
  | none => rfl
  | some feature =>
    dsimp only [Feature.number?, Option.mapM]
    cases feature.number with
    | error => rfl
    | ok x =>
      exact congrArg (fun b : Nat =>
        ((.ok [], ⟨some on, some b, true⟩) : Except ReadError (List Event) × LightState))
        x.toByte_round_clamp

end LightState

/-! ### Entities of one feature -/

/-- Read a number and its bounds. -/
def NumberState.read (feature : Feature) : Except ReadError NumberState := do
  let value ← feature.number
  return { value := some value, minimum := feature.minimum, maximum := feature.maximum }

theorem NumberState.run_update (s : NumberState) (feature : Feature) :
    (update (some feature)).run.run s = settled s ((·, []) <$> read feature) := by
  unfold read
  rw [map_bind]
  exact Hook.run_bind fun _ => rfl

/-- Read a choice; the options stay as they are if the feature names none. -/
def SelectState.read (feature : Feature) (old : SelectState) : Except ReadError SelectState := do
  let current ← feature.text
  return { current := some current, options := feature.choices.getD old.options }

theorem SelectState.run_update (s : SelectState) (feature : Feature) :
    (update (some feature)).run.run s = settled s ((·, []) <$> read feature s) := by
  unfold update read
  rw [map_bind]
  refine Hook.run_bind fun current => ?_
  cases feature.choices <;> rfl

/-- Read a sensor; without a unit of its own the feature takes the described one. -/
def SensorState.read (feature : Feature) (described : Option String) :
    Except ReadError SensorState := do
  let value ← feature.scalar
  return { value, unit := feature.unit <|> described }

theorem SensorState.run_update (s : SensorState) (feature : Feature) (described : Option String) :
    (update (some feature) described).run.run s =
      settled s ((·, []) <$> read feature described) := by
  unfold read
  rw [map_bind]
  exact Hook.run_bind fun _ => rfl

theorem run_updateSwitch (feature : Feature) (isOn : Option Bool) :
    (updateSwitch (some feature)).run.run isOn =
      settled isOn ((·, []) <$> some <$> feature.boolean) := by
  rw [Functor.map_map, map_eq_pure_bind]
  exact Hook.run_bind fun _ => rfl

/-! ### All platforms -/

namespace State

/-- The next state of an entity made of a feature. -/
def readFeature (feature : Feature) (described : Option String) : State → Except ReadError State
  | binarySensor _ => (fun b => binarySensor (some b)) <$> feature.boolean
  | number _ => number <$> NumberState.read feature
  | select old => select <$> SelectState.read feature old
  | sensor _ => sensor <$> SensorState.read feature described
  | switch _ => (fun b => switch (some b)) <$> feature.boolean
  | state => .ok state

/-- The next state of an entity and what is worth logging about it. Lights and climate entities
read the device; the others read the feature behind them, if there is one. -/
def read (device : Device) (feature : Option Feature) (described : Option String) :
    State → Except ReadError (State × List Event)
  | climate _ => (fun (s, events) => (climate s, events)) <$> ClimateState.read device
  | light _ => (fun s => (light s, [])) <$> LightState.read device
  | state =>
    match feature with
    | some feature => (fun s => (s, [])) <$> readFeature feature described state
    | none => .ok (state, [])

/-- **A hook does what is read.** -/
theorem update_eq (device : Device) (feature : Option Feature) (described : Option String)
    (s : State) :
    s.update device feature described = settled s (s.read device feature described) := by
  cases s with
  | climate s => exact Hook.within_eq (s.run_update device) climate
  | light s => rw [update, Hook.within_eq_map (s.run_update device), Functor.map_map, read]
  | button | fixed => cases feature <;> rfl
  | binarySensor isOn | switch isOn =>
    cases feature with
    | none => rfl
    | some feature =>
      rw [update, Hook.within_eq_map (run_updateSwitch feature isOn), Functor.map_map some]
      rfl
  | number s =>
    cases feature with
    | none => rfl
    | some feature => exact Hook.within_eq_map (s.run_update feature) number
  | select s =>
    cases feature with
    | none => rfl
    | some feature => exact Hook.within_eq_map (s.run_update feature) select
  | sensor s =>
    cases feature with
    | none => rfl
    | some feature => exact Hook.within_eq_map (s.run_update feature described) sensor

/-- **A failure leaves the state** as it was, on every platform. -/
theorem update_of_error {device : Device} {feature : Option Feature} {described : Option String}
    {s s' : State} {error : ReadError}
    (h : s.update device feature described = (.error error, s')) : s' = s :=
  settled_eq_error ((update_eq device feature described s).symm.trans h)

end State

/-! ### Entities -/

namespace Entity

/-- The next state of the entity and what is worth logging about it. -/
def read (snapshot : Device) (e : Entity) : Except ReadError (State × List Event) :=
  match e.source snapshot with
  | .error error => .error error
  | .ok (device, feature) => e.state.read device feature (e.description.bind (·.unit))

theorem updateState_eq (snapshot : Device) (e : Entity) :
    e.updateState snapshot = settled e.state (e.read snapshot) := by
  unfold updateState read
  cases e.source snapshot with
  | error => rfl
  | ok found => exact State.update_eq found.1 found.2 _ e.state

/-- **An update** gives an entity the state that is read, or makes it unreadable and leaves its
state. -/
theorem update_eq (snapshot : Device) (e : Entity) : e.update snapshot =
    match e.read snapshot with
    | .ok (state, events) => ({ e with state, readable := true }, events)
    | .error error =>
      ({ e with readable := false },
        if e.readable then [.unreadable e.deviceName e.deviceId e.entityId error] else []) := by
  unfold update
  rw [updateState_eq]
  cases e.read snapshot <;> rfl

end Entity

end HomeEntities
