import HomeEntities.Connection.Action
import HomeEntities.Proofs.Decimal.Whole
import HomeEntities.Proofs.Entity.Readings

/-! # What an entity shows after an action

An action that passes its check is planned as writes to the device of the entity. If the entity
shows what it reads from a tree, all of these writes find their features there; and in the tree with
the values put in place the entity can be read again and shows what was asked of it
(`Action.Shown`). `Entity.readsBack_of_read` says both: for the feature behind an entity
(`readsBack_of_feature`), for lights and for thermostats. After a write the source of the entity is
still there (`source_modify_setAll`). -/

namespace HomeEntities

open Decimal

/-- The state shows what the action asked for. Numbers show without their fraction. -/
def Action.Shown : Action → State → Prop
  | turnOn, .switch isOn => isOn = some true
  | turnOff, .switch isOn => isOn = some false
  | press, .button => True
  | selectOption option, .select s => s.current = some option
  | setNativeValue value, .number s => value.FitsInt64 → s.value = some value.truncated
  | turnOn, .light s => s.isOn = some true
  | turnOff, .light s => s.isOn = some false
  | turnOnAt brightness, .light s => s.isOn = some true ∧ s.brightness = some brightness
  | setTemperature value, .climate s => value.FitsInt64 → s.target = some value.truncated
  | setHvacMode mode, .climate s => s.mode = some mode
  | turnOn, .climate s => s.mode = some .heat
  | turnOff, .climate s => s.mode = some .off
  | _, _ => False

/-! ### Lights and thermostats -/

theorem Device.isSome_feature?_of_value? {d : Device} {id : String} {j : Json}
    (h : d.value? id = some j) : (d.feature? id).isSome = true := by
  obtain ⟨f, hf, -⟩ := value?_eq_some.mp h
  rw [hf]; rfl

namespace LightState

variable {d : Device} {s : LightState} (h : LightState.read d = .ok s)
include h

theorem isSome_state : (d.feature? stateId).isSome = true := by
  obtain ⟨on, hon, -⟩ := read_eq_ok.mp h
  exact Device.isSome_feature?_of_value? hon

theorem isSome_brightness (hs : s.supportsBrightness = true) :
    (d.feature? brightnessId).isSome = true := by
  obtain ⟨on, -, ⟨-, rfl⟩ | ⟨j, x, hj, -⟩⟩ := read_eq_ok.mp h
  · cases hs
  · exact Device.isSome_feature?_of_value? hj

theorem read_switch (on : Bool) :
    LightState.read (d.setFeature stateId (.bool on)) = .ok { s with isOn := some on } := by
  have hne : brightnessId ≠ stateId := by decide
  obtain ⟨old, hold, hb⟩ := read_eq_ok.mp h
  refine read_eq_ok.mpr ⟨on, ?_, ?_⟩
  · rw [Device.value?_setFeature, if_pos rfl, hold]; rfl
  · rw [Device.value?_setFeature, if_neg hne]
    rcases hb with ⟨hb, rfl⟩ | ⟨j, x, hj, hx, rfl⟩
    · exact Or.inl ⟨hb, rfl⟩
    · exact Or.inr ⟨j, x, hj, hx, rfl⟩

theorem read_dim (hs : s.supportsBrightness = true) {b : Nat} (hb : b ≤ 100) :
    LightState.read (d.setFeature brightnessId (.int b)) = .ok { s with brightness := some b } := by
  have hne : stateId ≠ brightnessId := by decide
  obtain ⟨on, hon, ⟨-, rfl⟩ | ⟨j, x, hj, -, rfl⟩⟩ := read_eq_ok.mp h
  · cases hs
  · refine read_eq_ok.mpr ⟨on, ?_, Or.inr ⟨.int b, .ofInt b, ?_, rfl, ?_⟩⟩
    · rw [Device.value?_setFeature, if_neg hne, hon]
    · rw [Device.value?_setFeature, if_pos rfl, hj]; rfl
    · rw [Binary64.percent_ofInt hb]

end LightState

namespace ClimateState

variable {d : Device} {s : ClimateState} {events : List Event}
  (h : ClimateState.read d = .ok (s, events))
include h

theorem isSome_state : (d.feature? stateId).isSome = true := by
  obtain ⟨_, on, _, _, _, _, -, hon, -⟩ := read_eq_ok.mp h
  exact Device.isSome_feature?_of_value? hon

theorem isSome_target : (d.feature? targetId).isSome = true := by
  obtain ⟨target, _, _, _, _, _, ht, -⟩ := read_eq_ok.mp h
  rw [ht]; rfl

theorem read_switch (on : Bool) : ClimateState.read (d.setFeature stateId (.bool on)) =
    .ok ({ s with mode := some (.ofState on) }, events) := by
  have htarget : targetId ≠ stateId := by decide
  have hmode : modeId ≠ stateId := by decide
  have hcurrent : currentId ≠ stateId := by decide
  obtain ⟨target, old, mode, j, x, y, ht, hold, hm, hj, hx, hy, rfl, rfl⟩ := read_eq_ok.mp h
  refine read_eq_ok.mpr ⟨target, on, mode, j, x, y, ?_, ?_, ?_, ?_, hx, hy, rfl, rfl⟩
  · rwa [Device.feature?_setFeature_of_ne _ _ _ htarget]
  · rw [Device.value?_setFeature, if_pos rfl, hold]; rfl
  · rwa [Device.value?_setFeature, if_neg hmode]
  · rwa [Device.value?_setFeature, if_neg hcurrent]

theorem read_target (i : Int) : ClimateState.read (d.setFeature targetId (.int i)) =
    .ok ({ s with target := some (.ofInt i) }, events) := by
  have hstate : stateId ≠ targetId := by decide
  have hmode : modeId ≠ targetId := by decide
  have hcurrent : currentId ≠ targetId := by decide
  obtain ⟨target, on, mode, j, x, y, ht, hon, hm, hj, hx, hy, rfl, rfl⟩ := read_eq_ok.mp h
  refine read_eq_ok.mpr ⟨{ target with value := .int i }, on, mode, j, x, .ofInt i, ?_, ?_, ?_, ?_,
    hx, rfl, rfl, rfl⟩
  · rw [Device.feature?_setFeature, ht]; rfl
  · rwa [Device.value?_setFeature, if_neg hstate]
  · rwa [Device.value?_setFeature, if_neg hmode]
  · rwa [Device.value?_setFeature, if_neg hcurrent]

end ClimateState

namespace Entity

variable {tree : Device} {e : Entity}

/-! ### Sources -/

theorem source_eq_ok {d : Device} {f : Option Feature} : e.source tree = .ok (d, f) ↔
    tree.find? e.deviceId = some d ∧
      ((e.featureId = none ∧ f = none) ∨
        ∃ id g, e.featureId = some id ∧ d.feature? id = some g ∧ f = some g) := by
  unfold source
  cases tree.find? e.deviceId with
  | none => simp
  | some device =>
    cases e.featureId with
    | none => simp [eq_comm]
    | some id =>
      simp only [Option.some.injEq, reduceCtorEq, false_and, false_or]
      cases h : device.requiredFeature id with
      | ok g =>
        have hg := Device.requiredFeature_eq_ok.mp h
        constructor
        · intro he; cases he; exact ⟨rfl, id, g, rfl, hg, rfl⟩
        · rintro ⟨rfl, id', g', rfl, hg', rfl⟩
          rw [hg] at hg'
          cases hg'
          rfl
      | error error =>
        constructor
        · intro he; cases he
        · rintro ⟨rfl, id', g', rfl, hg', rfl⟩
          rw [Device.requiredFeature_eq_ok.mpr hg'] at h
          cases h

theorem find?_modify_setAll {d : Device} (h : tree.find? e.deviceId = some d)
    (writes : List (String × Json)) :
    (tree.modify e.deviceId (.setAll writes)).find? e.deviceId = some (d.setAll writes) := by
  rw [Device.find?_modify tree e.deviceId fun d => d.setAll_id writes, h]
  rfl

/-- **After writes** to its device an entity still has its source. -/
theorem source_modify_setAll {d : Device} {f : Option Feature} (h : e.source tree = .ok (d, f))
    (writes : List (String × Json)) : ∃ f', e.source (tree.modify e.deviceId (.setAll writes)) =
      .ok (d.setAll writes, f') := by
  obtain ⟨hd, hf⟩ := source_eq_ok.mp h
  have hd' := find?_modify_setAll hd writes
  rcases hf with ⟨hnone, rfl⟩ | ⟨id, g, hid, hg, rfl⟩
  · exact ⟨none, source_eq_ok.mpr ⟨hd', Or.inl ⟨hnone, rfl⟩⟩⟩
  · have hsome : ((d.setAll writes).feature? id).isSome = true := by
      rw [Device.isSome_feature?_setAll, hg]; rfl
    obtain ⟨g', hg'⟩ := Option.isSome_iff_exists.mp hsome
    exact ⟨some g', source_eq_ok.mpr ⟨hd', Or.inr ⟨id, g', hid, hg', rfl⟩⟩⟩

/-! ### Writes and what is read then -/

/-- The writes find their features in the tree, and with their values in place the entity shows what
was asked of it. -/
structure ReadsBack (tree : Device) (e : Entity) (action : Action)
    (planned : List (String × Json)) : Prop where
  found : ∃ d, tree.find? e.deviceId = some d ∧ ∀ w ∈ planned, (d.feature? w.1).isSome = true
  shown : ∃ s events,
    e.read (tree.modify e.deviceId (.setAll planned)) = .ok (s, events) ∧ action.Shown s

theorem ownWrite_eq_ok {value : Json} {planned : List (String × Json)} :
    e.ownWrite value = .ok planned ↔ ∃ id, e.featureId = some id ∧ planned = [(id, value)] := by
  unfold ownWrite
  cases e.featureId <;> simp [eq_comm]

variable {d : Device} {f : Option Feature} {planned : List (String × Json)} {action : Action}

theorem readsBack_of_ownWrite (hsource : e.source tree = .ok (d, f)) {value : Json}
    (hown : e.ownWrite value = .ok planned)
    (hread : ∀ d g described, g.value = value →
      ∃ s events, e.state.read d (some g) described = .ok (s, events) ∧ action.Shown s) :
    e.ReadsBack tree action planned := by
  obtain ⟨id, hid, rfl⟩ := ownWrite_eq_ok.mp hown
  obtain ⟨hd, ⟨hnone, -⟩ | ⟨id', g, hid', hg, -⟩⟩ := source_eq_ok.mp hsource
  · rw [hid] at hnone; cases hnone
  obtain rfl : id = id' := Option.some.inj (hid.symm.trans hid')
  have hd' := find?_modify_setAll hd [(id, value)]
  have hg' : (d.setAll [(id, value)]).feature? id = some { g with value } := by
    show (d.setFeature id value).feature? id = _
    rw [Device.feature?_setFeature, hg]
    rfl
  refine ⟨⟨d, hd, fun w hw => ?_⟩, ?_⟩
  · rw [List.mem_singleton.mp hw, hg]; rfl
  · obtain ⟨s, events, hs, hshown⟩ := hread (d.setAll [(id, value)]) { g with value }
      (e.description.bind (·.unit)) rfl
    refine ⟨s, events, ?_, hshown⟩
    have hsource' := source_eq_ok.mpr ⟨hd', Or.inr ⟨id, _, hid, hg', rfl⟩⟩
    unfold read
    rw [hsource']
    exact hs

theorem readsBack_of_device (hsource : e.source tree = .ok (d, f))
    (hfound : ∀ w ∈ planned, (d.feature? w.1).isSome = true)
    (hread : ∀ f' described, ∃ s events,
      e.state.read (d.setAll planned) f' described = .ok (s, events) ∧ action.Shown s) :
    e.ReadsBack tree action planned := by
  obtain ⟨hd, -⟩ := source_eq_ok.mp hsource
  obtain ⟨f', hsource'⟩ := source_modify_setAll hsource planned
  refine ⟨⟨d, hd, hfound⟩, ?_⟩
  obtain ⟨s, events, hs, hshown⟩ := hread f' (e.description.bind (·.unit))
  refine ⟨s, events, ?_, hshown⟩
  unfold read
  rw [hsource']
  exact hs

theorem readsBack_of_light {l : LightState} (hs : e.state = .light l)
    (hsource : e.source tree = .ok (d, f)) (hl : LightState.read d = .ok l)
    (hw : e.writes action = some (.ok planned)) : e.ReadsBack tree action planned := by
  have hstate := LightState.isSome_state hl
  have read_of : ∀ {d' : Device} {l' : LightState}, LightState.read d' = .ok l' →
      ∀ f' described, e.state.read d' f' described = .ok (.light l', []) := by
    intro d' l' h' f' described
    rw [hs]
    exact map_eq_ok.mpr ⟨l', h', rfl⟩
  unfold writes at hw
  rw [hs] at hw
  cases action with
  | turnOn =>
    cases hw
    refine readsBack_of_device hsource (by simpa using hstate) fun f' described => ?_
    exact ⟨_, _, read_of (LightState.read_switch hl true) f' described, rfl⟩
  | turnOff =>
    cases hw
    refine readsBack_of_device hsource (by simpa using hstate) fun f' described => ?_
    exact ⟨_, _, read_of (LightState.read_switch hl false) f' described, rfl⟩
  | turnOnAt b =>
    simp only [Option.some.injEq] at hw
    split at hw
    · rename_i hb
      rw [Bool.and_eq_true, decide_eq_true_eq] at hb
      cases hw
      have hfound := LightState.isSome_brightness hl hb.1
      refine readsBack_of_device hsource (by simpa using ⟨hfound, hstate⟩) fun f' described => ?_
      have hdimmed := LightState.read_dim hl hb.1 hb.2
      exact ⟨_, _, read_of (LightState.read_switch hdimmed true) f' described, rfl, rfl⟩
    · cases hw
  | _ => cases hw

theorem readsBack_of_climate {c : ClimateState} {events : List Event} (hs : e.state = .climate c)
    (hsource : e.source tree = .ok (d, f)) (hc : ClimateState.read d = .ok (c, events))
    (hw : e.writes action = some (.ok planned)) : e.ReadsBack tree action planned := by
  have hstate := ClimateState.isSome_state hc
  have read_of : ∀ {d' : Device} {c' : ClimateState}, ClimateState.read d' = .ok (c', events) →
      ∀ f' described, e.state.read d' f' described = .ok (.climate c', events) := by
    intro d' c' h' f' described
    rw [hs]
    exact map_eq_ok.mpr ⟨(c', events), h', rfl⟩
  have switched : ∀ on, planned = [(stateId, .bool on)] →
      action.Shown (.climate { c with mode := some (.ofState on) }) →
      e.ReadsBack tree action planned := by
    rintro on rfl hshown
    refine readsBack_of_device hsource (by simpa using hstate) fun f' described => ?_
    exact ⟨_, _, read_of (ClimateState.read_switch hc on) f' described, hshown⟩
  unfold writes at hw
  rw [hs] at hw
  cases action with
  | turnOn => cases hw; exact switched true rfl rfl
  | turnOff => cases hw; exact switched false rfl rfl
  | setHvacMode mode =>
    cases hw
    exact switched _ rfl (by cases mode <;> rfl)
  | setTemperature value =>
    simp only [Option.some.injEq] at hw
    split at hw
    · cases hw
      have hfound := ClimateState.isSome_target hc
      refine readsBack_of_device hsource (by simpa using hfound) fun f' described => ?_
      have hset := ClimateState.read_target hc value.toInt64
      exact ⟨_, _, read_of hset f' described,
        fun hfit => congrArg some (Binary64.ofInt_toInt64 hfit)⟩
    · cases hw
  | _ => cases hw

theorem readsBack_of_feature (hl : ∀ l, e.state ≠ .light l) (hc : ∀ c, e.state ≠ .climate c)
    (hsource : e.source tree = .ok (d, f)) (hw : e.writes action = some (.ok planned)) :
    e.ReadsBack tree action planned := by
  -- the feature behind the entity holds the value written, and the state shows it
  have own : ∀ {value : Json}, e.ownWrite value = .ok planned →
      (∀ d g described, g.value = value →
        ∃ s events, e.state.read d (some g) described = .ok (s, events) ∧ action.Shown s) →
      e.ReadsBack tree action planned := readsBack_of_ownWrite hsource
  unfold writes at hw
  cases hs : e.state with
  | light l => exact absurd hs (hl l)
  | climate c => exact absurd hs (hc c)
  | binarySensor | sensor | fixed => rw [hs] at hw; cases hw
  | button =>
    rw [hs] at hw own
    cases action with
    | press => exact own (Option.some.inj hw) fun _ _ _ _ => ⟨_, _, rfl, trivial⟩
    | _ => cases hw
  | switch isOn =>
    rw [hs] at hw own
    have switched : ∀ on d g described, g.value = .bool on →
        (State.switch isOn).read d (some g) described = .ok (.switch (some on), []) := by
      intro on d g described hg
      exact map_eq_ok.mpr ⟨_, map_eq_ok.mpr ⟨on, Feature.boolean_eq_ok.mpr hg, rfl⟩, rfl⟩
    cases action with
    | turnOn =>
      exact own (Option.some.inj hw) fun d g described hg =>
        ⟨_, _, switched true d g described hg, rfl⟩
    | turnOff =>
      exact own (Option.some.inj hw) fun d g described hg =>
        ⟨_, _, switched false d g described hg, rfl⟩
    | _ => cases hw
  | select s =>
    rw [hs] at hw own
    cases action with
    | selectOption option =>
      simp only [Option.some.injEq] at hw
      split at hw
      · refine own hw fun d g described hg => ?_
        have hread : SelectState.read g s =
            .ok { current := some option, options := g.choices.getD s.options } :=
          bind_eq_ok.mpr ⟨option, Feature.text_eq_ok.mpr hg, rfl⟩
        exact ⟨_, _, map_eq_ok.mpr ⟨_, map_eq_ok.mpr ⟨_, hread, rfl⟩, rfl⟩, rfl⟩
      · cases hw
    | _ => cases hw
  | number s =>
    rw [hs] at hw own
    cases action with
    | setNativeValue value =>
      simp only [Option.some.injEq] at hw
      split at hw
      · refine own hw fun d g described hg => ?_
        have hnumber : g.number = .ok (.ofInt value.toInt64) :=
          Feature.number_eq_ok.mpr (by rw [hg]; rfl)
        have hread : NumberState.read g = .ok
            { value := some (.ofInt value.toInt64), minimum := g.minimum, maximum := g.maximum } :=
          bind_eq_ok.mpr ⟨_, hnumber, rfl⟩
        exact ⟨_, _, map_eq_ok.mpr ⟨_, map_eq_ok.mpr ⟨_, hread, rfl⟩, rfl⟩,
          fun hfit => congrArg some (Binary64.ofInt_toInt64 hfit)⟩
      · cases hw
    | _ => cases hw

/-- **After an action** of an entity that shows what it reads, the values are found and the entity
shows what was asked. -/
theorem readsBack_of_read {events : List Event} (hread : e.read tree = .ok (e.state, events))
    (hw : e.writes action = some (.ok planned)) : e.ReadsBack tree action planned := by
  obtain ⟨d, f, hsource, hstate⟩ := exists_source_of_read hread
  cases hs : e.state with
  | light l =>
    rw [hs] at hstate
    obtain ⟨l', hl, he⟩ := map_eq_ok.mp hstate
    cases he
    exact readsBack_of_light hs hsource hl hw
  | climate c =>
    rw [hs] at hstate
    obtain ⟨⟨c', events'⟩, hc, he⟩ := map_eq_ok.mp hstate
    cases he
    exact readsBack_of_climate hs hsource hc hw
  | _ => exact readsBack_of_feature (by simp [hs]) (by simp [hs]) hsource hw

end Entity

end HomeEntities
