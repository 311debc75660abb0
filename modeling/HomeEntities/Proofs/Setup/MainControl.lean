import HomeEntities.Proofs.Connection.Writes
import HomeEntities.Proofs.Setup.Features
import HomeEntities.Proofs.Setup.Stability

/-! # Main controls

The main control of a device is its primary switch. Set-up leaves it to the light entity of a light
and to a switch entity on all other devices. The unique id of a switch entity is made of the
device's id, that of a light entity of its hardware address in most cases. Hence:

* a device that is no light always gets an entity that switches it;
* a light gets one unless another light that comes before it in the tree has its light's unique id
  (`Shadowed`). A shadowed light is left with no entity that switches it, and set-up logs that its
  light was dropped.

Both are parts of `setUp_mainControl`; `setUp_leaves_shadowed_light` is a tree of the last kind. -/

namespace HomeEntities

/-! ### Lights -/

namespace Device

/-- A light that comes before the device in the tree has the unique id of the device's light. -/
def Shadowed (root d : Device) : Prop :=
  ∃ before after, root.nodes = before ++ d :: after ∧
    ∃ d' ∈ before, d'.type.isLight = true ∧ d'.lightUniqueId = d.lightUniqueId

theorem DistinctIds.mem_firsts_lights_iff {root d : Device} (h : root.DistinctIds)
    (hd : d ∈ root.nodes) (hl : d.type.isLight = true) :
    d ∈ firsts lightUniqueId (root.nodes.filter (·.type.isLight)) ↔ ¬ root.Shadowed d :=
  mem_firsts_filter_iff lightUniqueId (.of_map legacyId h.devices) hd hl

end Device

theorem Platform.map_device_sources_light (root : Device) :
    (light.sources root).map (·.device) = root.nodes.filter (·.type.isLight) := by
  unfold sources Device.nodes
  rw [List.map_append, List.map_map, List.filter_cons]
  split_ifs with h
  · simp [Function.comp_def]
  · simp [Function.comp_def]

/-- **The light entities** stand for the light devices that are the first of their unique ids. -/
theorem map_deviceId_lights (root : Device) (extras : Extras) :
    ((setUpEntities Platform.all root extras).filter (fun e => decide (e.platform = .light))).map
        (·.deviceId) =
      (firsts Device.lightUniqueId (root.nodes.filter (·.type.isLight))).map (·.id) := by
  have hids : firsts Platform.light.sourceId (Platform.light.sources root) =
      firsts (fun s => s.device.lightUniqueId) (Platform.light.sources root) := by
    refine firsts_congr _ fun s hs s' hs' => ?_
    obtain ⟨d, parent, -, -, rfl⟩ := Platform.mem_sources_light.mp hs
    obtain ⟨d', parent', -, -, rfl⟩ := Platform.mem_sources_light.mp hs'
    rfl
  have ho := congrArg (List.map Origin.deviceId)
    (@map_origin_filter_setUpEntities _ root extras _ Platform.light.mem_all Platform.nodup_all)
  rw [List.map_map, List.map_map, hids] at ho
  rw [← Platform.map_device_sources_light, firsts_map, List.map_map]
  exact ho

section Lights
variable {root : Device} {extras : Extras} {d : Device}

/-- A light has a light entity exactly if it is not shadowed. -/
theorem Device.DistinctIds.exists_light_iff (h : root.DistinctIds) (hd : d ∈ root.nodes)
    (hl : d.type.isLight = true) :
    (∃ e ∈ setUpEntities Platform.all root extras, e.platform = .light ∧ e.deviceId = d.id) ↔
      ¬ root.Shadowed d := by
  have hids := map_deviceId_lights root extras
  rw [← h.mem_firsts_lights_iff hd hl]
  constructor
  · rintro ⟨e, he, hp, hid⟩
    have hmem : e.deviceId ∈ ((setUpEntities Platform.all root extras).filter
        (fun e => decide (e.platform = .light))).map (·.deviceId) :=
      List.mem_map_of_mem (List.mem_filter.mpr ⟨he, decide_eq_true hp⟩)
    rw [hids] at hmem
    obtain ⟨d', hd', hid'⟩ := List.mem_map.mp hmem
    have hnode : d' ∈ root.nodes := List.mem_of_mem_filter (mem_of_mem_firsts _ hd')
    obtain rfl := h.eq_of_id_eq hnode hd (hid'.trans hid)
    exact hd'
  · intro hf
    have hmem := List.mem_map_of_mem (f := Device.id) hf
    rw [← hids] at hmem
    obtain ⟨e, he, hid⟩ := List.mem_map.mp hmem
    obtain ⟨he, hp⟩ := List.mem_filter.mp he
    exact ⟨e, he, of_decide_eq_true hp, hid⟩

theorem Device.DistinctIds.mem_repeats_of_shadowed (h : root.DistinctIds) (hd : d ∈ root.nodes)
    (hl : d.type.isLight = true) (hs : root.Shadowed d) :
    ∃ c ∈ repeats Entity.key [] (candidatesOf Platform.all root extras),
      c.platform = .light ∧ c.uniqueId = d.lightUniqueId := by
  obtain ⟨parent, hplaced⟩ := Device.exists_placed hd
  let c := Platform.light.newEntity extras ⟨d, none, parent⟩
  have hp : c.platform = .light := Platform.newEntity_platform _ _ _
  have hmem : c ∈ candidatesOf Platform.all root extras :=
    mem_candidatesOf.mpr ⟨.light, Platform.light.mem_all, _,
      Platform.mem_sources_light.mpr ⟨d, parent, hplaced, hl, rfl⟩, rfl⟩
  refine ⟨c, mem_repeats_of_notMem_firsts _ hmem fun hf => ?_, hp, rfl⟩
  obtain ⟨e, he, ho⟩ := exists_entity_of_mem_firsts hf
  refine (h.exists_light_iff hd hl).mp ⟨e, he, ?_, congrArg Origin.deviceId ho⟩ hs
  exact (congrArg Origin.platform ho).trans hp

end Lights

/-! ### Main controls -/

/-- The device has a primary switch. -/
def Device.HasMainControl (d : Device) : Prop :=
  ∃ f ∈ d.features, f.id = stateId ∧ f.type = .switch ∧ f.category = .primary

/-- The entity switches the device. -/
structure Entity.Controls (e : Entity) (d : Device) : Prop where
  deviceId : e.deviceId = d.id
  turnOn : e.writes .turnOn = some (.ok [(stateId, .bool true)])
  turnOff : e.writes .turnOff = some (.ok [(stateId, .bool false)])

section Controls
variable {table : List Platform} {root : Device} {extras : Extras} {e : Entity} {d : Device}

theorem controls_of_light (he : e ∈ setUpEntities table root extras) (hp : e.platform = .light)
    (hid : e.deviceId = d.id) : e.Controls d := by
  obtain ⟨hon, hoff⟩ := Entity.writes_turn_light (isFixed_eq_false_of_mem he) hp
  exact ⟨hid, hon, hoff⟩

theorem controls_of_switch (he : e ∈ setUpEntities table root extras) (hp : e.platform = .switch)
    (hid : e.deviceId = d.id) (hf : e.featureId = some stateId) : e.Controls d := by
  obtain ⟨hon, hoff⟩ := Entity.writes_turn_switch (isFixed_eq_false_of_mem he) hp
  have hown (value : Json) : e.ownWrite value = .ok [(stateId, value)] := by
    rw [Entity.ownWrite, hf]
  exact ⟨hid, by rw [hon, hown], by rw [hoff, hown]⟩

theorem Device.DistinctIds.exists_switch (h : root.DistinctIds) (extras : Extras)
    (hd : d ∈ root.nodes) (hm : d.HasMainControl) (hl : d.type.isLight = false) :
    ∃ e ∈ setUpEntities Platform.all root extras, e.platform = .switch ∧ e.Controls d := by
  obtain ⟨f, hf, hid, ht, -⟩ := hm
  have hx : d.Exposes f := ⟨by rw [ht]; decide, fun hp => by simp [hl] at hp⟩
  obtain ⟨e, he, hs⟩ := h.exists_standsFor extras hd hf hx
  have hp : e.platform = .switch := Platform.featureType?_inj (ht ▸ hs.platform) rfl
  exact ⟨e, he, hp, controls_of_switch he hp hs.deviceId (hid ▸ hs.featureId)⟩

/-- Only its light entity switches a light with a primary switch. -/
theorem Device.DistinctIds.platform_of_controls (h : root.DistinctIds) (hd : d ∈ root.nodes)
    (hm : d.HasMainControl) (hl : d.type.isLight = true)
    (he : e ∈ setUpEntities table root extras) (hc : e.Controls d) : e.platform = .light := by
  have hfixed := isFixed_eq_false_of_mem he
  have hoffers : e.platform.offers .turnOn = true := by
    rw [← Entity.isSome_writes hfixed, hc.turnOn]; rfl
  rcases Platform.offers_turnOn hoffers with hp | hp | hp
  · -- the switch entity of the primary switch would be a second one
    exfalso
    obtain ⟨f, hf, hid, -, hprimary⟩ := hm
    have hon := hc.turnOn
    rw [(Entity.writes_turn_switch hfixed hp).1, Option.some.injEq] at hon
    have hfid : e.featureId = some f.id := hid ▸ Entity.featureId_of_ownWrite hon
    exact (h.standsFor_of_ids he hd hf hc.deviceId hfid).1.2 ⟨hprimary, hl⟩
  · exact hp
  · -- thermostats are no lights
    exfalso
    obtain ⟨s, hs, ho⟩ := exists_source_of_mem he
    rw [hp] at hs
    obtain ⟨d', hd', ht, rfl⟩ := Platform.mem_sources_climate.mp hs
    have hid : d'.id = d.id := (congrArg Origin.deviceId ho).symm.trans hc.deviceId
    obtain rfl := h.eq_of_id_eq (List.mem_cons_of_mem root hd') hd hid
    rw [ht] at hl
    cases hl

theorem Device.DistinctIds.not_controls_of_shadowed (h : root.DistinctIds) (hd : d ∈ root.nodes)
    (hm : d.HasMainControl) (hl : d.type.isLight = true) (hs : root.Shadowed d)
    (he : e ∈ setUpEntities Platform.all root extras) : ¬ e.Controls d := by
  intro hc
  have hp := h.platform_of_controls hd hm hl he hc
  exact (h.exists_light_iff hd hl).mp ⟨e, he, hp, hc.deviceId⟩ hs

end Controls

/-- **Which devices keep their main control.** Those that are no lights are switched by a switch
entity. Lights are switched by a light entity if they are not shadowed; if they are, no entity
switches them, and the log tells of the light that was dropped. -/
theorem setUp_mainControl (root : Device) (extras : Extras) (h : root.DistinctIds) :
    ∃ entities events, setUp root extras = .ok (entities, events) ∧
      ∀ d ∈ root.nodes, d.HasMainControl →
        (d.type.isLight = false → ∃ e ∈ entities, e.platform = .switch ∧ e.Controls d) ∧
        (d.type.isLight = true → ¬ root.Shadowed d →
          ∃ e ∈ entities, e.platform = .light ∧ e.Controls d) ∧
        (d.type.isLight = true → root.Shadowed d → (∀ e ∈ entities, ¬ e.Controls d) ∧
          ∃ entityId, Event.duplicate .light d.lightUniqueId entityId ∈ events) := by
  obtain ⟨events, hok, hdup⟩ := setUpWith_eq Platform.all root extras
  refine ⟨_, events, hok, fun d hd hm => ⟨h.exists_switch extras hd hm, ?_, ?_⟩⟩
  · intro hl hs
    obtain ⟨e, he, hp, hid⟩ := (h.exists_light_iff hd hl).mpr hs
    exact ⟨e, he, hp, controls_of_light he hp hid⟩
  · intro hl hs
    refine ⟨fun e he => h.not_controls_of_shadowed hd hm hl hs he, ?_⟩
    obtain ⟨c, hc, hp, hid⟩ := @Device.DistinctIds.mem_repeats_of_shadowed _ extras _ h hd hl hs
    have hmem : c.duplicate ∈ events.filterMap Event.duplicate? := by
      rw [hdup]; exact List.mem_map_of_mem hc
    rw [Entity.duplicate, hp, hid] at hmem
    exact ⟨c.entityId, mem_filterMap_duplicate?.mp hmem⟩

/-! ### Two bulbs of one hardware address -/

def leftBulb : Device := porchBulb "8006_01" "Left" [porchState "State" (.bool false)]

def rightBulb : Device := porchBulb "8006_02" "Right" [porchState "State" (.bool false)]

def twinPorch : Device := porch "Porch" [leftBulb, rightBulb]

theorem twinPorch_distinctIds : twinPorch.DistinctIds := ⟨by decide, by decide⟩

theorem twinPorch_shadowed : twinPorch.Shadowed rightBulb :=
  ⟨[twinPorch, leftBulb], [], rfl, leftBulb, List.mem_cons_of_mem _ List.mem_cons_self, rfl, rfl⟩

theorem rightBulb_mem : rightBulb ∈ twinPorch.nodes :=
  List.mem_cons_of_mem _ (List.mem_cons_of_mem _ List.mem_cons_self)

theorem rightBulb_hasMainControl : rightBulb.HasMainControl :=
  ⟨_, List.mem_cons_self, rfl, rfl, rfl⟩

theorem setUp_mainControl_twinPorch :
    ∃ entities events, setUp twinPorch {} = .ok (entities, events) ∧
      entities.map (fun e => (e.platform, e.deviceId)) = [(.light, "8006_01")] ∧
      events.filterMap Event.duplicate? = [(.light, "50C7BF000005", "light.porch_right")] ∧
      ∀ d ∈ twinPorch.nodes, d.HasMainControl →
        (d.type.isLight = false → ∃ e ∈ entities, e.platform = .switch ∧ e.Controls d) ∧
        (d.type.isLight = true → ¬ twinPorch.Shadowed d →
          ∃ e ∈ entities, e.platform = .light ∧ e.Controls d) ∧
        (d.type.isLight = true → twinPorch.Shadowed d → (∀ e ∈ entities, ¬ e.Controls d) ∧
          ∃ entityId, Event.duplicate .light d.lightUniqueId entityId ∈ events) := by
  have hmade : (·.1.map fun e => (e.platform, e.deviceId)) <$> setUp twinPorch {} =
      .ok [(.light, "8006_01")] := rfl
  have hdropped : (·.2.filterMap Event.duplicate?) <$> setUp twinPorch {} =
      .ok [(.light, "50C7BF000005", "light.porch_right")] := rfl
  obtain ⟨entities, events, hok, hcontrol⟩ := setUp_mainControl twinPorch {} twinPorch_distinctIds
  rw [hok] at hmade hdropped
  exact ⟨entities, events, hok, Except.ok.inj hmade, Except.ok.inj hdropped, hcontrol⟩

/-- The ids are distinct and the second bulb has a primary switch; yet no entity switches it. -/
theorem setUp_leaves_shadowed_light :
    twinPorch.DistinctIds ∧ rightBulb ∈ twinPorch.nodes ∧ rightBulb.HasMainControl ∧
      ∃ entities events, setUp twinPorch {} = .ok (entities, events) ∧
        ∀ e ∈ entities, ¬ e.Controls rightBulb := by
  obtain ⟨events, hok, -⟩ := setUpWith_eq Platform.all twinPorch {}
  refine ⟨twinPorch_distinctIds, rightBulb_mem, rightBulb_hasMainControl, _, events, hok, ?_⟩
  intro e he
  exact twinPorch_distinctIds.not_controls_of_shadowed rightBulb_mem rightBulb_hasMainControl rfl
    twinPorch_shadowed he

end HomeEntities
