import HomeEntities.Proofs.Entity.ReadBack
import HomeEntities.Proofs.Session.Availability
import HomeEntities.Proofs.Setup.Records

/-! # Entities read their own sources

An entity keeps the ids of its device and feature, and looks both up anew whenever it is read. If
the ids of the devices in a tree are distinct, and so are on each device those of its features, a
look-up finds what was walked over when entities were made (`find?_of_mem_nodes`,
`feature?_of_mem`), so that an entity has one source and is read from it (`Entity.MadeOf.source_eq`,
`Entity.MadeOf.unique`). What a source has to hold then (`Source.Decodes`) decides whether the
entity is available (`canRead_iff_decodes`, `setUp_reads_own_sources`). -/

namespace HomeEntities

/-! ### Looking up one's own id -/

theorem find?_of_mem_of_nodup {α κ : Type} [BEq κ] [LawfulBEq κ] {key : α → κ} {a : α} :
    ∀ {l : List α}, (l.map key).Nodup → a ∈ l → l.find? (key · == key a) = some a
  | b :: l, hn, ha => by
    rw [List.map_cons, List.nodup_cons] at hn
    rcases List.mem_cons.mp ha with rfl | ha
    · exact List.find?_cons_of_pos (beq_self_eq_true (key a))
    · have hne : key b ≠ key a := fun h => hn.1 (h ▸ List.mem_map_of_mem ha)
      rw [List.find?_cons_of_neg (by simpa using hne)]
      exact find?_of_mem_of_nodup hn.2 ha

namespace Device

variable {root d : Device}

/-- On each device of the tree the ids of the features are distinct. -/
def DistinctFeatures (root : Device) : Prop := ∀ d ∈ root.nodes, (d.features.map (·.id)).Nodup

theorem find?_of_mem_nodes (h : root.DistinctDevices) (hd : d ∈ root.nodes) :
    root.find? d.id = some d := by
  rw [find?_eq_find?_nodes]
  exact find?_of_mem_of_nodup h hd

theorem feature?_of_mem (h : (d.features.map (·.id)).Nodup) {f : Feature} (hf : f ∈ d.features) :
    d.feature? f.id = some f :=
  find?_of_mem_of_nodup h hf

theorem Placed.unique (h : root.DistinctDevices) {parent parent' : Option Device}
    (hp : root.Placed d parent) (hp' : root.Placed d parent') : parent = parent' := by
  cases hp with
  | root =>
    cases hp' with
    | root => rfl
    | child hc => exact absurd rfl (h.id_ne hc)
  | child hc =>
    cases hp' with
    | root => exact absurd rfl (h.id_ne hc)
    | child => rfl

end Device

/-! ### Sources -/

theorem Platform.mem_features_of_mem_sources {platform : Platform} {root : Device} {s : Source}
    (h : s ∈ platform.sources root) : ∀ f ∈ s.feature, f ∈ s.device.features := by
  intro f hf
  rcases platform.featureType?_cases with ⟨type, ht⟩ | rfl | rfl
  · obtain ⟨d, parent, -, g, hg, -, rfl⟩ := (mem_sources_of_featureType ht).mp h
    exact Option.some.inj hf ▸ hg
  · obtain ⟨d, parent, -, -, rfl⟩ := mem_sources_light.mp h
    cases hf
  · obtain ⟨d, -, -, rfl⟩ := mem_sources_climate.mp h
    cases hf

namespace Entity.MadeOf

variable {root : Device} {extras : Extras} {s s' : Source} {e : Entity}

theorem deviceId (h : e.MadeOf root extras s) : e.deviceId = s.device.id :=
  congrArg Origin.deviceId h.2

theorem featureId (h : e.MadeOf root extras s) : e.featureId = s.feature.map (·.id) :=
  congrArg Origin.featureId h.2

theorem mem_nodes (h : e.MadeOf root extras s) : s.device ∈ root.nodes :=
  (Platform.placed_of_mem_sources h.1).mem_nodes

variable (hd : root.DistinctDevices) (hf : root.DistinctFeatures)
include hd hf

/-- **An entity is read from what it was made of.** -/
theorem source_eq (h : e.MadeOf root extras s) : e.source root = .ok (s.device, s.feature) := by
  have hdevice := Device.find?_of_mem_nodes hd h.mem_nodes
  rw [← h.deviceId] at hdevice
  refine source_eq_ok.mpr ⟨hdevice, ?_⟩
  have hfeature := Platform.mem_features_of_mem_sources h.1
  have hid := h.featureId
  cases hs : s.feature with
  | none => exact Or.inl ⟨by rw [hid, hs]; rfl, rfl⟩
  | some f =>
    have hmem := hfeature f (by rw [hs]; rfl)
    exact Or.inr ⟨f.id, f, by rw [hid, hs]; rfl,
      Device.feature?_of_mem (hf s.device h.mem_nodes) hmem, rfl⟩

theorem unique (h : e.MadeOf root extras s) (h' : e.MadeOf root extras s') : s' = s := by
  have hsource := (h'.source_eq hd hf).symm.trans (h.source_eq hd hf)
  rw [Except.ok.injEq, Prod.mk.injEq] at hsource
  have hplaced := Platform.placed_of_mem_sources h.1
  have hplaced' := Platform.placed_of_mem_sources h'.1
  obtain ⟨device, feature, parent⟩ := s
  obtain ⟨device', feature', parent'⟩ := s'
  obtain ⟨rfl, rfl⟩ : device' = device ∧ feature' = feature := hsource
  -- the parent is no part of the entity: it is known by where the device stands
  have hparent : parent = parent' := hplaced.unique hd hplaced'
  rw [hparent]

end Entity.MadeOf

/-! ### What a source has to hold -/

/-- Whether a value is a number. -/
def Json.IsNumber : Json → Prop
  | int _ | float _ => True
  | _ => False

theorem Json.isNumber_iff {value : Json} : value.IsNumber ↔ ∃ x, value.asNumber? = some x := by
  cases value <;> simp [IsNumber, asNumber?]

/-- What a feature has to hold for an entity of a platform; nothing if the entity does not read
it. -/
def Feature.Decodes (f : Feature) : Platform → Prop
  | .binarySensor | .switch => ∃ b, f.value = .bool b
  | .number => f.value.IsNumber
  | .select => ∃ text, f.value = .str text
  | .sensor => (∀ items, f.value ≠ .arr items) ∧ ∀ members, f.value ≠ .obj members
  | .button | .light | .climate => True

/-- What the features of a device have to hold for a light: it is switched on or off, and its
brightness is a number if it has one. -/
structure Device.DecodesLight (d : Device) : Prop where
  state : ∃ on, d.value? stateId = some (.bool on)
  brightness : ∀ value, d.value? LightState.brightnessId = some value → value.IsNumber

/-- What the features of a device have to hold for a thermostat. -/
structure Device.DecodesClimate (d : Device) : Prop where
  target : ∃ value, d.value? ClimateState.targetId = some value ∧ value.IsNumber
  current : ∃ value, d.value? ClimateState.currentId = some value ∧ value.IsNumber
  state : ∃ on, d.value? stateId = some (.bool on)
  mode : ∃ mode, d.value? ClimateState.modeId = some (.str mode)

/-- **What a source has to hold** for an entity of a platform. -/
def Source.Decodes (s : Source) (platform : Platform) : Prop :=
  match platform with
  | .button => True
  | .light => s.device.DecodesLight
  | .climate => s.device.DecodesClimate
  | platform => ∃ f ∈ s.feature, f.Decodes platform

theorem isOk_iff {ε α : Type} {x : Except ε α} : x.isOk = true ↔ ∃ a, x = .ok a := by
  cases x <;> simp [Except.isOk, Except.toBool]

theorem Feature.exists_scalar_iff {f : Feature} : (∃ value, f.scalar = .ok value) ↔
    (∀ items, f.value ≠ .arr items) ∧ ∀ members, f.value ≠ .obj members := by
  unfold scalar
  cases f.value <;> simp

theorem LightState.read_isOk_iff {d : Device} :
    (LightState.read d).isOk = true ↔ d.DecodesLight := by
  rw [isOk_iff]
  constructor
  · rintro ⟨s, hs⟩
    obtain ⟨on, hon, hb⟩ := read_eq_ok.mp hs
    refine ⟨⟨on, hon⟩, fun value hvalue => ?_⟩
    rcases hb with ⟨hnone, -⟩ | ⟨j, x, hj, hx, -⟩
    · rw [hnone] at hvalue; cases hvalue
    · obtain rfl := Option.some.inj (hj.symm.trans hvalue)
      exact Json.isNumber_iff.mpr ⟨x, hx⟩
  · rintro ⟨⟨on, hon⟩, hb⟩
    cases hvalue : d.value? brightnessId with
    | none => exact ⟨_, read_eq_ok.mpr ⟨on, hon, Or.inl ⟨hvalue, rfl⟩⟩⟩
    | some value =>
      obtain ⟨x, hx⟩ := Json.isNumber_iff.mp (hb value hvalue)
      exact ⟨_, read_eq_ok.mpr ⟨on, hon, Or.inr ⟨value, x, hvalue, hx, rfl⟩⟩⟩

theorem ClimateState.read_isOk_iff {d : Device} :
    (ClimateState.read d).isOk = true ↔ d.DecodesClimate := by
  rw [isOk_iff]
  constructor
  · rintro ⟨⟨s, events⟩, hs⟩
    obtain ⟨target, on, mode, j, x, y, ht, hon, hmode, hj, hx, hy, -⟩ := read_eq_ok.mp hs
    exact {
      target := ⟨_, Device.value?_eq_some.mpr ⟨target, ht, rfl⟩, Json.isNumber_iff.mpr ⟨y, hy⟩⟩
      current := ⟨j, hj, Json.isNumber_iff.mpr ⟨x, hx⟩⟩
      state := ⟨on, hon⟩
      mode := ⟨mode, hmode⟩ }
  · rintro ⟨⟨value, ht, hvalue⟩, ⟨j, hj, hnumber⟩, ⟨on, hon⟩, ⟨mode, hmode⟩⟩
    obtain ⟨target, htarget, rfl⟩ := Device.value?_eq_some.mp ht
    obtain ⟨x, hx⟩ := Json.isNumber_iff.mp hnumber
    obtain ⟨y, hy⟩ := Json.isNumber_iff.mp hvalue
    exact ⟨_, read_eq_ok.mpr
      ⟨target, on, mode, j, x, y, htarget, hon, hmode, hj, hx, hy, rfl, rfl⟩⟩

/-- **What can be read** is what decodes. -/
theorem Platform.canRead_iff_decodes {platform : Platform} {root : Device} {s : Source}
    (h : s ∈ platform.sources root) :
    platform.canRead s.device s.feature = true ↔ s.Decodes platform := by
  have hfeature := isSome_feature_of_mem_sources h
  obtain ⟨d, feature, parent⟩ := s
  cases platform with
  | light => exact LightState.read_isOk_iff
  | climate => exact ClimateState.read_isOk_iff
  | button => simp [canRead, Source.Decodes]
  | _ =>
    obtain ⟨f, rfl⟩ := Option.isSome_iff_exists.mp hfeature
    simp only [Source.Decodes, Option.mem_def, Option.some.injEq, exists_eq_left', canRead,
      Feature.Decodes, isOk_iff, Feature.boolean_eq_ok, Feature.number_eq_ok, Feature.text_eq_ok,
      ← Json.isNumber_iff, Feature.exists_scalar_iff]

/-! ### Entities of set-up -/

section SetUp
variable {table : List Platform} {root : Device} {extras : Extras} {s : Source} {e : Entity}
  (hd : root.DistinctDevices) (hf : root.DistinctFeatures)
include hd hf

theorem readable_iff_decodes (he : e ∈ setUpEntities table root extras)
    (hs : e.MadeOf root extras s) : e.readable = true ↔ s.Decodes e.platform := by
  have hreads : e.reads root = (e.state.isFixed || e.platform.canRead s.device s.feature) := by
    rw [Entity.reads_eq, hs.source_eq hd hf]
  rw [readable_of_mem_setUpEntities he, hreads, isFixed_eq_false_of_mem he, Bool.false_or]
  exact Platform.canRead_iff_decodes hs.1

end SetUp

/-- **Entities read their own sources.** Let a client connect to a tree in which the ids of devices
are distinct, and so are on each device those of features. Set-up then succeeds, and every entity
was made of one source of its platform. Looked up in the snapshot, its ids lead to that very device
and feature, and the entity is available exactly if the source holds what the platform asks for. -/
theorem setUp_reads_own_sources {σ : Type} {client : Client σ} {start start' : σ} {root : Device}
    (hfetch : client.fetch start = (.ok root, start')) (hd : root.DistinctDevices)
    (hf : root.DistinctFeatures) (extras : Extras) :
    ∃ s s', Session.connect client start = .ok s ∧
      s.step client extras .setUp = (.done, s') ∧ s'.connection.coordinator.snapshot = root ∧
      ∀ e ∈ s'.entities, ∃ source, e.MadeOf root extras source ∧
        (∀ other, e.MadeOf root extras other → other = source) ∧
        e.source root = .ok (source.device, source.feature) ∧
        (e.available s'.connection.coordinator = true ↔ source.Decodes e.platform) := by
  obtain ⟨s, hs, hsnapshot, hsuccess⟩ : ∃ s, Session.connect client start = .ok s ∧
      s.connection.coordinator.snapshot = root ∧
      s.connection.coordinator.lastUpdateSuccess = true := by
    unfold Session.connect Connection.connect
    rw [hfetch]
    exact ⟨_, rfl, rfl, rfl⟩
  obtain ⟨events, hstep, -⟩ := Session.step_setUp client s extras
  refine ⟨s, _, hs, hstep, hsnapshot, fun e he => ?_⟩
  rw [hsnapshot] at he
  obtain ⟨source, hsource, horigin⟩ := exists_source_of_mem he
  have hmade : e.MadeOf root extras source := ⟨hsource, horigin⟩
  have havailable : e.available (s.connection.log events).coordinator = e.readable := by
    rw [Entity.available, show (s.connection.log events).coordinator.lastUpdateSuccess = true from
      hsuccess, Bool.true_and]
  refine ⟨source, hmade, fun other h => hmade.unique hd hf h, hmade.source_eq hd hf, ?_⟩
  rw [havailable]
  exact readable_iff_decodes hd hf he hmade

/-! ### A loft with a thermostat and a lamp -/

/-- A hub with a thermostat that can be read, and with a lamp whose brightness is no number. -/
def loft : Device where
  id := "8031"
  name := "Loft"
  model := "KH100"
  mac := "50:C7:BF:00:00:31"
  type := .hub
  features := [
    { id := "led", name := "LED", type := .switch, category := .config, value := .bool true },
    { id := "info", name := "Info", type := .sensor, category := .info, value := .obj [] }]
  children := [{
    id := "8032"
    name := "Valve"
    model := "KE100"
    mac := "50:C7:BF:00:00:32"
    type := .thermostat
    features := [
      { id := stateId, name := "State", type := .unknown, category := .primary
        value := .bool true },
      { id := ClimateState.modeId, name := "Mode", type := .unknown, category := .primary
        value := .str "heating" },
      { id := ClimateState.currentId, name := "Temperature", type := .unknown
        category := .primary, value := .int 20 },
      { id := ClimateState.targetId, name := "Target", type := .unknown, category := .primary
        value := .int 21 }] }, {
    id := "8033"
    name := "Lamp"
    model := "KL130"
    mac := "50:C7:BF:00:00:33"
    type := .bulb
    features := [
      { id := stateId, name := "State", type := .switch, category := .primary
        value := .bool true },
      { id := LightState.brightnessId, name := "Brightness", type := .unknown
        category := .config, value := .str "dim" }] }]

theorem setUp_reads_own_sources_loft :
    loft.DistinctDevices ∧ loft.DistinctFeatures ∧
    ∃ s s', Session.connect Client.tree loft = .ok s ∧
      s.step Client.tree {} .setUp = (.done, s') ∧
      (s'.entities.map fun e => (e.platform, e.available s'.connection.coordinator)) =
        [(.climate, true), (.light, false), (.sensor, false), (.switch, true)] ∧
      ∀ e ∈ s'.entities, ∃ source, e.MadeOf loft {} source ∧
        (∀ other, e.MadeOf loft {} other → other = source) ∧
        e.source loft = .ok (source.device, source.feature) ∧
        (e.available s'.connection.coordinator = true ↔ source.Decodes e.platform) := by
  have hd : loft.DistinctDevices := by unfold Device.DistinctDevices; decide
  have hf : loft.DistinctFeatures := by unfold Device.DistinctFeatures; decide
  have hfetch : Client.tree.fetch loft = (.ok loft, loft) := rfl
  obtain ⟨s, s', hs, hstep, -, h⟩ := setUp_reads_own_sources hfetch hd hf {}
  refine ⟨hd, hf, s, s', hs, hstep, ?_, h⟩
  cases hs
  cases hstep
  rfl

end HomeEntities
