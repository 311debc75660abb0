import HomeEntities.Proofs.Setup.Features

/-! # Device records

The entities of a tree are filed under the records of its devices. There are three ways (`Files`):

* an entity of the root is filed under the root, whose record is anchored at the root's address;
* an entity of a child may be filed under the root, too; the record then carries the address of the
  child;
* an entity of a child that is not is filed under the child, whose record points at the root.

Which of the last two it is depends on the platform and the feature of the entity, and the name of a
child's record on the type of the root; but nothing else of a record does. If the ids of the devices
are distinct, the id of a record therefore tells what the record says (`Files.agrees`), up to the
address at which it is anchored. The main statement is `setUp_records_coherent`. -/

namespace HomeEntities

/-- Whether a record points at another device. -/
def Link.isVia : Link → Bool
  | via _ => true
  | mac _ => false

/-- The records say the same, up to the address that they are anchored at. -/
structure DeviceInfo.Agrees (i j : DeviceInfo) : Prop where
  manufacturer : i.manufacturer = j.manufacturer
  model : i.model = j.model
  name : i.name = j.name
  software : i.software = j.software
  hardware : i.hardware = j.hardware
  isVia : i.link.isVia = j.link.isVia

theorem DeviceInfo.Agrees.refl (i : DeviceInfo) : i.Agrees i := ⟨rfl, rfl, rfl, rfl, rfl, rfl⟩

/-! ### The records of a tree -/

namespace Device

/-- The record of a root, anchored at an address. -/
def rootRecord (root : Device) (address : String) : DeviceInfo where
  id := root.id
  manufacturer := manufacturer
  model := root.model
  name := root.name
  software := root.versions.software
  hardware := root.versions.hardware
  link := .mac address

/-- The name that a child's own record carries. -/
def childName (root child : Device) : String :=
  if root.type = .hub then child.name else root.name ++ " " ++ child.name

/-- The record of a child, which points at the root. -/
def childRecord (root child : Device) : DeviceInfo where
  id := child.id
  manufacturer := manufacturer
  model := child.model
  name := root.childName child
  software := child.versions.software
  hardware := child.versions.hardware
  link := .via root.id

/-- The record is one that entities of the device are filed under. -/
inductive Files (root : Device) : Device → DeviceInfo → Prop
  | own : Files root root (root.rootRecord root.mac)
  | collapsed {child : Device} (h : child ∈ root.children) :
      Files root child (root.rootRecord child.mac)
  | child {child : Device} (h : child ∈ root.children) : Files root child (root.childRecord child)

/-- The ids of the devices in a tree are distinct. -/
def DistinctDevices (root : Device) : Prop := (root.nodes.map (·.id)).Nodup

namespace DistinctDevices

variable {root : Device} (h : root.DistinctDevices)
include h

theorem id_ne {child : Device} (hc : child ∈ root.children) : root.id ≠ child.id := by
  unfold DistinctDevices nodes at h
  rw [List.map_cons, List.nodup_cons] at h
  intro he
  exact h.1 (he ▸ List.mem_map_of_mem hc)

theorem eq_of_id_eq {child child' : Device} (hc : child ∈ root.children)
    (hc' : child' ∈ root.children) (he : child.id = child'.id) : child = child' :=
  List.inj_on_of_nodup_map h (List.mem_cons_of_mem root hc) (List.mem_cons_of_mem root hc') he

end DistinctDevices

section Files
variable {root : Device} (h : root.DistinctDevices) {d d' : Device} {i j : DeviceInfo}
include h

/-- **Records of one id agree.** -/
theorem Files.agrees (hi : root.Files d i) (hj : root.Files d' j) (hid : i.id = j.id) :
    i.Agrees j := by
  cases hi with
  | own | collapsed =>
    cases hj with
    | own | collapsed => exact ⟨rfl, rfl, rfl, rfl, rfl, rfl⟩
    | child hc' => exact absurd hid (h.id_ne hc')
  | child hc =>
    cases hj with
    | own | collapsed => exact absurd hid.symm (h.id_ne hc)
    | child hc' =>
      obtain rfl := h.eq_of_id_eq hc hc' hid
      exact .refl _

/-- The records that point at another device are those of children that are their own. -/
theorem Files.isVia_iff (hi : root.Files d i) :
    i.link.isVia = true ↔ ∃ c ∈ root.children, d.id = c.id ∧ i.id = c.id := by
  cases hi with
  | own | collapsed =>
    constructor
    · intro hv; cases hv
    · rintro ⟨c, hc, -, hid⟩
      exact absurd hid (h.id_ne hc)
  | child hc => exact ⟨fun _ => ⟨d, hc, rfl, rfl⟩, fun _ => rfl⟩

omit h in
theorem Files.eq_of_via (hi : root.Files d i) {id : String} (hv : i.link = .via id) :
    id = root.id := by
  cases hi with
  | own | collapsed => cases hv
  | child => cases hv; rfl

omit h in
theorem Files.eq_of_mac (hi : root.Files d i) {address : String} (hm : i.link = .mac address) :
    d = root ∧ address = root.mac ∨ d ∈ root.children ∧ i.id = root.id ∧ address = d.mac := by
  cases hi with
  | own => cases hm; exact Or.inl ⟨rfl, rfl⟩
  | collapsed hc => cases hm; exact Or.inr ⟨hc, rfl, rfl⟩
  | child => cases hm

end Files

end Device

/-! ### Requests -/

namespace Request

/-- **No record points at itself**, whatever is asked for. -/
theorem link_ne_via_id (r : Request) : r.deviceInfo.link ≠ .via r.deviceInfo.id := by
  intro hv
  change r.link = .via r.registryDevice.id at hv
  unfold link at hv
  split at hv
  · rename_i parent hp
    split_ifs at hv with hne
    rw [Link.via.injEq] at hv
    rw [hv, bne_self_eq_false] at hne
    cases hne
  · cases hv

section
variable {root : Device} {r : Request}

theorem deviceInfo_of_hub (hp : r.parent = some root) (ht : root.type = .hub)
    (hne : root.id ≠ r.device.id) : r.deviceInfo = root.childRecord r.device := by
  have hh : r.host? = none := by simp [host?, hp, ht]
  have hd : r.registryDevice = r.device := by simp only [registryDevice, hh]
  have hn : r.deviceName = r.device.name := by simp only [deviceName, hh]
  simp [deviceInfo, Device.childRecord, Device.childName, link, hp, hd, hn, ht, hne]

theorem deviceInfo_of_host (hp : r.parent = some root) (ht : root.type ≠ .hub)
    (hne : root.id ≠ r.device.id) : r.deviceInfo =
      if r.isMainControl then root.rootRecord r.device.mac else root.childRecord r.device := by
  have hh : r.host? = some root := by simp [host?, hp, ht]
  have hd : r.registryDevice = if r.isMainControl then root else r.device := by
    simp only [registryDevice, hh]
  have hn : r.deviceName =
      if r.isMainControl then root.name else root.name ++ " " ++ r.device.name := by
    simp only [deviceName, hh]
  by_cases hm : r.isMainControl = true
  · simp [deviceInfo, Device.rootRecord, link, hp, hd, hn, hm]
  · simp [deviceInfo, Device.childRecord, Device.childName, link, hp, hd, hn, hm, ht, hne]

/-- **Every record is one of the three.** -/
theorem files (h : root.DistinctDevices) (hplaced : root.Placed r.device r.parent) :
    root.Files r.device r.deviceInfo := by
  generalize hd : r.device = device at hplaced
  generalize hp : r.parent = parent at hplaced
  cases hplaced with
  | root =>
    have hh : r.host? = none := by simp [host?, hp]
    have hinfo : r.deviceInfo = root.rootRecord root.mac := by
      simp [deviceInfo, Device.rootRecord, link, registryDevice, deviceName, hh, hp, hd]
    rw [hinfo]
    exact .own
  | child hc =>
    have hne : root.id ≠ r.device.id := hd ▸ h.id_ne hc
    by_cases ht : root.type = .hub
    · rw [deviceInfo_of_hub hp ht hne, hd]
      exact .child hc
    · rw [deviceInfo_of_host hp ht hne, hd]
      split_ifs
      · exact .collapsed hc
      · exact .child hc

end

end Request

/-! ### Entities of set-up -/

theorem Platform.placed_of_mem_sources {platform : Platform} {root : Device} {s : Source}
    (h : s ∈ platform.sources root) : root.Placed s.device s.parent := by
  rcases platform.featureType?_cases with ⟨type, ht⟩ | rfl | rfl
  · obtain ⟨d, parent, hp, f, -, -, rfl⟩ := (mem_sources_of_featureType ht).mp h
    exact hp
  · obtain ⟨d, parent, hp, -, rfl⟩ := mem_sources_light.mp h
    exact hp
  · obtain ⟨d, hd, -, rfl⟩ := mem_sources_climate.mp h
    exact .child hd

/-- The record that an entity is filed under. -/
def Entity.record (e : Entity) : DeviceInfo := e.identity.deviceInfo

theorem exists_files_of_mem {table : List Platform} {root : Device} {extras : Extras} {e : Entity}
    (h : root.DistinctDevices) (he : e ∈ setUpEntities table root extras) :
    ∃ d, e.deviceId = d.id ∧ root.Files d e.record := by
  obtain ⟨s, hs, ho⟩ := exists_source_of_mem he
  have hrecord : e.record = (e.platform.binding extras s).request.deviceInfo :=
    congrArg (fun o => o.identity.deviceInfo) ho
  refine ⟨s.device, congrArg Origin.deviceId ho, ?_⟩
  have hplaced : root.Placed (e.platform.binding extras s).request.device
      (e.platform.binding extras s).request.parent := Platform.placed_of_mem_sources hs
  rw [hrecord]
  exact Request.files h hplaced

/-- The record of an entity points at the root exactly if the entity is one of a child and filed
under that child; else it carries the address of the root, or of the child whose entity is filed
under the root. -/
structure Entity.Anchored (e : Entity) (root : Device) : Prop where
  isVia_iff : e.record.link.isVia = true ↔
    ∃ c ∈ root.children, e.deviceId = c.id ∧ e.record.id = c.id
  via : ∀ id, e.record.link = .via id → id = root.id
  mac : ∀ address, e.record.link = .mac address →
    e.deviceId = root.id ∧ address = root.mac ∨
      ∃ c ∈ root.children, e.deviceId = c.id ∧ e.record.id = root.id ∧ address = c.mac

theorem anchored_of_mem {table : List Platform} {root : Device} {extras : Extras} {e : Entity}
    (h : root.DistinctDevices) (he : e ∈ setUpEntities table root extras) : e.Anchored root := by
  obtain ⟨d, hid, hf⟩ := exists_files_of_mem h he
  refine ⟨?_, fun id hv => hf.eq_of_via hv, fun address hm => ?_⟩
  · rw [hid]; exact hf.isVia_iff h
  · rcases hf.eq_of_mac hm with ⟨rfl, ha⟩ | ⟨hc, hi, ha⟩
    · exact Or.inl ⟨hid, ha⟩
    · exact Or.inr ⟨d, hc, hid, hi, ha⟩

/-- **Records are coherent.** If the ids of the devices in a tree are distinct, entities that are
filed under one id agree on its record, and each record is anchored as it should be. No record ever
points at itself, whatever is asked of the registry. -/
theorem setUp_records_coherent :
    (∀ (root : Device) (extras : Extras), root.DistinctDevices →
      ∃ entities events, setUp root extras = .ok (entities, events) ∧
        (∀ e ∈ entities, ∀ e' ∈ entities, e.record.id = e'.record.id →
          e.record.Agrees e'.record) ∧
        ∀ e ∈ entities, e.Anchored root) ∧
    (∀ (legacyId : Device → String) (r : Request) (identity : Identity),
      r.resolve legacyId = .ok identity →
        identity.deviceInfo.link ≠ .via identity.deviceInfo.id) := by
  constructor
  · intro root extras h
    obtain ⟨events, hok, -⟩ := setUpWith_eq Platform.all root extras
    refine ⟨_, events, hok, fun e he e' he' hid => ?_, fun e he => anchored_of_mem h he⟩
    obtain ⟨d, -, hf⟩ := exists_files_of_mem h he
    obtain ⟨d', -, hf'⟩ := exists_files_of_mem h he'
    exact hf.agrees h hf' hid
  · intro legacyId r identity hr
    unfold Request.resolve at hr
    split at hr
    · cases hr; exact r.link_ne_via_id
    · cases hr

/-! ### A hallway whose lamp hangs below it -/

theorem hallway_distinctDevices : hallway.DistinctDevices := by
  unfold Device.DistinctDevices
  decide

/-- A measurement on a device that is its own parent. -/
def ownParent : Request where
  platform := .sensor
  device := hallway
  feature := some { id := "rssi", name := "RSSI", type := .sensor, category := .info }
  parent := some hallway

theorem setUp_records_coherent_hallway :
    hallway.DistinctDevices ∧
    (∃ entities events, setUp hallway {} = .ok (entities, events) ∧
      entities.map (fun e => (e.uniqueId, e.record.id, e.record.link)) =
        [("B0957500000B", "HS300_80", .mac "B0:95:75:00:00:0B"),
          ("81_level", "HS300_81_rssi", .via "HS300_80"),
          ("80_rssi", "HS300_80", .mac "B0:95:75:00:00:0A"),
          ("80_rssi_level", "HS300_80", .mac "B0:95:75:00:00:0A"),
          ("80", "HS300_80", .mac "B0:95:75:00:00:0A")] ∧
      (∀ e ∈ entities, ∀ e' ∈ entities, e.record.id = e'.record.id →
        e.record.Agrees e'.record) ∧
      ∀ e ∈ entities, e.Anchored hallway) ∧
    ∃ identity, ownParent.resolve Device.legacyId = .ok identity ∧
      identity.uniqueId = "80_rssi" ∧ identity.deviceInfo.id = "HS300_80" ∧
      identity.deviceInfo.link = .mac "B0:95:75:00:00:0A" ∧
      identity.deviceInfo.link ≠ .via identity.deviceInfo.id := by
  have hrecords : (·.1.map fun e => (e.uniqueId, e.record.id, e.record.link)) <$>
      setUp hallway {} = .ok
        [("B0957500000B", "HS300_80", .mac "B0:95:75:00:00:0B"),
          ("81_level", "HS300_81_rssi", .via "HS300_80"),
          ("80_rssi", "HS300_80", .mac "B0:95:75:00:00:0A"),
          ("80_rssi_level", "HS300_80", .mac "B0:95:75:00:00:0A"),
          ("80", "HS300_80", .mac "B0:95:75:00:00:0A")] := rfl
  obtain ⟨htree, hrequest⟩ := setUp_records_coherent
  obtain ⟨entities, events, hok, hcoherent⟩ := htree hallway {} hallway_distinctDevices
  rw [hok] at hrecords
  exact ⟨hallway_distinctDevices, ⟨entities, events, hok, Except.ok.inj hrecords, hcoherent⟩,
    _, rfl, rfl, rfl, rfl, hrequest Device.legacyId ownParent _ rfl⟩

end HomeEntities
