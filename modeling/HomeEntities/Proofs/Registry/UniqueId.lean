import HomeEntities.Registry.Identity
import Mathlib.Data.List.TakeWhile

/-! # Unique ids

The unique ids of entities made of features, of lights and of climate entities, each as a function
of the device. A legacy id has no underscore (`underscore_notMem_legacyId`), so the unique id of a
feature can be taken apart at its first underscore (`takeApart_featureUniqueId`): it determines the
legacy id of the device and the id of the feature (`featureUniqueId_inj`), whatever underscores the
latter has. -/

namespace HomeEntities

namespace Device

/-- The unique id of the entity made of a feature. -/
def featureUniqueId (device : Device) (feature : Feature) : String :=
  if feature.id = stateId then device.legacyId else device.legacyId ++ "_" ++ feature.id

/-- The unique id of the light that stands for a device. -/
def lightUniqueId (device : Device) : String :=
  if device.type = .dimmer ∧ device.isLegacy then device.legacyId else normalizeMac device.mac

/-- The unique id of the climate entity that stands for a device. -/
def climateUniqueId (device : Device) : String := device.id ++ "_climate"

/-! ### Legacy ids -/

theorem underscore_notMem_segment (cs : List Char) : '_' ∉ segment cs := by
  intro h
  have := List.mem_takeWhile_imp h
  simp at this

theorem underscore_notMem_of_secondSegment?_eq_none {cs : List Char}
    (h : secondSegment? cs = none) : '_' ∉ cs := by
  unfold secondSegment? at h
  split at h
  · rename_i hd
    rw [List.dropWhile_eq_nil_iff] at hd
    intro hc
    simpa using hd '_' hc
  · simp at h

theorem underscore_notMem_of_secondSegment?_eq_some {cs seg : List Char}
    (h : secondSegment? cs = some seg) : '_' ∉ seg := by
  unfold secondSegment? at h
  split at h
  · simp at h
  · rw [← Option.some.inj h]; exact underscore_notMem_segment _

theorem underscore_notMem_legacyId (device : Device) : '_' ∉ device.legacyId.toList := by
  unfold legacyId
  split
  · rename_i h
    rw [String.toList_ofList]
    exact underscore_notMem_of_secondSegment?_eq_some h
  · rename_i h
    exact underscore_notMem_of_secondSegment?_eq_none h

theorem mem_of_mem_legacyId {device : Device} {c : Char} (h : c ∈ device.legacyId.toList) :
    c ∈ device.id.toList := by
  unfold legacyId at h
  split at h
  · rename_i cs hcs
    rw [String.toList_ofList] at h
    unfold secondSegment? at hcs
    split at hcs
    · cases hcs
    · rename_i underscore rest hdrop
      cases hcs
      have hrest : c ∈ underscore :: rest :=
        List.mem_cons_of_mem _ ((List.takeWhile_sublist _).subset h)
      exact (List.dropWhile_sublist _).subset (hdrop ▸ hrest)
  · exact h

theorem legacyId_eq_id_iff (device : Device) :
    device.legacyId = device.id ↔ '_' ∉ device.id.toList := by
  constructor
  · intro h
    rw [← h]
    exact underscore_notMem_legacyId device
  · intro h
    have hdrop : device.id.toList.dropWhile (· != '_') = [] := by
      rw [List.dropWhile_eq_nil_iff]
      intro c hc
      have hne : c ≠ '_' := fun hu => h (hu ▸ hc)
      simpa using hne
    rw [legacyId, secondSegment?, hdrop]

/-! ### Unique ids of features -/

/-- A text is cut in one way only at its first occurrence of a character. -/
theorem append_cons_inj_of_first {α : Type} {a : α} : ∀ {x y u v : List α}, a ∉ x → a ∉ u →
    (x ++ a :: y = u ++ a :: v ↔ x = u ∧ y = v)
  | [], y, [], v, _, _ => by simp
  | [], y, c :: u, v, _, hu => by
    have : a ≠ c := fun h => hu (by simp [h])
    simp [this]
  | b :: x, y, [], v, hx, _ => by
    have : b ≠ a := fun h => hx (by simp [h])
    simp [this]
  | b :: x, y, c :: u, v, hx, hu => by
    have ih := append_cons_inj_of_first (y := y) (v := v) (fun h => hx (List.mem_cons_of_mem b h))
      (fun h => hu (List.mem_cons_of_mem c h))
    simp only [List.cons_append, List.cons.injEq, ih, and_assoc]

theorem toList_featureUniqueId_of_ne {device : Device} {feature : Feature}
    (h : feature.id ≠ stateId) :
    (device.featureUniqueId feature).toList =
      device.legacyId.toList ++ '_' :: feature.id.toList := by
  simp [featureUniqueId, h]

theorem featureUniqueId_of_eq {device : Device} {feature : Feature} (h : feature.id = stateId) :
    device.featureUniqueId feature = device.legacyId := if_pos h

theorem underscore_mem_featureUniqueId {device : Device} {feature : Feature} :
    '_' ∈ (device.featureUniqueId feature).toList ↔ feature.id ≠ stateId := by
  by_cases h : feature.id = stateId
  · simp [featureUniqueId_of_eq h, h, underscore_notMem_legacyId]
  · simp [toList_featureUniqueId_of_ne h, h]

/-- The legacy id of the device and the id of the feature that a unique id is made of: what stands
before its first underscore and what stands behind it. Without an underscore it is that of a main
switch. -/
def takeApart (uniqueId : String) : String × String :=
  match uniqueId.toList.dropWhile (· != '_') with
  | [] => (uniqueId, stateId)
  | _ :: rest => (String.ofList (segment uniqueId.toList), String.ofList rest)

/-- **The unique id of a feature can be taken apart.** -/
theorem takeApart_featureUniqueId (device : Device) (feature : Feature) :
    takeApart (device.featureUniqueId feature) = (device.legacyId, feature.id) := by
  have hlegacy : ∀ c ∈ device.legacyId.toList, (c != '_') = true := by
    intro c hc
    have hne : c ≠ '_' := fun h => underscore_notMem_legacyId device (h ▸ hc)
    simpa using hne
  by_cases h : feature.id = stateId
  · rw [takeApart, featureUniqueId_of_eq h, List.dropWhile_eq_nil_iff.mpr hlegacy, h]
  · have hdrop : (device.featureUniqueId feature).toList.dropWhile (· != '_') =
        '_' :: feature.id.toList := by
      rw [toList_featureUniqueId_of_ne h, List.dropWhile_append_of_pos hlegacy]
      rfl
    have hsegment : segment (device.featureUniqueId feature).toList = device.legacyId.toList := by
      rw [segment, toList_featureUniqueId_of_ne h, List.takeWhile_append_of_pos hlegacy,
        List.takeWhile_cons_of_neg (by simp), List.append_nil]
    simp only [takeApart, hdrop, hsegment, String.ofList_toList]

/-- **The unique id of a feature determines the legacy id of its device and its own id.** -/
theorem featureUniqueId_inj {d d' : Device} {f f' : Feature} :
    d.featureUniqueId f = d'.featureUniqueId f' ↔ d.legacyId = d'.legacyId ∧ f.id = f'.id := by
  constructor
  · intro h
    have hparts := congrArg takeApart h
    rw [takeApart_featureUniqueId, takeApart_featureUniqueId] at hparts
    exact Prod.mk.inj hparts
  · rintro ⟨hl, hf⟩
    simp only [featureUniqueId, hl, hf]

end Device

/-! ### Requests -/

namespace Request

variable {r : Request}

theorem uniqueId_of_feature {f : Feature} (h : r.feature = some f) :
    r.uniqueId Device.legacyId = .ok (r.device.featureUniqueId f) := by
  simp only [uniqueId, h, Device.featureUniqueId, beq_iff_eq]
  split <;> rfl

theorem uniqueId_of_fixedId {id : String} (hf : r.feature = none) (h : r.fixedId = some id) :
    r.uniqueId Device.legacyId = .ok id := by
  simp only [uniqueId, hf, h]

theorem uniqueId_of_light (hf : r.feature = none) (hid : r.fixedId = none)
    (h : r.platform = .light) : r.uniqueId Device.legacyId = .ok r.device.lightUniqueId := by
  simp only [uniqueId, hf, hid, h, beq_self_eq_true, if_true, Device.lightUniqueId, beq_iff_eq,
    Bool.and_eq_true]
  split <;> rfl

/-- **Unique ids of features are decodable** over all devices. Whatever the requests are otherwise,
the entities of two features have a unique id each, and these are equal exactly if the devices have
one legacy id and the features one id. Both can be read off a unique id: a legacy id has no
underscore, and a unique id has one exactly if it is not that of a main switch. -/
theorem featureIds_decodable (r r' : Request) (f f' : Feature) :
    ∃ id id', { r with feature := some f }.uniqueId Device.legacyId = .ok id ∧
      { r' with feature := some f' }.uniqueId Device.legacyId = .ok id' ∧
      (id = id' ↔ r.device.legacyId = r'.device.legacyId ∧ f.id = f'.id) ∧
      Device.takeApart id = (r.device.legacyId, f.id) ∧
      ('_' ∈ id.toList ↔ f.id ≠ "state") ∧
      '_' ∉ r.device.legacyId.toList ∧
      (r.device.legacyId = r.device.id ↔ '_' ∉ r.device.id.toList) :=
  ⟨r.device.featureUniqueId f, r'.device.featureUniqueId f', uniqueId_of_feature rfl,
    uniqueId_of_feature rfl, Device.featureUniqueId_inj,
    Device.takeApart_featureUniqueId r.device f, Device.underscore_mem_featureUniqueId,
    Device.underscore_notMem_legacyId r.device, Device.legacyId_eq_id_iff r.device⟩

theorem resolve_of_uniqueId {id : String} (h : r.uniqueId Device.legacyId = .ok id) :
    r.resolve Device.legacyId =
      .ok ⟨id, r.deviceInfo, r.name, EntityCategory.ofFeature? r.feature⟩ := by
  simp only [resolve, h]

end Request

end HomeEntities
