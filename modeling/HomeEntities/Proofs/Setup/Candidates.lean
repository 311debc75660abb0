import HomeEntities.Proofs.Registry.UniqueId
import HomeEntities.Setup.Candidate
import Mathlib.Data.List.Nodup

/-! # The candidates of a platform

Every source of a platform becomes an entity (`entity_eq`), so that the candidates of a tree are
the sources, each replaced by `Platform.newEntity` (`candidates_eq`); no set-up fails for want of a
unique id. The sources are characterized by the devices and features they come from
(`mem_sources_of_featureType`, `mem_sources_light`, `mem_sources_climate`), where `Placed` says at
which of the two levels of the tree a device stands. -/

namespace HomeEntities

/-! ### Places in a tree -/

namespace Device

/-- The devices of a tree that are looked at: the root and its children. -/
def nodes (root : Device) : List Device := root :: root.children

theorem find?_eq_find?_nodes (root : Device) (id : String) :
    root.find? id = root.nodes.find? (·.id == id) := by
  unfold find? nodes
  rw [List.find?_cons]
  cases root.id == id <;> rfl

/-- Where a device stands in a tree: it is the root, or a child below the root. -/
inductive Placed (root : Device) : Device → Option Device → Prop
  | root : Placed root root none
  | child {device : Device} (h : device ∈ root.children) : Placed root device (some root)

theorem Placed.mem_nodes {root d : Device} {parent : Option Device} (h : root.Placed d parent) :
    d ∈ root.nodes := by
  cases h with
  | root => exact List.mem_cons_self
  | child h => exact List.mem_cons_of_mem _ h

theorem exists_placed {root d : Device} (h : d ∈ root.nodes) : ∃ parent, root.Placed d parent := by
  rcases List.mem_cons.mp h with rfl | h
  · exact ⟨_, .root⟩
  · exact ⟨_, .child h⟩

theorem mem_sources {d : Device} {parent : Option Device} {type : FeatureType} {s : Source} :
    s ∈ d.sources parent type ↔
      ∃ f ∈ d.features, qualifies d f type = true ∧ s = ⟨d, some f, parent⟩ := by
  simp only [Device.sources, List.mem_map, List.mem_filter]
  constructor
  · rintro ⟨f, ⟨hf, hq⟩, rfl⟩; exact ⟨f, hf, hq, rfl⟩
  · rintro ⟨f, hf, hq, rfl⟩; exact ⟨f, ⟨hf, hq⟩, rfl⟩

theorem mem_treeSources {root : Device} {type : FeatureType} {s : Source} :
    s ∈ root.treeSources type ↔ ∃ d parent, root.Placed d parent ∧
      ∃ f ∈ d.features, qualifies d f type = true ∧ s = ⟨d, some f, parent⟩ := by
  simp only [treeSources, List.mem_append, List.mem_flatMap, mem_sources]
  constructor
  · rintro (⟨c, hc, h⟩ | h)
    · exact ⟨c, some root, .child hc, h⟩
    · exact ⟨root, none, .root, h⟩
  · rintro ⟨d, parent, hp, h⟩
    cases hp with
    | root => exact Or.inr h
    | child hc => exact Or.inl ⟨d, hc, h⟩

end Device

theorem qualifies_iff {d : Device} {f : Feature} {type : FeatureType} :
    qualifies d f type = true ↔ f.type = type ∧ ¬ (f.category = .primary ∧ d.type.isLight) := by
  simp only [qualifies, Bool.and_eq_true, beq_iff_eq, Bool.or_eq_true, bne_iff_ne,
    Bool.not_eq_true', not_and, Bool.not_eq_true, ← imp_iff_not_or]

/-! ### States -/

@[simp] theorem State.initial_platform (platform : Platform) (feature : Option Feature) :
    (State.initial platform feature).platform = platform := by
  cases platform <;> rfl

/-! ### Sources -/

namespace Platform

variable {platform : Platform} {root : Device} {s : Source}

theorem sources_of_featureType {type : FeatureType} (h : platform.featureType? = some type) :
    platform.sources root = root.treeSources type := by
  cases platform <;> simp only [featureType?, Option.some.injEq, reduceCtorEq] at h <;> subst h <;>
    rfl

theorem mem_sources_of_featureType {type : FeatureType} (h : platform.featureType? = some type) :
    s ∈ platform.sources root ↔ ∃ d parent, root.Placed d parent ∧
      ∃ f ∈ d.features, qualifies d f type = true ∧ s = ⟨d, some f, parent⟩ := by
  rw [sources_of_featureType h, Device.mem_treeSources]

theorem mem_sources_light : s ∈ light.sources root ↔
    ∃ d parent, root.Placed d parent ∧ d.type.isLight = true ∧ s = ⟨d, none, parent⟩ := by
  simp only [sources, List.mem_append, List.mem_map, List.mem_filter]
  constructor
  · rintro (h | ⟨c, ⟨hc, hl⟩, rfl⟩)
    · split_ifs at h with hl
      · exact ⟨root, none, .root, hl, List.mem_singleton.mp h⟩
      · simp at h
    · exact ⟨c, some root, .child hc, hl, rfl⟩
  · rintro ⟨d, parent, hp, hl, rfl⟩
    cases hp with
    | root => left; rw [if_pos hl]; exact List.mem_singleton_self _
    | child hc => exact Or.inr ⟨d, ⟨hc, hl⟩, rfl⟩

theorem mem_sources_climate : s ∈ climate.sources root ↔
    ∃ d ∈ root.children, d.type = .thermostat ∧ s = ⟨d, none, some root⟩ := by
  simp only [sources, List.mem_map, List.mem_filter, beq_iff_eq]
  constructor
  · rintro ⟨d, ⟨hd, ht⟩, rfl⟩; exact ⟨d, hd, ht, rfl⟩
  · rintro ⟨d, hd, ht, rfl⟩; exact ⟨d, ⟨hd, ht⟩, rfl⟩

/-- A platform takes features of one type, or it is one of the two that stand for devices. -/
theorem featureType?_cases (platform : Platform) :
    (∃ type, platform.featureType? = some type) ∨ platform = light ∨ platform = climate := by
  cases platform <;> simp [featureType?]

theorem featureType?_inj {p p' : Platform} {type : FeatureType} (h : p.featureType? = some type)
    (h' : p'.featureType? = some type) : p = p' := by
  cases p' <;> simp only [featureType?, Option.some.injEq, reduceCtorEq] at h' <;> subst h' <;>
    cases p <;> simp [featureType?] at h ⊢

theorem exists_featureType? {type : FeatureType} (h : type ≠ .unknown) :
    ∃ platform : Platform, platform.featureType? = some type := by
  cases type
  · exact ⟨sensor, rfl⟩
  · exact ⟨binarySensor, rfl⟩
  · exact ⟨switch, rfl⟩
  · exact ⟨button, rfl⟩
  · exact ⟨number, rfl⟩
  · exact ⟨select, rfl⟩
  · exact absurd rfl h

theorem featureType?_ne_unknown (platform : Platform) : platform.featureType? ≠ some .unknown := by
  cases platform <;> simp [featureType?]

theorem isSome_feature_of_mem_sources (h : s ∈ platform.sources root) :
    s.feature.isSome = platform.featureType?.isSome := by
  rcases platform.featureType?_cases with ⟨type, ht⟩ | rfl | rfl
  · obtain ⟨d, parent, -, f, -, -, rfl⟩ := (mem_sources_of_featureType ht).mp h
    rw [ht]; rfl
  · obtain ⟨d, parent, -, -, rfl⟩ := mem_sources_light.mp h; rfl
  · obtain ⟨d, -, -, rfl⟩ := mem_sources_climate.mp h; rfl

/-! ### New entities -/

/-- The unique id of the entity that a platform makes of a source. -/
def sourceId (platform : Platform) (source : Source) : String :=
  match source.feature with
  | some feature => source.device.featureUniqueId feature
  | none =>
    if platform = climate then source.device.climateUniqueId else source.device.lightUniqueId

/-- The entity that a platform makes of a source. -/
def newEntity (platform : Platform) (extras : Extras) (source : Source) : Entity :=
  let binding := platform.binding extras source
  let request := binding.request
  { deviceId := source.device.id
    deviceName := source.device.name
    featureId := source.feature.map (·.id)
    identity := ⟨platform.sourceId source, request.deviceInfo, request.name,
      EntityCategory.ofFeature? source.feature⟩
    description := binding.description
    entityId := entityIdFor platform request.deviceName
      (request.name <|> binding.description.map (·.name))
    readable := true
    state := .initial platform source.feature }

section NewEntity
variable (platform : Platform) (extras : Extras) (s : Source)

@[simp] theorem newEntity_platform : (platform.newEntity extras s).platform = platform :=
  State.initial_platform platform s.feature

@[simp] theorem newEntity_uniqueId :
    (platform.newEntity extras s).uniqueId = platform.sourceId s := rfl

@[simp] theorem newEntity_state :
    (platform.newEntity extras s).state = .initial platform s.feature := rfl

end NewEntity

theorem uniqueId_binding (extras : Extras) (h : s ∈ platform.sources root) :
    (platform.binding extras s).request.uniqueId Device.legacyId = .ok (platform.sourceId s) := by
  rcases platform.featureType?_cases with ⟨type, ht⟩ | rfl | rfl
  · obtain ⟨d, parent, -, f, -, -, rfl⟩ := (mem_sources_of_featureType ht).mp h
    exact Request.uniqueId_of_feature rfl
  · obtain ⟨d, parent, -, -, rfl⟩ := mem_sources_light.mp h
    exact Request.uniqueId_of_light rfl rfl rfl
  · obtain ⟨d, -, -, rfl⟩ := mem_sources_climate.mp h
    exact Request.uniqueId_of_fixedId rfl rfl

/-- **Every source becomes an entity.** -/
theorem entity_eq (extras : Extras) (h : s ∈ platform.sources root) :
    platform.entity extras s = .ok (platform.newEntity extras s) := by
  have hp : (platform.binding extras s).state.platform = platform :=
    State.initial_platform platform s.feature
  simp only [entity, Entity.create, Request.resolve_of_uniqueId (uniqueId_binding extras h), hp]
  rfl

end Platform

theorem mapM_eq_ok {ε α β : Type} {f : α → Except ε β} {g : α → β} :
    ∀ {l : List α}, (∀ a ∈ l, f a = .ok (g a)) → l.mapM f = .ok (l.map g)
  | [], _ => rfl
  | a :: l, h => by
    rw [List.mapM_cons, h a List.mem_cons_self,
      mapM_eq_ok fun b hb => h b (List.mem_cons_of_mem a hb)]
    rfl

/-- **No platform fails to make its entities.** -/
theorem Platform.candidates_eq (platform : Platform) (root : Device) (extras : Extras) :
    platform.candidates root extras =
      .ok ((platform.sources root).map (platform.newEntity extras)) :=
  mapM_eq_ok fun _ h => entity_eq extras h

end HomeEntities
