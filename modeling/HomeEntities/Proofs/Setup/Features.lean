import HomeEntities.Proofs.Setup.Loop
import Mathlib.Data.List.Perm.Lattice

/-! # Entities of features

If the ids of a tree are distinct (`DistinctIds`), no two features get the same unique id, although
the ids may have underscores in any place, so set-up drops none of them: every feature of a known
type, save the main controls of lights, has exactly one entity, on the platform of its type, and
there are no others on the platforms of features (`setUp_features_exact`).

The unique ids of a platform's sources are distinct (`nodup_map_sourceId`). What this means for the
entities of one platform follows from `map_origin_filter_setUpEntities`, and for its duplicates from
`notMem_repeats_of_nodup`. -/

namespace HomeEntities

/-! ### One platform of a table -/

section Table
variable {table : List Platform} {root : Device} {extras : Extras} {platform : Platform}

theorem filter_map_newEntity (p : Platform) :
    ((p.sources root).map (p.newEntity extras)).filter (fun e => decide (e.key.1 = platform)) =
      if p = platform then (p.sources root).map (p.newEntity extras) else [] := by
  split_ifs with h
  · rw [List.filter_eq_self]
    intro e he
    obtain ⟨s, -, rfl⟩ := List.mem_map.mp he
    simp [Entity.key, h]
  · rw [List.filter_eq_nil_iff]
    intro e he
    obtain ⟨s, -, rfl⟩ := List.mem_map.mp he
    simp [Entity.key, h]

theorem filter_candidatesOf (hp : platform ∈ table) (hn : table.Nodup) :
    (candidatesOf table root extras).filter (fun e => decide (e.key.1 = platform)) =
      (platform.sources root).map (platform.newEntity extras) := by
  have outside : ∀ {t : List Platform}, platform ∉ t →
      (candidatesOf t root extras).filter (fun e => decide (e.key.1 = platform)) = [] := by
    intro t ht
    rw [List.filter_eq_nil_iff]
    intro e he
    obtain ⟨p, hpt, s, -, rfl⟩ := mem_candidatesOf.mp he
    have : p ≠ platform := fun h => ht (h ▸ hpt)
    simp [Entity.key, this]
  induction table with
  | nil => simp at hp
  | cons p rest ih =>
    rw [List.nodup_cons] at hn
    rw [candidatesOf, List.flatMap_cons, List.filter_append, filter_map_newEntity]
    rcases List.mem_cons.mp hp with rfl | hp
    · rw [if_pos rfl]
      exact (congrArg _ (outside hn.1)).trans (List.append_nil _)
    · have hne : p ≠ platform := fun h => hn.1 (h ▸ hp)
      rw [if_neg hne]
      exact ih hp hn.2

/-- **The entities on one platform** are made of its sources, save those whose unique id occurred
before. -/
theorem map_origin_filter_setUpEntities (hp : platform ∈ table) (hn : table.Nodup) :
    ((setUpEntities table root extras).filter (fun e => decide (e.platform = platform))).map
        Entity.origin =
      (firsts platform.sourceId (platform.sources root)).map
        (fun s => (platform.newEntity extras s).origin) := by
  have hkeys : firsts (fun s => (platform.newEntity extras s).key) (platform.sources root) =
      firsts platform.sourceId (platform.sources root) := by
    refine firsts_congr _ fun s _ s' _ => ?_
    simp [Entity.key]
  calc ((setUpEntities table root extras).filter (fun e => decide (e.platform = platform))).map
        Entity.origin
      = ((setUpEntities table root extras).map Entity.origin).filter
          (fun o => decide (o.platform = platform)) := by rw [List.filter_map]; rfl
    _ = ((firsts Entity.key (candidatesOf table root extras)).filter
          (fun e => decide (e.key.1 = platform))).map Entity.origin := by
        rw [setUpEntities, settle_map_origin, List.filter_map]; rfl
    _ = (firsts Entity.key ((platform.sources root).map (platform.newEntity extras))).map
          Entity.origin := by
        rw [filter_firsts Entity.key (fun k => decide (k.1 = platform)),
          filter_candidatesOf hp hn]
    _ = _ := by rw [firsts_map, hkeys, List.map_map]; rfl

theorem exists_entity_of_mem_firsts_sources (hp : platform ∈ table) (hn : table.Nodup) {s : Source}
    (hs : s ∈ firsts platform.sourceId (platform.sources root)) :
    ∃ e ∈ setUpEntities table root extras, e.origin = (platform.newEntity extras s).origin := by
  have hmem := List.mem_map_of_mem (f := fun s => (platform.newEntity extras s).origin) hs
  rw [← map_origin_filter_setUpEntities hp hn] at hmem
  obtain ⟨e, he, ho⟩ := List.mem_map.mp hmem
  exact ⟨e, List.mem_of_mem_filter he, ho⟩

theorem map_key_newEntity : ((platform.sources root).map (platform.newEntity extras)).map
    Entity.key = ((platform.sources root).map platform.sourceId).map (platform, ·) := by
  rw [List.map_map, List.map_map]
  refine List.map_congr_left fun s _ => ?_
  simp [Entity.key]

theorem nodup_map_key (h : ((platform.sources root).map platform.sourceId).Nodup) :
    (((platform.sources root).map (platform.newEntity extras)).map Entity.key).Nodup := by
  rw [map_key_newEntity]
  exact h.map fun a b he => (Prod.mk.inj he).2

theorem notMem_repeats_of_nodup (hp : platform ∈ table) (hn : table.Nodup)
    (h : ((platform.sources root).map platform.sourceId).Nodup) {c : Entity}
    (hc : c.platform = platform) :
    c ∉ repeats Entity.key [] (candidatesOf table root extras) := by
  intro hr
  obtain ⟨before, after, hsplit, hk⟩ := mem_repeats _ hr
  have hk : c.key ∈ before.map Entity.key := hk.resolve_right List.not_mem_nil
  have hf := @filter_candidatesOf table root extras platform hp hn
  rw [hsplit, List.filter_append, List.filter_cons_of_pos (by simp [Entity.key, hc])] at hf
  have hnd := @nodup_map_key root extras platform h
  rw [← hf, List.map_append, List.map_cons, List.nodup_append] at hnd
  obtain ⟨b, hb, hbk⟩ := List.mem_map.mp hk
  refine hnd.2.2 c.key (List.mem_map.mpr ⟨b, List.mem_filter.mpr ⟨hb, ?_⟩, hbk⟩) c.key
    List.mem_cons_self rfl
  rw [decide_eq_true_eq, hbk]
  exact hc

end Table

/-! ### Distinct ids -/

namespace Device

/-- The ids of a tree are distinct: those under which earlier releases knew its devices, and on
each device those of its features. -/
structure DistinctIds (root : Device) : Prop where
  devices : (root.nodes.map legacyId).Nodup
  features : ∀ d ∈ root.nodes, (d.features.map (·.id)).Nodup

namespace DistinctIds

variable {root : Device} (h : root.DistinctIds)
include h

theorem eq_of_legacyId_eq {d d' : Device} (hd : d ∈ root.nodes) (hd' : d' ∈ root.nodes)
    (he : d.legacyId = d'.legacyId) : d = d' :=
  List.inj_on_of_nodup_map h.devices hd hd' he

theorem eq_of_id_eq {d d' : Device} (hd : d ∈ root.nodes) (hd' : d' ∈ root.nodes)
    (he : d.id = d'.id) : d = d' :=
  h.eq_of_legacyId_eq hd hd' (by unfold legacyId; rw [he])

theorem feature_eq_of_id_eq {d : Device} (hd : d ∈ root.nodes) {f f' : Feature}
    (hf : f ∈ d.features) (hf' : f' ∈ d.features) (he : f.id = f'.id) : f = f' :=
  List.inj_on_of_nodup_map (h.features d hd) hf hf' he

end DistinctIds

/-! ### Distinct unique ids -/

/-- The unique ids of the features of a device that become entities of a type. -/
def featureUniqueIds (d : Device) (type : FeatureType) : List String :=
  (d.features.filter (qualifies d · type)).map d.featureUniqueId

theorem map_sourceId_sources {platform : Platform} (d : Device) (parent : Option Device)
    (type : FeatureType) :
    (d.sources parent type).map platform.sourceId = d.featureUniqueIds type := by
  rw [Device.sources, List.map_map]; rfl

theorem map_sourceId_treeSources {platform : Platform} (root : Device) (type : FeatureType) :
    ((root.treeSources type).map platform.sourceId).Perm
      (root.nodes.flatMap (·.featureUniqueIds type)) := by
  rw [treeSources, List.map_append, List.map_flatMap, map_sourceId_sources]
  simp only [map_sourceId_sources]
  exact List.perm_append_comm

theorem nodup_featureUniqueIds {d : Device} (h : (d.features.map (·.id)).Nodup)
    (type : FeatureType) : (d.featureUniqueIds type).Nodup := by
  have hf : ((d.features.filter (qualifies d · type)).map (·.id)).Nodup :=
    h.sublist (List.filter_sublist.map _)
  rw [List.Nodup, List.pairwise_map] at hf
  rw [featureUniqueIds, List.Nodup, List.pairwise_map]
  exact hf.imp fun hne he => hne (featureUniqueId_inj.mp he).2

theorem disjoint_featureUniqueIds {d d' : Device} (h : d.legacyId ≠ d'.legacyId)
    (type : FeatureType) : List.Disjoint (d.featureUniqueIds type) (d'.featureUniqueIds type) := by
  intro id hid hid'
  obtain ⟨f, -, rfl⟩ := List.mem_map.mp hid
  obtain ⟨f', -, he⟩ := List.mem_map.mp hid'
  exact h (featureUniqueId_inj.mp he).1.symm

/-- **No two features get the same unique id.** -/
theorem DistinctIds.nodup_map_sourceId {root : Device} (h : root.DistinctIds)
    {platform : Platform} {type : FeatureType} (ht : platform.featureType? = some type) :
    ((platform.sources root).map platform.sourceId).Nodup := by
  rw [Platform.sources_of_featureType ht, (map_sourceId_treeSources root type).nodup_iff,
    List.nodup_flatMap]
  refine ⟨fun d hd => nodup_featureUniqueIds (h.features d hd) type, ?_⟩
  have hp := h.devices
  rw [List.Nodup, List.pairwise_map] at hp
  exact hp.imp fun hne => disjoint_featureUniqueIds hne type

/-! ### Entities for features -/

/-- The feature is to have an entity of its own: its type is known, and it is not the main control
of a light. -/
def Exposes (d : Device) (f : Feature) : Prop :=
  f.type ≠ .unknown ∧ ¬ (f.category = .primary ∧ d.type.isLight = true)

end Device

/-- The entity stands for a feature of a device, on the platform of the feature's type. -/
structure Entity.StandsFor (e : Entity) (d : Device) (f : Feature) : Prop where
  deviceId : e.deviceId = d.id
  featureId : e.featureId = some f.id
  platform : e.platform.featureType? = some f.type
  uniqueId : e.uniqueId = d.featureUniqueId f

namespace Entity.StandsFor

variable {e e' : Entity} {d : Device} {f : Feature}

theorem of_origin {platform : Platform} {extras : Extras} {parent : Option Device}
    (h : e.origin = (platform.newEntity extras ⟨d, some f, parent⟩).origin)
    (ht : platform.featureType? = some f.type) : e.StandsFor d f where
  deviceId := congrArg Origin.deviceId h
  featureId := congrArg Origin.featureId h
  platform := by
    have hp : e.platform = (platform.newEntity extras ⟨d, some f, parent⟩).platform :=
      congrArg Origin.platform h
    rw [hp, Platform.newEntity_platform, ht]
  uniqueId := congrArg (fun o => o.identity.uniqueId) h

theorem key_eq (h : e.StandsFor d f) (h' : e'.StandsFor d f) : e.key = e'.key :=
  Prod.ext (Platform.featureType?_inj h.platform h'.platform) (h.uniqueId.trans h'.uniqueId.symm)

end Entity.StandsFor

section Entities
variable {table : List Platform} {root : Device} {extras : Extras} {e : Entity}

theorem exists_feature_of_mem (he : e ∈ setUpEntities table root extras)
    (hp : e.platform.featureType?.isSome = true) :
    ∃ d ∈ root.nodes, ∃ f ∈ d.features, d.Exposes f ∧ e.StandsFor d f := by
  obtain ⟨s, hs, ho⟩ := exists_source_of_mem he
  obtain ⟨type, ht⟩ := Option.isSome_iff_exists.mp hp
  obtain ⟨d, parent, hplaced, f, hf, hq, rfl⟩ := (Platform.mem_sources_of_featureType ht).mp hs
  obtain ⟨rfl, hmain⟩ := qualifies_iff.mp hq
  refine ⟨d, hplaced.mem_nodes, f, hf, ⟨fun h => ?_, hmain⟩, .of_origin ho ht⟩
  exact e.platform.featureType?_ne_unknown (h ▸ ht)

theorem isSome_featureType?_of_mem (he : e ∈ setUpEntities table root extras) :
    e.platform.featureType?.isSome = e.featureId.isSome := by
  obtain ⟨s, hs, ho⟩ := exists_source_of_mem he
  have hef : e.featureId = s.feature.map (·.id) := congrArg Origin.featureId ho
  rw [hef, Option.isSome_map, Platform.isSome_feature_of_mem_sources hs]

theorem Device.DistinctIds.standsFor_of_ids (h : root.DistinctIds)
    (he : e ∈ setUpEntities table root extras) {d : Device} (hd : d ∈ root.nodes) {f : Feature}
    (hf : f ∈ d.features) (hid : e.deviceId = d.id) (hfid : e.featureId = some f.id) :
    d.Exposes f ∧ e.StandsFor d f := by
  have hp : e.platform.featureType?.isSome = true := by
    rw [isSome_featureType?_of_mem he, hfid]; rfl
  obtain ⟨d', hd', f', hf', hx, hs⟩ := exists_feature_of_mem he hp
  obtain rfl := h.eq_of_id_eq hd' hd (hs.deviceId.symm.trans hid)
  obtain rfl := h.feature_eq_of_id_eq hd hf' hf
    (Option.some.inj (hs.featureId.symm.trans hfid))
  exact ⟨hx, hs⟩

end Entities

theorem eq_of_nodup_map {α κ : Type} {key : α → κ} {l : List α} (h : (l.map key).Nodup)
    {i j : Fin l.length} (he : key l[i] = key l[j]) : i = j := by
  have hlen : (l.map key).length = l.length := List.length_map key
  have hget := List.nodup_iff_injective_getElem.mp h
  have hij := @hget (i.cast hlen.symm) (j.cast hlen.symm) (by simpa using he)
  have hval := congrArg Fin.val hij
  exact Fin.ext hval

theorem Platform.mem_all (platform : Platform) : platform ∈ all := by cases platform <;> decide

theorem Platform.nodup_all : Platform.all.Nodup := by decide

theorem Device.DistinctIds.exists_standsFor {root : Device} (h : root.DistinctIds)
    (extras : Extras) {d : Device} (hd : d ∈ root.nodes) {f : Feature} (hf : f ∈ d.features)
    (hx : d.Exposes f) : ∃ e ∈ setUpEntities Platform.all root extras, e.StandsFor d f := by
  obtain ⟨p, hp⟩ := Platform.exists_featureType? hx.1
  obtain ⟨parent, hplaced⟩ := Device.exists_placed hd
  have hs : (⟨d, some f, parent⟩ : Source) ∈ p.sources root :=
    (Platform.mem_sources_of_featureType hp).mpr
      ⟨d, parent, hplaced, f, hf, qualifies_iff.mpr ⟨rfl, hx.2⟩, rfl⟩
  rw [← firsts_eq_self _ (h.nodup_map_sourceId hp)] at hs
  obtain ⟨e, he, ho⟩ := exists_entity_of_mem_firsts_sources p.mem_all Platform.nodup_all hs
  exact ⟨e, he, .of_origin ho hp⟩

/-- **Every feature that is to have an entity has exactly one**, on the platform of its type; there
are no other entities on the platforms of features, and none was dropped there as a duplicate. -/
theorem setUp_features_exact (root : Device) (extras : Extras) (h : root.DistinctIds) :
    ∃ entities events, setUp root extras = .ok (entities, events) ∧
      (∀ d ∈ root.nodes, ∀ f ∈ d.features, d.Exposes f →
        ∃ i : Fin entities.length, entities[i].StandsFor d f ∧
          ∀ j : Fin entities.length, entities[j].deviceId = d.id →
            entities[j].featureId = some f.id → j = i) ∧
      (∀ e ∈ entities, e.platform.featureType?.isSome = true →
        ∃ d ∈ root.nodes, ∃ f ∈ d.features, d.Exposes f ∧ e.StandsFor d f) ∧
      (∀ platform uniqueId entityId, Event.duplicate platform uniqueId entityId ∈ events →
        platform.featureType? = none) := by
  obtain ⟨events, hok, hdup⟩ := setUpWith_eq Platform.all root extras
  refine ⟨_, events, hok, ?_, fun e he => exists_feature_of_mem he, ?_⟩
  · intro d hd f hf hx
    obtain ⟨e, he, hs⟩ := h.exists_standsFor extras hd hf hx
    obtain ⟨i, rfl⟩ := List.mem_iff_get.mp he
    refine ⟨i, hs, fun j hid hfid => ?_⟩
    have hs' := (h.standsFor_of_ids (List.get_mem _ j) hd hf hid hfid).2
    exact eq_of_nodup_map nodup_map_key_setUpEntities (hs'.key_eq hs)
  · intro platform uniqueId entityId hmem
    by_contra hp
    obtain ⟨type, ht⟩ := Option.ne_none_iff_exists'.mp hp
    have hd := mem_filterMap_duplicate?.mpr hmem
    rw [hdup] at hd
    obtain ⟨c, hc, hce⟩ := List.mem_map.mp hd
    exact notMem_repeats_of_nodup platform.mem_all Platform.nodup_all (h.nodup_map_sourceId ht)
      (Prod.mk.inj hce).1 hc

/-! ### A socket strip with a lamp -/

/-- A socket strip with a lamp on one of its sockets. -/
def hallway : Device where
  id := "HS300_80"
  name := "Hallway"
  model := "HS300"
  mac := "B0:95:75:00:00:0A"
  type := .strip
  features := [{ id := stateId, name := "State", type := .switch, category := .primary },
    { id := "rssi", name := "RSSI", type := .sensor, category := .info },
    { id := "rssi_level", name := "Signal level", type := .sensor, category := .info }]
  children := [{
    id := "HS300_81_rssi"
    name := "Lamp"
    model := "KL130"
    mac := "B0:95:75:00:00:0B"
    type := .bulb
    features := [{ id := stateId, name := "State", type := .switch, category := .primary },
      { id := "level", name := "Level", type := .number, category := .config }] }]

theorem hallway_distinctIds : hallway.DistinctIds := ⟨by decide, by decide⟩

theorem setUp_features_exact_hallway :
    ∃ entities events, setUp hallway {} = .ok (entities, events) ∧
      entities.map (fun e => (e.platform, e.deviceId, e.featureId)) =
        [(.light, "HS300_81_rssi", none), (.number, "HS300_81_rssi", some "level"),
          (.sensor, "HS300_80", some "rssi"), (.sensor, "HS300_80", some "rssi_level"),
          (.switch, "HS300_80", some "state")] ∧
      (∀ d ∈ hallway.nodes, ∀ f ∈ d.features, d.Exposes f →
        ∃ i : Fin entities.length, entities[i].StandsFor d f ∧
          ∀ j : Fin entities.length, entities[j].deviceId = d.id →
            entities[j].featureId = some f.id → j = i) ∧
      (∀ e ∈ entities, e.platform.featureType?.isSome = true →
        ∃ d ∈ hallway.nodes, ∃ f ∈ d.features, d.Exposes f ∧ e.StandsFor d f) ∧
      (∀ platform uniqueId entityId, Event.duplicate platform uniqueId entityId ∈ events →
        platform.featureType? = none) := by
  have hmade : (·.1.map fun e => (e.platform, e.deviceId, e.featureId)) <$> setUp hallway {} = .ok
      [(.light, "HS300_81_rssi", none), (.number, "HS300_81_rssi", some "level"),
        (.sensor, "HS300_80", some "rssi"), (.sensor, "HS300_80", some "rssi_level"),
        (.switch, "HS300_80", some "state")] := rfl
  obtain ⟨entities, events, hok, hexact⟩ := setUp_features_exact hallway {} hallway_distinctIds
  rw [hok] at hmade
  exact ⟨entities, events, hok, Except.ok.inj hmade, hexact⟩

end HomeEntities
