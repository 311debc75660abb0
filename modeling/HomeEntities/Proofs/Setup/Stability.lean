import HomeEntities.Proofs.Setup.Loop
import Mathlib.Data.List.Forall2

/-! # Stability of unique ids

The keys that set-up registers, the pairs of a platform and a unique id, depend on few attributes
of a tree and not on the order of its children and features. Which candidate of a key is kept does
depend on that order; that some candidate is kept does not (`setUpWith_keys`), and the candidates'
keys are read off the attributes.

* `TreeResembles`: two trees agree on these attributes, up to order.
* `Grows`: a tree gets one more child, or one of its devices one more feature.
* `TreeWithin`: what both have in common, the attributes of one tree are found in the other;
  `exists_source_of_treeWithin` carries the source of a key over.
* `setUp_keys_stable`: the keys stay under the first, and none is lost under the second. -/

namespace HomeEntities

/-- What unique ids take of a feature. -/
def Feature.traits (f : Feature) : String × FeatureType × FeatureCategory :=
  (f.id, f.type, f.category)

namespace Device

/-! ### Relations between trees -/

/-- The devices agree on what unique ids take of them, up to the order of their features. -/
structure Resembles (d d' : Device) : Prop where
  id : d.id = d'.id
  mac : d.mac = d'.mac
  type : d.type = d'.type
  family : d.family = d'.family
  features : (d.features.map Feature.traits).Perm (d'.features.map Feature.traits)

/-- The trees agree on what unique ids take of them, up to the order of children and features. -/
structure TreeResembles (root root' : Device) : Prop where
  top : root.Resembles root'
  children : ∃ cs, List.Forall₂ Resembles root.children cs ∧ cs.Perm root'.children

/-- The tree gets a child, or a feature on its root, or a feature on a child, at any place. -/
inductive Grows (root : Device) : Device → Prop
  | child {before after : List Device} (new : Device) (h : root.children = before ++ after) :
      Grows root { root with children := before ++ new :: after }
  | feature {before after : List Feature} (new : Feature) (h : root.features = before ++ after) :
      Grows root { root with features := before ++ new :: after }
  | childFeature {before after : List Device} {c : Device} {fs gs : List Feature} (new : Feature)
      (h : root.children = before ++ c :: after) (hf : c.features = fs ++ gs) :
      Grows root
        { root with children := before ++ { c with features := fs ++ new :: gs } :: after }

/-- What unique ids take of the first device is found on the second. -/
structure Within (d d' : Device) : Prop where
  id : d.id = d'.id
  mac : d.mac = d'.mac
  type : d.type = d'.type
  family : d.family = d'.family
  features : d.features.map Feature.traits ⊆ d'.features.map Feature.traits

/-- What unique ids take of the first tree is found in the second. -/
structure TreeWithin (root root' : Device) : Prop where
  top : root.Within root'
  children : ∀ c ∈ root.children, ∃ c' ∈ root'.children, c.Within c'

theorem Within.refl (d : Device) : d.Within d := ⟨rfl, rfl, rfl, rfl, fun _ h => h⟩

theorem Resembles.within {d d' : Device} (h : d.Resembles d') : d.Within d' :=
  ⟨h.id, h.mac, h.type, h.family, h.features.subset⟩

theorem Resembles.within_symm {d d' : Device} (h : d.Resembles d') : d'.Within d :=
  ⟨h.id.symm, h.mac.symm, h.type.symm, h.family.symm, h.features.symm.subset⟩

theorem exists_of_forall₂ {R : Device → Device → Prop} {l l' : List Device}
    (h : List.Forall₂ R l l') : ∀ c ∈ l, ∃ c' ∈ l', R c c' := by
  induction h with
  | nil => simp
  | cons hr _ ih =>
    intro c hc
    rcases List.mem_cons.mp hc with rfl | hc
    · exact ⟨_, List.mem_cons_self, hr⟩
    · obtain ⟨c', hc', hr'⟩ := ih c hc
      exact ⟨c', List.mem_cons_of_mem _ hc', hr'⟩

theorem TreeResembles.within {root root' : Device} (h : root.TreeResembles root') :
    root.TreeWithin root' := by
  obtain ⟨cs, hcs, hperm⟩ := h.children
  refine ⟨h.top.within, fun c hc => ?_⟩
  obtain ⟨c', hc', hr⟩ := exists_of_forall₂ hcs c hc
  exact ⟨c', hperm.mem_iff.mp hc', hr.within⟩

theorem TreeResembles.within_symm {root root' : Device} (h : root.TreeResembles root') :
    root'.TreeWithin root := by
  obtain ⟨cs, hcs, hperm⟩ := h.children
  refine ⟨h.top.within_symm, fun c hc => ?_⟩
  obtain ⟨c', hc', hr⟩ := exists_of_forall₂ hcs.flip c (hperm.mem_iff.mpr hc)
  exact ⟨c', hc', Resembles.within_symm hr⟩

theorem subset_append_cons {α : Type} (before after : List α) (new : α) :
    before ++ after ⊆ before ++ new :: after := by
  intro a ha
  rcases List.mem_append.mp ha with ha | ha
  · exact List.mem_append_left _ ha
  · exact List.mem_append_right _ (List.mem_cons_of_mem new ha)

theorem within_insert_feature {d : Device} {fs gs : List Feature} (new : Feature)
    (h : d.features = fs ++ gs) : d.Within { d with features := fs ++ new :: gs } :=
  ⟨rfl, rfl, rfl, rfl, List.map_subset _ (h ▸ subset_append_cons fs gs new)⟩

theorem Grows.within {root root' : Device} (h : root.Grows root') : root.TreeWithin root' := by
  cases h with
  | child new h =>
    exact ⟨⟨rfl, rfl, rfl, rfl, fun _ h => h⟩,
      fun c hc => ⟨c, subset_append_cons _ _ new (h ▸ hc), .refl c⟩⟩
  | feature new h => exact ⟨within_insert_feature new h, fun c hc => ⟨c, hc, .refl c⟩⟩
  | @childFeature before after c fs gs new h hf =>
    refine ⟨⟨rfl, rfl, rfl, rfl, fun _ h => h⟩, fun d hd => ?_⟩
    rw [h] at hd
    rcases List.mem_append.mp hd with hd | hd
    · exact ⟨d, List.mem_append_left _ hd, .refl d⟩
    · rcases List.mem_cons.mp hd with rfl | hd
      · exact ⟨_, List.mem_append_right _ List.mem_cons_self, within_insert_feature new hf⟩
      · exact ⟨d, List.mem_append_right _ (List.mem_cons_of_mem _ hd), .refl d⟩

/-! ### Unique ids within a tree -/

section Within
variable {d d' : Device} (h : d.Within d')
include h

theorem Within.legacyId_eq : d'.legacyId = d.legacyId := by
  unfold legacyId; rw [h.id]

theorem Within.lightUniqueId_eq : d'.lightUniqueId = d.lightUniqueId := by
  simp only [lightUniqueId, isLegacy, h.legacyId_eq, h.type, h.family, h.mac]

theorem Within.climateUniqueId_eq : d'.climateUniqueId = d.climateUniqueId := by
  simp only [climateUniqueId, h.id]

theorem Within.exists_feature {f : Feature} (hf : f ∈ d.features) {type : FeatureType}
    (hq : qualifies d f type = true) :
    ∃ f' ∈ d'.features, qualifies d' f' type = true ∧
      d'.featureUniqueId f' = d.featureUniqueId f := by
  obtain ⟨f', hf', ht⟩ := List.mem_map.mp (h.features (List.mem_map_of_mem hf))
  simp only [Feature.traits, Prod.mk.injEq] at ht
  obtain ⟨hid, htype, hcategory⟩ := ht
  refine ⟨f', hf', ?_, ?_⟩
  · rw [← hq]; simp only [qualifies, htype, hcategory, h.type]
  · simp only [featureUniqueId, hid, h.legacyId_eq]

end Within

theorem TreeWithin.exists_placed {root root' d : Device} {parent : Option Device}
    (h : root.TreeWithin root') (hp : root.Placed d parent) :
    ∃ d' parent', root'.Placed d' parent' ∧ d.Within d' := by
  cases hp with
  | root => exact ⟨_, _, .root, h.top⟩
  | child hc =>
    obtain ⟨c', hc', hw⟩ := h.children d hc
    exact ⟨c', _, .child hc', hw⟩

end Device

/-- **The source of a unique id is found again in a tree that has the attributes of the first.** -/
theorem Platform.exists_source_of_treeWithin {platform : Platform} {root root' : Device}
    (h : root.TreeWithin root') {s : Source} (hs : s ∈ platform.sources root) :
    ∃ s' ∈ platform.sources root', platform.sourceId s' = platform.sourceId s := by
  rcases platform.featureType?_cases with ⟨type, ht⟩ | rfl | rfl
  · obtain ⟨d, parent, hp, f, hf, hq, rfl⟩ := (mem_sources_of_featureType ht).mp hs
    obtain ⟨d', parent', hp', hw⟩ := h.exists_placed hp
    obtain ⟨f', hf', hq', hid⟩ := hw.exists_feature hf hq
    exact ⟨_, (mem_sources_of_featureType ht).mpr ⟨d', parent', hp', f', hf', hq', rfl⟩, hid⟩
  · obtain ⟨d, parent, hp, hl, rfl⟩ := mem_sources_light.mp hs
    obtain ⟨d', parent', hp', hw⟩ := h.exists_placed hp
    exact ⟨_, mem_sources_light.mpr ⟨d', parent', hp', hw.type ▸ hl, rfl⟩, hw.lightUniqueId_eq⟩
  · obtain ⟨c, hc, ht, rfl⟩ := mem_sources_climate.mp hs
    obtain ⟨c', hc', hw⟩ := h.children c hc
    exact ⟨_, mem_sources_climate.mpr ⟨c', hc', hw.type ▸ ht, rfl⟩, hw.climateUniqueId_eq⟩

/-! ### Keys -/

theorem mem_map_key_candidatesOf {table : List Platform} {root : Device} {extras : Extras}
    {platform : Platform} {id : String} :
    (platform, id) ∈ (candidatesOf table root extras).map Entity.key ↔
      platform ∈ table ∧ ∃ s ∈ platform.sources root, platform.sourceId s = id := by
  simp only [candidatesOf, List.mem_map, List.mem_flatMap]
  constructor
  · rintro ⟨_, ⟨p, hp, s, hs, rfl⟩, hk⟩
    simp only [Entity.key, Platform.newEntity_platform, Platform.newEntity_uniqueId,
      Prod.mk.injEq] at hk
    obtain ⟨rfl, rfl⟩ := hk
    exact ⟨hp, s, hs, rfl⟩
  · rintro ⟨hp, s, hs, rfl⟩
    refine ⟨_, ⟨platform, hp, s, hs, rfl⟩, ?_⟩
    simp only [Entity.key, Platform.newEntity_platform, Platform.newEntity_uniqueId]

/-- **The keys that set-up registers** are those of all candidates. -/
theorem setUpWith_keys (table : List Platform) (root : Device) (extras : Extras) :
    ∃ entities events, setUpWith table root extras = .ok (entities, events) ∧
      ∀ k, k ∈ entities.map Entity.key ↔ k ∈ (candidatesOf table root extras).map Entity.key := by
  obtain ⟨events, h, -⟩ := setUpWith_eq table root extras
  refine ⟨_, events, h, fun k => ?_⟩
  rw [setUpEntities, settle_map_key, mem_map_firsts]

theorem keys_subset_of_treeWithin {root root' : Device} (h : root.TreeWithin root')
    (table : List Platform) (extras extras' : Extras) :
    (candidatesOf table root extras).map Entity.key ⊆
      (candidatesOf table root' extras').map Entity.key := by
  rintro ⟨platform, id⟩ hk
  obtain ⟨hp, s, hs, rfl⟩ := mem_map_key_candidatesOf.mp hk
  obtain ⟨s', hs', hid⟩ := Platform.exists_source_of_treeWithin h hs
  exact mem_map_key_candidatesOf.mpr ⟨hp, s', hs', hid⟩

/-- **Unique ids are stable.** Trees that agree on ids, hardware addresses, types and families of
their devices and on ids, types and categories of their features get the same keys, in whatever
order the children and the features stand and whatever the extras are. A tree that gets a child or
a feature loses no key. -/
theorem setUp_keys_stable :
    (∀ (root root' : Device) (extras extras' : Extras), root.TreeResembles root' →
      ∃ entities events entities' events',
        setUp root extras = .ok (entities, events) ∧
        setUp root' extras' = .ok (entities', events') ∧
        ∀ key, key ∈ entities.map Entity.key ↔ key ∈ entities'.map Entity.key) ∧
    (∀ (root root' : Device) (extras extras' : Extras), root.Grows root' →
      ∃ entities events entities' events',
        setUp root extras = .ok (entities, events) ∧
        setUp root' extras' = .ok (entities', events') ∧
        ∀ key, key ∈ entities.map Entity.key → key ∈ entities'.map Entity.key) := by
  constructor
  · intro root root' extras extras' h
    obtain ⟨entities, events, hok, hkeys⟩ := setUpWith_keys Platform.all root extras
    obtain ⟨entities', events', hok', hkeys'⟩ := setUpWith_keys Platform.all root' extras'
    refine ⟨entities, events, entities', events', hok, hok', fun key => ?_⟩
    rw [hkeys, hkeys']
    exact ⟨fun hk => keys_subset_of_treeWithin h.within _ _ _ hk,
      fun hk => keys_subset_of_treeWithin h.within_symm _ _ _ hk⟩
  · intro root root' extras extras' h
    obtain ⟨entities, events, hok, hkeys⟩ := setUpWith_keys Platform.all root extras
    obtain ⟨entities', events', hok', hkeys'⟩ := setUpWith_keys Platform.all root' extras'
    refine ⟨entities, events, entities', events', hok, hok', fun key hk => ?_⟩
    rw [hkeys] at hk
    rw [hkeys']
    exact keys_subset_of_treeWithin h.within _ _ _ hk

/-! ### A tree of two bulbs -/

/-- A bulb; all of them have one hardware address. -/
def porchBulb (id name : String) (features : List Feature) : Device where
  id := id
  name := name
  model := "KL130"
  mac := "50:C7:BF:00:00:05"
  type := .bulb
  features := features

/-- The switch of a bulb. -/
def porchState (name : String) (value : Json) : Feature :=
  { id := stateId, name := name, type := .switch, category := .primary, value := value }

/-- The signal strength of a bulb. -/
def porchSignal (unit : Option String) : Feature :=
  { id := "rssi", name := "RSSI", type := .sensor, category := .info, unit := unit }

/-- A wall switch with bulbs below it. -/
def porch (name : String) (bulbs : List Device) : Device where
  id := "6C5AB0_8006"
  name := name
  model := "KS240"
  mac := "6C:5A:B0:00:00:01"
  type := .wallSwitch
  children := bulbs

/-- Two bulbs, one of them with its signal strength. -/
def porchBefore : Device :=
  porch "Porch" [porchBulb "8006_01" "Left" [porchState "State" (.bool true), porchSignal none],
    porchBulb "8006_02" "Right" [porchState "State" .null]]

/-- The same two bulbs in another order, renamed and with their features turned round. -/
def porchAfter : Device :=
  porch "Door" [porchBulb "8006_02" "Kettle" [porchState "On" (.int 3)],
    porchBulb "8006_01" "Kettle" [porchSignal (some "dBm"), porchState "On" .null]]

/-- One bulb. -/
def porchSmall : Device := porch "Porch" [porchBulb "8006_01" "Left" [porchState "State" .null]]

/-- The bulb has got a feature in front of its switch. -/
def porchGrown : Device :=
  porch "Porch" [porchBulb "8006_01" "Left" [porchSignal none, porchState "State" .null]]

theorem porch_resembles : porchBefore.TreeResembles porchAfter where
  top := ⟨rfl, rfl, rfl, rfl, .refl _⟩
  children :=
    ⟨[porchBulb "8006_01" "Kettle" [porchSignal (some "dBm"), porchState "On" .null],
        porchBulb "8006_02" "Kettle" [porchState "On" (.int 3)]],
      .cons ⟨rfl, rfl, rfl, rfl, .swap _ _ _⟩ (.cons ⟨rfl, rfl, rfl, rfl, .refl _⟩ .nil),
      .swap _ _ _⟩

theorem porch_grows : porchSmall.Grows porchGrown :=
  @Device.Grows.childFeature _ [] [] (porchBulb "8006_01" "Left" [porchState "State" .null]) []
    [porchState "State" .null] (porchSignal none) rfl rfl

theorem setUp_keys_stable_porch :
    (∃ entities events entities' events',
      setUp porchBefore {} = .ok (entities, events) ∧
      setUp porchAfter { debugEnabled := some true } = .ok (entities', events') ∧
      entities.map Entity.key = [(.light, "50C7BF000005"), (.sensor, "01_rssi")] ∧
      ∀ key, key ∈ entities.map Entity.key ↔ key ∈ entities'.map Entity.key) ∧
    (∃ entities events entities' events',
      setUp porchSmall {} = .ok (entities, events) ∧
      setUp porchGrown {} = .ok (entities', events') ∧
      entities.map Entity.key = [(.light, "50C7BF000005")] ∧
      entities'.map Entity.key = [(.light, "50C7BF000005"), (.sensor, "01_rssi")] ∧
      ∀ key, key ∈ entities.map Entity.key → key ∈ entities'.map Entity.key) := by
  have hbefore : (·.1.map Entity.key) <$> setUp porchBefore {} =
      .ok [(.light, "50C7BF000005"), (.sensor, "01_rssi")] := rfl
  have hsmall : (·.1.map Entity.key) <$> setUp porchSmall {} =
      .ok [(.light, "50C7BF000005")] := rfl
  have hgrown : (·.1.map Entity.key) <$> setUp porchGrown {} =
      .ok [(.light, "50C7BF000005"), (.sensor, "01_rssi")] := rfl
  obtain ⟨hresembles, hgrows⟩ := setUp_keys_stable
  constructor
  · obtain ⟨entities, events, entities', events', hok, hok', hkeys⟩ :=
      hresembles _ _ {} { debugEnabled := some true } porch_resembles
    rw [hok] at hbefore
    exact ⟨entities, events, entities', events', hok, hok', Except.ok.inj hbefore, hkeys⟩
  · obtain ⟨entities, events, entities', events', hok, hok', hkeys⟩ := hgrows _ _ {} {} porch_grows
    rw [hok] at hsmall
    rw [hok'] at hgrown
    exact ⟨entities, events, entities', events', hok, hok', Except.ok.inj hsmall,
      Except.ok.inj hgrown, hkeys⟩

end HomeEntities
