import HomeEntities.Proofs.Setup.Features
import HomeEntities.Proofs.Setup.Journal
import Mathlib.Algebra.GroupWithZero.Nat

/-! # Duplicates

What set-up returns is read off the list of all candidates, platform by platform in the order of the
table: those at whose position the platform and the unique id occur for the first time, in order. An
entity comes of its candidate (`ComesOf`) by taking an entity id and being read once; nothing else
of it changes. The others leave no trace but a line in the log (`setUp_keeps_firsts`).

The order of the candidates is described by the devices and features of the tree
(`Platform.places`). -/

namespace HomeEntities

/-! ### The order of the candidates -/

/-- The devices and features that a platform makes entities of, in order. Platforms of features go
through the children and come to the root last; lights begin with the root; climate entities are
made of children only. -/
def Platform.places (platform : Platform) (root : Device) : List (Device × Option Feature) :=
  match platform.featureType? with
  | some type =>
    (root.children ++ [root]).flatMap fun d =>
      (d.features.filter fun f =>
        f.type = type ∧ ¬ (f.category = .primary ∧ d.type.isLight = true)).map (d, some ·)
  | none =>
    if platform = light then (root.nodes.filter fun d => d.type.isLight).map (·, none)
    else (root.children.filter fun d => d.type = .thermostat).map (·, none)

/-- The device and the feature that a source comes from. -/
def Source.place (s : Source) : Device × Option Feature := (s.device, s.feature)

theorem Device.map_place_sources (d : Device) (parent : Option Device) (type : FeatureType) :
    (d.sources parent type).map Source.place =
      (d.features.filter fun f =>
        f.type = type ∧ ¬ (f.category = .primary ∧ d.type.isLight = true)).map (d, some ·) := by
  rw [Device.sources, List.map_map]
  congr 1
  refine List.filter_congr fun f _ => ?_
  rw [Bool.eq_iff_iff, qualifies_iff, decide_eq_true_iff]

/-- **The sources of a platform** are found in this order. -/
theorem Platform.map_place_sources (platform : Platform) (root : Device) :
    (platform.sources root).map Source.place = platform.places root := by
  rcases platform.featureType?_cases with ⟨type, ht⟩ | rfl | rfl
  · rw [sources_of_featureType ht, Device.treeSources, List.map_append, List.map_flatMap]
    simp only [places, ht, Device.map_place_sources, List.flatMap_append, List.flatMap_cons,
      List.flatMap_nil, List.append_nil]
  · simp only [places, featureType?, sources, if_true, Device.nodes, List.map_append,
      List.filter_cons]
    split_ifs <;> simp [Source.place]
  · simp only [places, featureType?, sources, reduceCtorEq, if_false, List.map_map]
    rfl

/-- The device and the feature that an entity reads, by their ids. -/
def Entity.place (e : Entity) : String × Option String := (e.deviceId, e.featureId)

theorem Platform.map_place_newEntity (platform : Platform) (root : Device) (extras : Extras) :
    ((platform.sources root).map (platform.newEntity extras)).map Entity.place =
      (platform.places root).map fun (d, f) => (d.id, f.map (·.id)) := by
  rw [← map_place_sources, List.map_map, List.map_map]
  rfl

/-! ### Entities and their candidates -/

/-- The entity is the candidate as it was made, with an entity id of its own and read once. -/
structure Entity.ComesOf (root : Device) (e c : Entity) : Prop where
  settled : ∃ entityId, e = (Entity.update root { c with entityId }).1
  identity : e.identity = c.identity
  name : e.name = c.name
  enabled : e.enabled = c.enabled

theorem Entity.comesOf_of_settled {root : Device} {e c : Entity} {entityId : String}
    (h : e = (Entity.update root { c with entityId }).1) : e.ComesOf root c := by
  have ho : e.origin = c.origin := by rw [h, Entity.update_origin]; rfl
  have hi : e.identity = c.identity := congrArg Origin.identity ho
  have hd : e.description = c.description := congrArg Origin.description ho
  exact ⟨⟨entityId, h⟩, hi, by unfold Entity.name; rw [hi, hd], by unfold Entity.enabled; rw [hd]⟩

theorem forall₂_comesOf_settle (root : Device) : ∀ (l : List Entity) (taken : List String),
    List.Forall₂ (Entity.ComesOf root) (settle root taken l) l
  | [], _ => .nil
  | _ :: l, _ => .cons (Entity.comesOf_of_settled rfl) (forall₂_comesOf_settle root l _)

theorem length_settle (root : Device) (l : List Entity) (taken : List String) :
    (settle root taken l).length = l.length :=
  (forall₂_comesOf_settle root l taken).length_eq

theorem length_candidatesOf (table : List Platform) (root : Device) (extras : Extras) :
    (candidatesOf table root extras).length =
      (table.map fun platform => (platform.sources root).length).sum := by
  simp only [candidatesOf, List.length_flatMap, List.length_map]

/-- **Duplicates are dropped exactly.** The candidates of all platforms are made in the order of the
platforms and, on each, of its places. Those kept are the first of their platforms and unique ids;
they take entity ids among themselves and are read once. As many duplicates are logged as there are
candidates dropped, as many entities are said to be made as there are candidates, and as many are
said to be set up as are returned. -/
theorem setUp_keeps_firsts (root : Device) (extras : Extras) :
    ∃ (created : Platform → List Entity) (entities : List Entity) (events : List Event),
      (∀ platform : Platform, platform.candidates root extras = .ok (created platform)) ∧
      (∀ platform : Platform, (created platform).map Entity.place =
        (platform.places root).map fun (d, f) => (d.id, f.map (·.id))) ∧
      setUp root extras = .ok (entities, events ++ [.setUp entities.length root.name]) ∧
      let candidates := Platform.all.flatMap created
      let kept := (firstPositions Entity.key candidates).map candidates.get
      List.Forall₂ (Entity.ComesOf root) entities kept ∧ entities = settle root [] kept ∧
      entities.length + (events.filterMap Event.duplicate?).length = candidates.length ∧
      (events.filterMap Event.created?).sum = candidates.length ∧
      events.filterMap Event.setUp? = [] := by
  obtain ⟨events, hok, hdup, hcreated, hsetUp, -⟩ := setUpWith_log Platform.all root extras
  let created := fun platform : Platform => (platform.sources root).map (platform.newEntity extras)
  have hkept : (firstPositions Entity.key (Platform.all.flatMap created)).map
      (Platform.all.flatMap created).get =
        firsts Entity.key (candidatesOf Platform.all root extras) :=
    (firsts_eq_map_get Entity.key _).symm
  refine ⟨created, _, events, fun platform => platform.candidates_eq root extras,
    fun platform => platform.map_place_newEntity root extras, hok, ?_, ?_, ?_, ?_, hsetUp⟩
  · rw [hkept]; exact forall₂_comesOf_settle root _ []
  · rw [hkept]; rfl
  · rw [hdup, List.length_map, setUpEntities, length_settle]
    exact length_firsts_add_length_repeats Entity.key _
  · rw [hcreated]
    exact (length_candidatesOf Platform.all root extras).symm

end HomeEntities
