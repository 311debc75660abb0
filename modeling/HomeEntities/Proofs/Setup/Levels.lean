import HomeEntities.Plan
import HomeEntities.Proofs.Setup.Loop

/-! # The two levels of a tree in set-up

A tree can be of any depth, but only the root and its children are looked at. `Device.pruned` cuts
off all below: the same devices are found then (`map_leaf_find?_pruned`), entities read the same
(`Entity.update_pruned`), and the platforms make the same candidates of it
(`Platform.candidates_pruned`), so that nothing of set-up changes (`setUp_pruned`). In each of
these places a device goes in, and what comes out depends on it only up to its children
(`Device.leaf`). -/

namespace HomeEntities

/-! ### Cutting off -/

namespace Device

/-- A device without its children. -/
def leaf (d : Device) : Device := { d with children := [] }

/-- A tree without what lies below its children. -/
def pruned (root : Device) : Device := { root with children := root.children.map leaf }

theorem children_pruned (root : Device) : root.pruned.children = root.children.map leaf := rfl

theorem feature?_leaf (d : Device) (id : String) : d.leaf.feature? id = d.feature? id := rfl

theorem requiredFeature_leaf (d : Device) (id : String) :
    d.leaf.requiredFeature id = d.requiredFeature id := rfl

theorem map_leaf_children_pruned (root : Device) :
    root.pruned.children.map leaf = root.children.map leaf := by
  rw [children_pruned, List.map_map]
  rfl

/-- **A look-up** finds the same device, whatever ids there are below the children. -/
theorem map_leaf_find?_pruned (root : Device) (id : String) :
    (root.pruned.find? id).map leaf = (root.find? id).map leaf := by
  have hnodes : root.pruned.nodes.map leaf = root.nodes.map leaf :=
    congrArg (root.leaf :: ·) root.map_leaf_children_pruned
  have hfind : ∀ tree : Device,
      (tree.find? id).map leaf = (tree.nodes.map leaf).find? (·.id == id) := by
    intro tree
    rw [find?_eq_find?_nodes, List.find?_map]
    rfl
  rw [hfind, hfind, hnodes]

end Device

/-! ### Readings -/

theorem State.read_leaf (device : Device) (feature : Option Feature) (described : Option String)
    (s : State) : s.read device.leaf feature described = s.read device feature described := by
  cases s <;> rfl

namespace Entity

theorem read_eq_of_leaf_eq {tree tree' : Device} {e : Entity}
    (h : (tree.find? e.deviceId).map Device.leaf = (tree'.find? e.deviceId).map Device.leaf) :
    e.read tree = e.read tree' := by
  unfold read source
  cases hd : tree.find? e.deviceId with
  | none =>
    rw [hd, eq_comm, Option.map_none, Option.map_eq_none_iff] at h
    rw [h]
  | some d =>
    rw [hd, eq_comm, Option.map_some, Option.map_eq_some_iff] at h
    obtain ⟨d', hd', hleaf⟩ := h
    have hread : ∀ f, e.state.read d f (e.description.bind (·.unit)) =
        e.state.read d' f (e.description.bind (·.unit)) := by
      intro f
      rw [← State.read_leaf, ← State.read_leaf d', hleaf]
    have hrequired : ∀ id, d.requiredFeature id = d'.requiredFeature id := by
      intro id
      rw [← Device.requiredFeature_leaf, ← Device.requiredFeature_leaf d', hleaf]
    rw [hd']
    cases e.featureId with
    | none => exact hread none
    | some id =>
      simp only [hrequired]
      cases d'.requiredFeature id with
      | error => rfl
      | ok f => exact hread (some f)

/-- **An update** reads nothing below the children. -/
theorem update_pruned (root : Device) (e : Entity) : e.update root.pruned = e.update root := by
  rw [update_eq, update_eq, read_eq_of_leaf_eq (root.map_leaf_find?_pruned e.deviceId)]

end Entity

/-! ### Bindings -/

namespace Request

/-- The request with its devices cut off from their children. -/
def leaf (r : Request) : Request :=
  { r with device := r.device.leaf, parent := r.parent.map Device.leaf }

variable (r : Request)

theorem parent_leaf : r.leaf.parent = r.parent.map Device.leaf := rfl

theorem host?_leaf : r.leaf.host? = r.host?.map Device.leaf := by
  unfold host?
  rw [parent_leaf, Option.filter_map]
  rfl

theorem registryDevice_leaf : r.leaf.registryDevice = r.registryDevice.leaf := by
  unfold registryDevice
  rw [host?_leaf]
  cases r.host? with
  | none => rfl
  | some host => exact (apply_ite Device.leaf (r.isMainControl = true) host r.device).symm

theorem deviceName_leaf : r.leaf.deviceName = r.deviceName := by
  unfold deviceName
  rw [host?_leaf]
  cases r.host? <;> rfl

theorem name_leaf : r.leaf.name = r.name := by
  unfold name
  rw [host?_leaf]
  cases r.host? <;> rfl

theorem link_leaf : r.leaf.link = r.link := by
  unfold link
  rw [registryDevice_leaf, parent_leaf]
  cases r.parent <;> rfl

theorem deviceInfo_leaf : r.leaf.deviceInfo = r.deviceInfo := by
  unfold deviceInfo
  rw [registryDevice_leaf, deviceName_leaf, link_leaf]
  rfl

/-- **An identity** does not depend on the children of the devices. -/
theorem resolve_leaf : r.leaf.resolve Device.legacyId = r.resolve Device.legacyId := by
  unfold resolve
  rw [deviceInfo_leaf, name_leaf, show r.leaf.uniqueId Device.legacyId =
    r.uniqueId Device.legacyId from rfl]
  rfl

end Request

namespace Binding

/-- The binding with its devices cut off from their children. -/
def leaf (b : Binding) : Binding :=
  { b with device := b.device.leaf, parent := b.parent.map Device.leaf }

theorem create_leaf (b : Binding) :
    Entity.create Device.legacyId b.leaf = Entity.create Device.legacyId b := by
  unfold Entity.create
  rw [show b.leaf.request = b.request.leaf from rfl, Request.resolve_leaf]
  rfl

end Binding

/-! ### Candidates -/

/-- The source with its devices cut off from their children. -/
def Source.leaf (s : Source) : Source :=
  { s with device := s.device.leaf, parent := s.parent.map Device.leaf }

theorem Device.map_leaf_sources (d : Device) (parent : Option Device) (type : FeatureType) :
    (d.sources parent type).map Source.leaf = d.leaf.sources (parent.map leaf) type := by
  unfold sources
  rw [List.map_map]
  rfl

theorem Device.map_leaf_treeSources_pruned (root : Device) (type : FeatureType) :
    (root.pruned.treeSources type).map Source.leaf = (root.treeSources type).map Source.leaf := by
  simp only [treeSources, List.map_append, List.map_flatMap, map_leaf_sources]
  rw [children_pruned, List.flatMap_map]
  rfl

namespace Platform

variable (platform : Platform) (root : Device) (extras : Extras)

theorem map_leaf_sources_pruned :
    (platform.sources root.pruned).map Source.leaf = (platform.sources root).map Source.leaf := by
  have hbelow : ∀ p : Device → Bool, (∀ d : Device, p d.leaf = p d) →
      ((root.pruned.children.filter p).map fun c =>
        ({ device := c, parent := some root.pruned } : Source)).map Source.leaf =
      ((root.children.filter p).map fun c =>
        ({ device := c, parent := some root } : Source)).map Source.leaf := by
    intro p hp
    have hfilter : (root.children.map Device.leaf).filter p =
        (root.children.filter p).map Device.leaf := by
      rw [List.filter_map]
      exact congrArg (List.map Device.leaf) (List.filter_congr fun d _ => hp d)
    rw [root.children_pruned, hfilter, List.map_map, List.map_map, List.map_map]
    rfl
  cases platform with
  | climate => exact hbelow _ fun _ => rfl
  | light =>
    simp only [sources, List.map_append]
    rw [hbelow _ fun _ => rfl, show root.pruned.type = root.type from rfl]
    split <;> rfl
  | _ => exact root.map_leaf_treeSources_pruned _

theorem entity_leaf (s : Source) : platform.entity extras s.leaf = platform.entity extras s :=
  (platform.binding extras s).create_leaf

/-- **No platform makes anything** of what lies below the children. -/
theorem candidates_pruned : platform.candidates root.pruned extras =
    platform.candidates root extras := by
  have hmap : ∀ l : List Source, (l.map Source.leaf).mapM (platform.entity extras) =
      l.mapM (platform.entity extras) := by
    intro l
    rw [List.mapM_map]
    exact congrArg (l.mapM ·) (funext (platform.entity_leaf extras))
  unfold candidates
  rw [← hmap, map_leaf_sources_pruned, hmap]

theorem events_pruned : platform.events root.pruned = platform.events root := by
  have hflat : ∀ l : List Source, (l.map Source.leaf).flatMap
      (fun s => EntityCategory.events s.feature) =
        l.flatMap fun s => EntityCategory.events s.feature := by
    intro l
    rw [List.flatMap_map]
    rfl
  unfold events
  rw [← hflat, map_leaf_sources_pruned, hflat, root.children_pruned, List.isEmpty_map,
    List.length_map]

end Platform

/-! ### The loop -/

theorem Progress.platform_pruned (root : Device) (extras : Extras) :
    Progress.platform root.pruned extras = Progress.platform root extras := by
  have hconsider : consider root.pruned = consider root := by
    funext platform p e
    simp only [consider, Entity.update_pruned]
  funext p platform
  unfold Progress.platform
  rw [Platform.candidates_pruned, Platform.events_pruned, hconsider]

theorem setUp_pruned (root : Device) (extras : Extras) :
    setUp root.pruned extras = setUp root extras := by
  unfold setUp setUpWith
  rw [Progress.platform_pruned]
  rfl

end HomeEntities
