import HomeEntities.Plan
import HomeEntities.Proofs.Device.Presentation
import HomeEntities.Proofs.Registry.HardwareAddress
import HomeEntities.Proofs.Session.EntityIds
import HomeEntities.Proofs.Session.OwnSource
import HomeEntities.Proofs.Text.Lines

/-! # The lines of a plan

A plan has an entry for every entity, which begins with the entity's id (`Entity.planEntry`). The id
is a slug and the name of the device is quoted, so neither breaks the line; but unique ids, hardware
addresses and ids of parents are printed as they are. The line ends in them (`Entity.strayEnds`)
come on top of those behind the entries (`lineEnds_renderPlan`), hence a plan has a line for each
entity exactly if there are none (`lists_renderPlan_iff`). So it is if the ids and addresses in the
tree have none, whatever the names are (`isUnbroken_of_mem`). -/

namespace HomeEntities

/-! ### Entries -/

namespace Entity

/-- The line of an entity, up to its end. -/
def planEntry (e : Entity) : String :=
  e.entityId ++ " unique_id=" ++ e.uniqueId
    ++ " device=" ++ Text.quoted e.identity.deviceInfo.name
    ++ " " ++ e.identity.deviceInfo.link.planned
    ++ " category=" ++ (e.identity.category.map EntityCategory.name).getD "-"
    ++ " enabled=" ++ (if e.enabled then "true" else "false")

theorem planLine_eq (e : Entity) : e.planLine = e.planEntry ++ "\n" := rfl

/-- What is printed as it is has no line end. -/
structure IsUnbroken (e : Entity) : Prop where
  uniqueId : '\n' ∉ e.uniqueId.toList
  link : '\n' ∉ e.identity.deviceInfo.link.planned.toList

/-- The number of line ends in what is printed as it is. -/
def strayEnds (e : Entity) : Nat :=
  Text.lineEnds e.uniqueId + Text.lineEnds e.identity.deviceInfo.link.planned

theorem strayEnds_eq_zero {e : Entity} : e.strayEnds = 0 ↔ e.IsUnbroken := by
  rw [strayEnds, Nat.add_eq_zero_iff, Text.lineEnds_eq_zero, Text.lineEnds_eq_zero]
  exact ⟨fun h => ⟨h.1, h.2⟩, fun h => ⟨h.uniqueId, h.link⟩⟩

/-- **An entry has the line ends of what is printed as it is**; all else is on one line. -/
theorem lineEnds_planEntry {e : Entity} (h : '\n' ∉ e.entityId.toList) :
    Text.lineEnds e.planEntry = e.strayEnds := by
  have hid : Text.lineEnds e.entityId = 0 := Text.lineEnds_eq_zero.mpr h
  have hname : Text.lineEnds (Text.quoted e.identity.deviceInfo.name) = 0 :=
    Text.lineEnds_eq_zero.mpr (Text.newline_notMem_quoted _)
  have hcategory :
      Text.lineEnds ((e.identity.category.map EntityCategory.name).getD "-") = 0 := by
    rcases e.identity.category with _ | (_ | _) <;> rfl
  have henabled : Text.lineEnds (if e.enabled then "true" else "false") = 0 := by
    split <;> rfl
  have hlabels : Text.lineEnds " unique_id=" = 0 ∧ Text.lineEnds " device=" = 0 ∧
      Text.lineEnds " " = 0 ∧ Text.lineEnds " category=" = 0 ∧ Text.lineEnds " enabled=" = 0 := by
    decide
  obtain ⟨hunique, hdevice, hblank, hlabel, hflag⟩ := hlabels
  simp only [planEntry, Text.lineEnds_append, hid, hname, hcategory, henabled, hunique, hdevice,
    hblank, hlabel, hflag, strayEnds]
  omega

end Entity

/-! ### Plans -/

/-- The text begins with the id of the entity. -/
def Entity.Opens (e : Entity) (text : String) : Prop :=
  ∃ rest, text = e.entityId ++ " unique_id=" ++ rest

theorem Entity.opens_planEntry (e : Entity) : e.Opens e.planEntry := by
  simp only [Opens, planEntry, String.append_assoc]
  exact ⟨_, rfl⟩

/-- The text has a line for each of the entities in turn, which begins with the entity's id. -/
def Lists (text : String) (entities : List Entity) : Prop :=
  ∃ lines, Text.HasLines text lines ∧ List.Forall₂ Entity.Opens entities lines

theorem forall₂_opens_planEntry (entities : List Entity) :
    List.Forall₂ Entity.Opens entities (entities.map Entity.planEntry) :=
  List.forall₂_map_right_iff.mpr (List.forall₂_same.mpr fun e _ => e.opens_planEntry)

theorem renderPlan_eq (entities : List Entity) :
    renderPlan entities = String.join ((entities.map Entity.planEntry).map (· ++ "\n")) := by
  rw [List.map_map, renderPlan]
  exact congrArg String.join (List.map_congr_left fun e _ => e.planLine_eq)

section Entities
variable {entities : List Entity} (h : ∀ e ∈ entities, '\n' ∉ e.entityId.toList)
include h

theorem lineEnds_renderPlan : Text.lineEnds (renderPlan entities) =
    entities.length + (entities.map Entity.strayEnds).sum := by
  have hentries : entities.map (Text.lineEnds ∘ Entity.planEntry) =
      entities.map Entity.strayEnds :=
    List.map_congr_left fun e he => by
      rw [Function.comp_apply, Entity.lineEnds_planEntry (h e he)]
  rw [renderPlan_eq, Text.lineEnds_join, List.length_map, List.map_map, hentries]

/-- **When a plan has a line for each entity.** -/
theorem lists_renderPlan_iff :
    Lists (renderPlan entities) entities ↔ ∀ e ∈ entities, e.IsUnbroken := by
  have hentry : ∀ e ∈ entities, ('\n' ∉ e.planEntry.toList ↔ e.IsUnbroken) := fun e he => by
    rw [← Text.lineEnds_eq_zero, Entity.lineEnds_planEntry (h e he), Entity.strayEnds_eq_zero]
  constructor
  · rintro ⟨lines, hlines, hbegin⟩ e he
    have hlength : lines.length = (entities.map Entity.planEntry).length := by
      rw [List.length_map, hbegin.length_eq]
    rw [renderPlan_eq] at hlines
    exact (hentry e he).mp
      (Text.exists_hasLines_iff.mp ⟨lines, hlines, hlength⟩ _ (List.mem_map_of_mem he))
  · intro hunbroken
    refine ⟨_, ⟨renderPlan_eq entities, fun line hline => ?_⟩, forall₂_opens_planEntry entities⟩
    obtain ⟨e, he, rfl⟩ := List.mem_map.mp hline
    exact (hentry e he).mpr (hunbroken e he)

end Entities

/-! ### The ids of entities -/

theorem Platform.newline_notMem_name (platform : Platform) : '\n' ∉ platform.name.toList := by
  cases platform <;> decide

theorem Entity.newline_notMem_baseId (e : Entity) : '\n' ∉ e.baseId.toList := by
  simp only [Entity.baseId, entityIdFor, Text.newline_notMem_append]
  exact ⟨⟨Platform.newline_notMem_name e.platform, by decide⟩, Text.newline_notMem_slugify _⟩

theorem newline_notMem_entityId {table : List Platform} {root : Device} {extras : Extras}
    {e : Entity} (he : e ∈ setUpEntities table root extras) : '\n' ∉ e.entityId.toList := by
  rcases entityId_of_mem he with h | ⟨n, -, h⟩
  · rw [h]
    exact e.newline_notMem_baseId
  · rw [h]
    simp only [numbered, Text.newline_notMem_append]
    exact ⟨⟨e.newline_notMem_baseId, by decide⟩, Text.newline_notMem_toString n⟩

/-! ### Trees without line ends in ids and addresses -/

theorem newline_notMem_normalizeMac {mac : String} (h : '\n' ∉ mac.toList) :
    '\n' ∉ (normalizeMac mac).toList := by
  intro hmem
  obtain ⟨c, hc, -, hcapital⟩ := mem_normalizeMac.mp hmem
  exact h (Text.eq_of_mem_uppercase (by decide +kernel) hcapital ▸ hc)

/-- Neither the ids of a device and its features nor its hardware address have a line end. -/
structure Device.IsUnbroken (d : Device) : Prop where
  id : '\n' ∉ d.id.toList
  mac : '\n' ∉ d.mac.toList
  featureId : ∀ f ∈ d.features, '\n' ∉ f.id.toList

namespace Device.IsUnbroken

variable {d : Device} (h : d.IsUnbroken)
include h

theorem newline_notMem_legacyId : '\n' ∉ d.legacyId.toList :=
  fun hmem => h.id (mem_of_mem_legacyId hmem)

theorem newline_notMem_featureUniqueId {f : Feature} (hf : f ∈ d.features) :
    '\n' ∉ (d.featureUniqueId f).toList := by
  unfold featureUniqueId
  split_ifs
  · exact h.newline_notMem_legacyId
  · simp only [Text.newline_notMem_append]
    exact ⟨⟨h.newline_notMem_legacyId, by decide⟩, h.featureId f hf⟩

theorem newline_notMem_lightUniqueId : '\n' ∉ d.lightUniqueId.toList := by
  unfold lightUniqueId
  split_ifs
  · exact h.newline_notMem_legacyId
  · exact newline_notMem_normalizeMac h.mac

theorem newline_notMem_climateUniqueId : '\n' ∉ d.climateUniqueId.toList :=
  Text.newline_notMem_append.mpr ⟨h.id, by decide⟩

end Device.IsUnbroken

theorem Link.newline_notMem_mac {address : String} (h : '\n' ∉ address.toList) :
    '\n' ∉ (mac address).planned.toList := by
  simp only [planned, Text.newline_notMem_append]
  exact ⟨by decide, h⟩

theorem Link.newline_notMem_via {id : String} (h : '\n' ∉ id.toList) :
    '\n' ∉ (via id).planned.toList := by
  simp only [planned, Text.newline_notMem_append]
  exact ⟨⟨⟨by decide, by decide⟩, by decide⟩, h⟩

theorem Request.link_cases (r : Request) :
    r.link = .mac r.device.mac ∨ ∃ parent, r.parent = some parent ∧ r.link = .via parent.id := by
  unfold link
  split
  · rename_i parent hparent
    split_ifs
    · exact Or.inr ⟨parent, hparent, rfl⟩
    · exact Or.inl rfl
  · exact Or.inl rfl

theorem Device.Placed.parent_mem_nodes {root d host : Device} {parent : Option Device}
    (h : root.Placed d parent) (hhost : parent = some host) : host ∈ root.nodes := by
  cases h with
  | root => cases hhost
  | child => cases hhost; exact List.mem_cons_self

section SetUp
variable {table : List Platform} {root : Device} {extras : Extras} {e : Entity}
  (h : ∀ d ∈ root.nodes, d.IsUnbroken)
include h

theorem newline_notMem_sourceId {platform : Platform} {s : Source}
    (hs : s ∈ platform.sources root) : '\n' ∉ (platform.sourceId s).toList := by
  have hd : s.device.IsUnbroken := h _ (Platform.placed_of_mem_sources hs).mem_nodes
  unfold Platform.sourceId
  split
  · rename_i f hf
    exact hd.newline_notMem_featureUniqueId (Platform.mem_features_of_mem_sources hs f hf)
  · split_ifs
    · exact hd.newline_notMem_climateUniqueId
    · exact hd.newline_notMem_lightUniqueId

/-- **Entities print on one line** if the devices that they are made of allow it. -/
theorem isUnbroken_of_mem (he : e ∈ setUpEntities table root extras) : e.IsUnbroken := by
  obtain ⟨s, hs, ho⟩ := exists_source_of_mem he
  have hplaced := Platform.placed_of_mem_sources hs
  have hunique : e.uniqueId = e.platform.sourceId s :=
    congrArg (fun o : Origin => o.identity.uniqueId) ho
  have hlink : e.identity.deviceInfo.link = (e.platform.binding extras s).request.link :=
    congrArg (fun o : Origin => o.identity.deviceInfo.link) ho
  constructor
  · rw [hunique]
    exact newline_notMem_sourceId h hs
  · rw [hlink]
    rcases (e.platform.binding extras s).request.link_cases with hmac | ⟨parent, hparent, hvia⟩
    · rw [hmac]
      exact Link.newline_notMem_mac (h _ hplaced.mem_nodes).mac
    · rw [hvia]
      exact Link.newline_notMem_via (h parent (hplaced.parent_mem_nodes hparent)).id

end SetUp

/-- **The lines of a plan.** Whatever the tree, its plan has an entry for each entity in turn, which
begins with the id of the entity. There are as many line ends as entities and line ends in what is
printed as it is, so that each entity has a line of its own exactly if there are none of the latter.
So it is if the ids of the devices and features and the hardware addresses have no line ends,
whatever the names are. -/
theorem plan_lists (root : Device) (extras : Extras) :
    ∃ entities events entries, setUp root extras = .ok (entities, events) ∧
      List.Forall₂ Entity.Opens entities entries ∧
      renderPlan entities = String.join (entries.map (· ++ "\n")) ∧
      Text.lineEnds (renderPlan entities) =
        entities.length + (entities.map Entity.strayEnds).sum ∧
      (Lists (renderPlan entities) entities ↔ ∀ e ∈ entities, e.IsUnbroken) ∧
      ((∀ d ∈ root.nodes, d.IsUnbroken) → Lists (renderPlan entities) entities) := by
  obtain ⟨events, hok, -⟩ := setUpWith_eq Platform.all root extras
  have hids : ∀ e ∈ setUpEntities Platform.all root extras, '\n' ∉ e.entityId.toList :=
    fun e he => newline_notMem_entityId he
  have hiff := lists_renderPlan_iff hids
  refine ⟨_, events, _, hok, forall₂_opens_planEntry _, renderPlan_eq _, lineEnds_renderPlan hids,
    hiff, fun h => ?_⟩
  exact hiff.mpr fun e he => isUnbroken_of_mem h he

/-! ### Two broken names -/

/-- A switch whose name and whose feature's name have line ends. -/
def boathouse : Device where
  id := "8019"
  name := "Boat\nhouse"
  model := "S200"
  mac := "50:C7:BF:00:00:19"
  type := .wallSwitch
  features := [
    { id := "led", name := "LED\nring", type := .switch, category := .config
      value := .bool true }]

def boathousePlan : String :=
  "switch.boat_house_led_ring unique_id=8019_led device=\"Boat\\nhouse\" "
    ++ "mac=50:C7:BF:00:00:19 category=config enabled=true\n"

theorem boathouse_isUnbroken : ∀ d ∈ boathouse.nodes, d.IsUnbroken := by
  intro d hd
  rw [show boathouse.nodes = [boathouse] from rfl, List.mem_singleton] at hd
  subst hd
  exact ⟨by decide, by decide, by decide⟩

theorem plan_lists_boathouse :
    (∀ d ∈ boathouse.nodes, d.IsUnbroken) ∧
    (∃ entities events, setUp boathouse {} = .ok (entities, events) ∧
      Lists (renderPlan entities) entities) ∧
    (setUp boathouse {}).map (renderPlan ·.1) = .ok boathousePlan := by
  obtain ⟨entities, events, -, hok, -, -, -, -, hlists⟩ := plan_lists boathouse {}
  exact ⟨boathouse_isUnbroken, ⟨entities, events, hok, hlists boathouse_isUnbroken⟩,
    by decide +kernel⟩

/-! ### A broken id -/

/-- The file of a switch whose id has a line end. -/
def jettyText : String :=
  "[\"80\\n18\", \"Jetty\", \"S200\", \"50:C7:BF:00:00:18\", \"wall_switch\", \"smart\", [],
    [[\"led\", \"LED\", \"switch\", \"config\", true]]]"

def jetty : Device where
  id := "80\n18"
  name := "Jetty"
  model := "S200"
  mac := "50:C7:BF:00:00:18"
  type := .wallSwitch
  features := [
    { id := "led", name := "LED", type := .switch, category := .config, value := .bool true }]

def jettyPlan : String :=
  "switch.jetty_led unique_id=80\n18_led device=\"Jetty\" "
    ++ "mac=50:C7:BF:00:00:18 category=config enabled=true\n"

def jettyJson : Json := .arr [
  .str "80\n18", .str "Jetty", .str "S200", .str "50:C7:BF:00:00:18", .str "wall_switch",
  .str "smart", .arr [],
  .arr [.arr [.str "led", .str "LED", .str "switch", .str "config", .bool true]]]

theorem read?_jettyJson : Json.read? jettyText = some jettyJson := by cbv

theorem read?_jettyText : Device.read? jettyText = some jetty :=
  Device.read?_of_ofJson? read?_jettyJson (by decide) rfl

theorem plan_jetty : (setUp jetty {}).map (fun p => (p.1.length, renderPlan p.1)) =
    .ok (1, jettyPlan) := by decide +kernel

/-- **Two lines for one entity.** -/
theorem plan_breaks_jetty :
    Device.read? jettyText = some jetty ∧
    ∃ entities events, setUp jetty {} = .ok (entities, events) ∧ entities.length = 1 ∧
      renderPlan entities = jettyPlan ∧ ¬ Lists (renderPlan entities) entities := by
  have hplan := plan_jetty
  cases hsetUp : setUp jetty {} with
  | error e => rw [hsetUp] at hplan; cases hplan
  | ok result =>
    obtain ⟨entities, events⟩ := result
    rw [hsetUp] at hplan
    have hresult : (entities.length, renderPlan entities) = (1, jettyPlan) :=
      Except.ok.inj hplan
    obtain ⟨hone, htext⟩ := Prod.mk.inj hresult
    refine ⟨read?_jettyText, entities, events, rfl, hone, htext, ?_⟩
    rintro ⟨lines, hlines, hopens⟩
    have htwo : lines.length = 2 := by
      rw [hlines.length_eq, htext]
      decide
    have hlength : entities.length = lines.length := hopens.length_eq
    omega

end HomeEntities
