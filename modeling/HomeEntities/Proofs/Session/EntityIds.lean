import HomeEntities.Proofs.Session.Routine
import HomeEntities.Proofs.Setup.FreeId

/-! # Entity ids

An entity is made with an id of its names (`Entity.baseId`). Set-up leaves it if no entity before
has it, and numbers it otherwise (`settle_entityId`), so that ids are distinct whatever the names
are (`nodup_settle`); no routine step changes them afterwards. `setUp_entityIds` puts this
together. -/

namespace HomeEntities

/-! ### The id an entity is made with -/

/-- The id of the names of an entity. -/
def Entity.baseId (e : Entity) : String :=
  entityIdFor e.platform e.identity.deviceInfo.name e.name

theorem Entity.baseId_eq_of_origin {e e' : Entity} (h : e.origin = e'.origin) :
    e.baseId = e'.baseId :=
  congrArg (fun o : Origin => entityIdFor o.platform o.identity.deviceInfo.name
    (o.identity.name <|> o.description.map (·.name))) h

@[simp] theorem Entity.update_baseId (snapshot : Device) (e : Entity) :
    (e.update snapshot).1.baseId = e.baseId :=
  Entity.baseId_eq_of_origin (e.update_origin snapshot)

theorem baseId_of_mem_candidatesOf {table : List Platform} {root : Device} {extras : Extras}
    {c : Entity} (h : c ∈ candidatesOf table root extras) : c.entityId = c.baseId := by
  obtain ⟨platform, -, s, -, rfl⟩ := mem_candidatesOf.mp h
  rw [Entity.baseId, Platform.newEntity_platform]
  rfl

/-! ### The ids of set-up -/

/-- **The id of an entity** is the id of its names, made free of the ids of the entities before. -/
theorem settle_entityId {root : Device} : ∀ {l before after : List Entity} {taken : List String}
    {e : Entity}, (∀ c ∈ l, c.entityId = c.baseId) → settle root taken l = before ++ e :: after →
      e.entityId = freeId e.baseId ((before.map (·.entityId)).reverse ++ taken)
  | [], before, after, taken, e, _, h => by
    rw [settle] at h
    exact absurd h.symm (by simp)
  | c :: l, [], after, taken, e, hbase, h => by
    obtain ⟨rfl, -⟩ := List.cons.inj h
    rw [Entity.update_entityId, Entity.update_baseId]
    exact congrArg (freeId · taken) (hbase c List.mem_cons_self)
  | c :: l, e' :: before, after, taken, e, hbase, h => by
    obtain ⟨rfl, hrest⟩ := List.cons.inj h
    have := settle_entityId (fun c' hc' => hbase c' (List.mem_cons_of_mem c hc')) hrest
    rwa [List.map_cons, List.reverse_cons, List.append_assoc, List.singleton_append]

/-- **Ids are distinct**, and none is one of those taken before. -/
theorem nodup_settle (root : Device) : ∀ (l : List Entity) {taken : List String}, taken.Nodup →
    ((settle root taken l).map (·.entityId) ++ taken).Nodup
  | [], _, h => h
  | c :: l, taken, h => by
    have hnext : (freeId c.entityId taken :: taken).Nodup :=
      List.nodup_cons.mpr ⟨freeId_notMem c.entityId taken, h⟩
    have hrest := nodup_settle root l hnext
    rw [List.nodup_middle] at hrest
    simpa only [settle, Entity.update_entityId, List.map_cons, List.cons_append] using hrest

theorem nodup_map_entityId_setUpEntities (table : List Platform) (root : Device) (extras : Extras) :
    ((setUpEntities table root extras).map (·.entityId)).Nodup := by
  have h := nodup_settle root (firsts Entity.key (candidatesOf table root extras)) List.nodup_nil
  rwa [List.append_nil] at h

section Entities
variable {table : List Platform} {root : Device} {extras : Extras} {before after : List Entity}
  {e : Entity} (h : setUpEntities table root extras = before ++ e :: after)
include h

theorem freeId_of_setUpEntities :
    FreeId e.baseId (before.map (·.entityId)).reverse e.entityId := by
  have hbase : ∀ c ∈ firsts Entity.key (candidatesOf table root extras), c.entityId = c.baseId :=
    fun c hc => baseId_of_mem_candidatesOf (mem_of_mem_firsts _ hc)
  rw [settle_entityId hbase h, List.append_nil]
  exact freeId_cases _ _

theorem entityId_eq_baseId (hfree : e.baseId ∉ before.map (·.entityId)) :
    e.entityId = e.baseId := by
  generalize hid : e.entityId = id
  cases hid ▸ freeId_of_setUpEntities h with
  | base => rfl
  | numbered htaken => exact absurd (List.mem_reverse.mp htaken) hfree

omit h in
theorem entityId_of_mem (he : e ∈ setUpEntities table root extras) :
    e.entityId = e.baseId ∨ ∃ n, 2 ≤ n ∧ e.entityId = numbered e.baseId n := by
  obtain ⟨before, after, h⟩ := List.append_of_mem he
  generalize hid : e.entityId = id
  cases hid ▸ freeId_of_setUpEntities h with
  | base => exact Or.inl rfl
  | numbered _ hn => exact Or.inr ⟨_, hn, rfl⟩

end Entities

/-- Numbers come behind, so that the name of the platform stays in front. -/
theorem exists_platform_append {e : Entity}
    (h : e.entityId = e.baseId ∨ ∃ n, 2 ≤ n ∧ e.entityId = numbered e.baseId n) :
    ∃ rest, e.entityId = e.platform.name ++ "." ++ rest := by
  obtain ⟨slug, hslug⟩ : ∃ slug, e.baseId = e.platform.name ++ "." ++ slug := ⟨_, rfl⟩
  rcases h with h | ⟨n, -, h⟩
  · exact ⟨slug, h.trans hslug⟩
  · rw [h, numbered, hslug, String.append_assoc, String.append_assoc]
    exact ⟨_, rfl⟩

/-- **Entity ids are unique for ever.** Whatever the tree, set-up gives distinct ids to entities.
Each begins with the name of the platform; it is the id of the names, or that with a number from two
on; and it is the former if no entity before has it. Whatever happens to the entities afterwards,
their ids stay. -/
theorem setUp_entityIds (root : Device) (extras : Extras) :
    ∃ entities events, setUp root extras = .ok (entities, events) ∧
      (entities.map (·.entityId)).Nodup ∧
      (∀ e ∈ entities, ∃ rest, e.entityId = e.platform.name ++ "." ++ rest) ∧
      (∀ e ∈ entities, e.entityId = e.baseId ∨
        ∃ n, 2 ≤ n ∧ e.entityId = e.baseId ++ "_" ++ toString n) ∧
      (∀ before e after, entities = before ++ e :: after →
        e.baseId ∉ before.map (·.entityId) → e.entityId = e.baseId) ∧
      ∀ {σ : Type} (client : Client σ) (extras' : Extras) (s : Session σ) (steps : List (Step σ)),
        s.entities = entities → (∀ step ∈ steps, step.isRoutine = true) →
          (s.run client extras' steps).entities.map (·.entityId) = entities.map (·.entityId) := by
  obtain ⟨events, hok, -⟩ := setUpWith_eq Platform.all root extras
  refine ⟨_, events, hok, nodup_map_entityId_setUpEntities _ _ _,
    fun e he => exists_platform_append (entityId_of_mem he), fun e he => entityId_of_mem he,
    fun before e after h => entityId_eq_baseId h, fun client extras' s steps hs hr => ?_⟩
  rw [Session.run_map_entityId client extras' hr, hs]

/-! ### Sockets named alike -/

/-- A socket of a strip. -/
def socket (id name : String) : Device where
  id := id
  name := name
  model := "HS300"
  mac := "50:C7:BF:00:00:07"
  type := .stripSocket
  features := [
    { id := "state", name := "State", type := .switch, category := .primary, value := .bool true }]

/-- A strip where the name of a socket looks as if it had been numbered. -/
def strip : Device where
  id := "8006"
  name := "Strip"
  model := "HS300"
  mac := "50:C7:BF:00:00:07"
  type := .strip
  children := [socket "800600" "Kettle", socket "800601" "Kettle", socket "800602" "Kettle 2"]

/-- The session of the strip after set-up. -/
def stripSession : Session Client.Faulty :=
  (Session.step Client.faulty {} { connection := {
    client := { root := strip }
    coordinator := { snapshot := strip } } } .setUp).2

theorem setUp_entityIds_strip :
    stripSession.entities.map (·.baseId) =
      ["switch.strip_kettle", "switch.strip_kettle", "switch.strip_kettle_2"] ∧
    stripSession.entities.map (·.entityId) =
      ["switch.strip_kettle", "switch.strip_kettle_2", "switch.strip_kettle_2_2"] ∧
    (∃ e after, stripSession.entities = e :: after ∧ e.entityId = e.baseId) ∧
    (stripSession.run Client.faulty {} [.refresh, .updateAll, .act 1 .turnOff]).entities.map
      (·.entityId) = stripSession.entities.map (·.entityId) := by
  obtain ⟨entities, events, hok, -, -, -, hfirst, hrun⟩ := setUp_entityIds strip {}
  have hs : stripSession.entities = entities := by simp only [stripSession, Session.step, hok]
  refine ⟨by decide +kernel, by decide +kernel, ?_, ?_⟩
  · have hlen : stripSession.entities.length = 3 := rfl
    cases he : stripSession.entities with
    | nil => rw [he] at hlen; cases hlen
    | cons e after =>
      exact ⟨e, after, rfl, hfirst [] e after (hs.symm.trans he) List.not_mem_nil⟩
  · rw [hs]
    exact hrun Client.faulty {} stripSession _ hs (by simp [Step.isRoutine])

end HomeEntities
