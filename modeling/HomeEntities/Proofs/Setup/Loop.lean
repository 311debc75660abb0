import HomeEntities.Proofs.Entity.Update
import HomeEntities.Proofs.Setup.Candidates
import HomeEntities.Proofs.Setup.Firsts
import HomeEntities.Setup.Basic

/-! # The loop of set-up

Set-up goes through the candidates of all platforms with two growing sets, the keys and the entity
ids seen so far. What comes of it is described without them: the candidates whose key occurs for
the first time (`firsts`) are kept, in order; each takes a free entity id and is read once
(`settle`); the others (`repeats`) are logged as duplicates.

* `Progress.Covers`: what holds after some candidates; `Covers.consider` is the step.
* `setUpWith_eq`: what set-up returns, for any table of platforms. In particular it never fails.
* `settle_map_origin`: what an entity was made with is not touched. -/

namespace HomeEntities

/-! ### Settling -/

/-- What becomes of the candidates kept: each takes an entity id that is free and is read once. -/
def settle (root : Device) (taken : List String) : List Entity → List Entity
  | [] => []
  | c :: cs =>
    let e := (Entity.update root { c with entityId := freeId c.entityId taken }).1
    e :: settle root (e.entityId :: taken) cs

theorem settle_append (root : Device) (l l' : List Entity) : ∀ taken : List String,
    settle root taken (l ++ l') = settle root taken l ++
      settle root (((settle root taken l).map (·.entityId)).reverse ++ taken) l' := by
  induction l with
  | nil => intro taken; rfl
  | cons c l ih =>
    intro taken
    simp only [List.cons_append, settle, ih, List.map_cons, List.reverse_cons, List.append_assoc,
      List.nil_append]

theorem settle_map_origin (root : Device) (l : List Entity) : ∀ taken : List String,
    (settle root taken l).map Entity.origin = l.map Entity.origin := by
  induction l with
  | nil => intro taken; rfl
  | cons c l ih =>
    intro taken
    simp only [settle, List.map_cons, ih, Entity.update_origin]
    rfl

theorem settle_map_key (root : Device) (l : List Entity) (taken : List String) :
    (settle root taken l).map Entity.key = l.map Entity.key := by
  have h := congrArg (List.map Origin.key) (settle_map_origin root l taken)
  rw [List.map_map, List.map_map] at h
  exact h

theorem exists_mem_settle {root : Device} {taken : List String} {l : List Entity} {c : Entity}
    (h : c ∈ l) : ∃ e ∈ settle root taken l, e.origin = c.origin := by
  rw [← List.mem_map, settle_map_origin]
  exact List.mem_map_of_mem h

theorem exists_of_mem_settle {root : Device} {taken : List String} {l : List Entity} {e : Entity}
    (h : e ∈ settle root taken l) : ∃ c ∈ l, c.origin = e.origin := by
  rw [← List.mem_map, ← settle_map_origin root l taken]
  exact List.mem_map_of_mem h

theorem exists_candidate_of_mem_settle {root : Device} {e : Entity} : ∀ {l : List Entity}
    {taken : List String}, e ∈ settle root taken l →
      ∃ c ∈ l, ∃ entityId, e = (Entity.update root { c with entityId }).1
  | [], _, h => absurd h List.not_mem_nil
  | c :: l, taken, h => by
    rw [settle] at h
    rcases List.mem_cons.mp h with h | h
    · exact ⟨c, List.mem_cons_self, _, h⟩
    · obtain ⟨c', hc', he⟩ := exists_candidate_of_mem_settle h
      exact ⟨c', List.mem_cons_of_mem c hc', he⟩

theorem exists_update_of_mem_settle {root : Device} {e : Entity} {l : List Entity}
    {taken : List String} (h : e ∈ settle root taken l) : ∃ c, e = (Entity.update root c).1 := by
  obtain ⟨c, -, entityId, he⟩ := exists_candidate_of_mem_settle h
  exact ⟨_, he⟩

/-! ### Events -/

/-- The entity that an event tells of as a duplicate. -/
def Event.duplicate? : Event → Option (Platform × String × String)
  | duplicate platform uniqueId entityId => some (platform, uniqueId, entityId)
  | _ => none

theorem mem_filterMap_duplicate? {events : List Event} {platform : Platform}
    {uniqueId entityId : String} :
    (platform, uniqueId, entityId) ∈ events.filterMap Event.duplicate? ↔
      Event.duplicate platform uniqueId entityId ∈ events := by
  rw [List.mem_filterMap]
  constructor
  · rintro ⟨event, hmem, h⟩
    cases event with
    | duplicate => cases h; exact hmem
    | _ => cases h
  · intro h
    exact ⟨_, h, rfl⟩

/-- What is logged of a duplicate. -/
def Entity.duplicate (e : Entity) : Platform × String × String :=
  (e.platform, e.uniqueId, e.entityId)

/-- Events that tell of no duplicate. -/
def NoDuplicate (events : List Event) : Prop := events.filterMap Event.duplicate? = []

theorem noDuplicate_append {events more : List Event} (h : NoDuplicate events)
    (h' : NoDuplicate more) : NoDuplicate (events ++ more) := by
  unfold NoDuplicate at *
  rw [List.filterMap_append, h, h', List.append_nil]

theorem Entity.update_noDuplicate (snapshot : Device) (e : Entity) :
    NoDuplicate (e.update snapshot).2 :=
  e.filterMap_update snapshot (fun _ => rfl) fun _ _ _ _ => rfl

section Platform
variable {β : Type} {digest : Event → Option β} (hi : ∀ n, digest (.initializing n) = none)
  (hu : ∀ category id, digest (.unhandledCategory category id) = none)
include hu

theorem EntityCategory.filterMap_events (feature : Option Feature) :
    (EntityCategory.events feature).filterMap digest = [] := by
  unfold events
  split
  · split
    · simp [hu]
    · rfl
  · rfl

include hi

theorem Platform.filterMap_events (platform : Platform) (root : Device) :
    (platform.events root).filterMap digest = [] := by
  unfold events
  rw [List.filterMap_append, List.filterMap_flatMap, List.append_eq_nil_iff]
  refine ⟨?_, List.flatMap_eq_nil_iff.mpr fun s _ => EntityCategory.filterMap_events hu s.feature⟩
  split
  · simp [hi]
  · rfl

end Platform

/-! ### The loop -/

/-- The candidates of the platforms of a table. -/
def candidatesOf (table : List Platform) (root : Device) (extras : Extras) : List Entity :=
  table.flatMap fun platform => (platform.sources root).map (platform.newEntity extras)

/-- How far set-up has come after some candidates. -/
structure Progress.Covers (root : Device) (cs : List Entity) (p : Progress) : Prop where
  keys : ∀ k, k ∈ p.keys ↔ k ∈ cs.map Entity.key
  entities : p.entities = settle root [] (firsts Entity.key cs)
  entityIds : p.entityIds = (p.entities.map (·.entityId)).reverse
  duplicates : p.events.filterMap Event.duplicate? =
    (repeats Entity.key [] cs).map Entity.duplicate

namespace Progress.Covers

variable {root : Device} {cs : List Entity} {p : Progress}

theorem empty (root : Device) : Covers root [] {} := ⟨fun _ => Iff.rfl, rfl, rfl, rfl⟩

theorem log (h : Covers root cs p) {events : List Event} (he : NoDuplicate events) :
    Covers root cs (p.log events) := by
  refine ⟨h.keys, h.entities, h.entityIds, ?_⟩
  rw [Progress.log, List.filterMap_append, he, List.append_nil, h.duplicates]

/-- **One candidate.** -/
theorem consider (h : Covers root cs p) (e : Entity) :
    Covers root (cs ++ [e]) (p.consider root e.platform e) := by
  have hk : p.keys.contains (e.platform, e.uniqueId) = true ↔ e.key ∈ cs.map Entity.key := by
    rw [List.contains_iff_mem, h.keys]; rfl
  unfold Progress.consider
  by_cases hmem : e.key ∈ cs.map Entity.key
  · -- the key has been seen: nothing changes but the log
    rw [if_pos (hk.mpr hmem)]
    refine ⟨fun k => ?_, ?_, h.entityIds, ?_⟩
    · rw [Progress.log, h.keys, List.map_append, List.mem_append]
      constructor
      · exact Or.inl
      · rintro (hc | hc)
        · exact hc
        · rw [List.mem_singleton.mp hc]; exact hmem
    · rw [Progress.log, h.entities, firsts_concat, if_pos hmem, List.append_nil]
    · rw [Progress.log, List.filterMap_append, h.duplicates, repeats_concat, if_pos (Or.inl hmem),
        List.map_append]
      rfl
  · rw [if_neg fun hc => hmem (hk.mp hc)]
    refine ⟨fun k => ?_, ?_, ?_, ?_⟩
    · rw [List.map_append, List.mem_append, List.mem_cons, h.keys, or_comm]
      exact or_congr_right List.mem_singleton.symm
    · rw [firsts_concat, if_neg hmem, settle_append, ← h.entities, ← h.entityIds, List.append_nil]
      rfl
    · show _ :: _ = _
      rw [List.map_append, List.reverse_append, ← h.entityIds, List.map_singleton,
        Entity.update_entityId]
      rfl
    · show List.filterMap _ (_ ++ _) = _
      rw [List.filterMap_append, h.duplicates, Entity.update_noDuplicate, repeats_concat,
        if_neg (by simpa using hmem), List.append_nil, List.append_nil]

theorem foldl_consider {platform : Platform} : ∀ {created : List Entity} {cs : List Entity}
    {p : Progress}, Covers root cs p → (∀ e ∈ created, e.platform = platform) →
    Covers root (cs ++ created) (created.foldl (Progress.consider root platform) p)
  | [], cs, p, h, _ => by simpa using h
  | e :: created, cs, p, h, he => by
    have hstep := h.consider e
    rw [he e List.mem_cons_self] at hstep
    have := foldl_consider hstep fun e' h' => he e' (List.mem_cons_of_mem e h')
    rwa [List.append_assoc, List.singleton_append] at this

theorem platform (h : Covers root cs p) (extras : Extras) (platform : Platform) :
    ∃ p', p.platform root extras platform = .ok p' ∧
      Covers root (cs ++ (platform.sources root).map (platform.newEntity extras)) p' := by
  simp only [Progress.platform, Platform.candidates_eq]
  refine ⟨_, rfl, foldl_consider (h.log ?_) ?_⟩
  · exact noDuplicate_append (platform.filterMap_events (fun _ => rfl) (fun _ _ => rfl) root) rfl
  · intro e he
    obtain ⟨s, -, rfl⟩ := List.mem_map.mp he
    exact Platform.newEntity_platform platform extras s

theorem table (extras : Extras) : ∀ (table : List Platform) {cs : List Entity} {p : Progress},
    Covers root cs p → ∃ p', table.foldlM (Progress.platform root extras) p = .ok p' ∧
      Covers root (cs ++ candidatesOf table root extras) p'
  | [], cs, p, h => ⟨p, rfl, by simpa [candidatesOf] using h⟩
  | platform :: rest, cs, p, h => by
    obtain ⟨p₁, hp₁, h₁⟩ := h.platform extras platform
    obtain ⟨p₂, hp₂, h₂⟩ := Covers.table extras rest h₁
    refine ⟨p₂, ?_, ?_⟩
    · rw [List.foldlM_cons, hp₁]; exact hp₂
    · rwa [List.append_assoc] at h₂

end Progress.Covers

/-- The entities that set-up returns. -/
def setUpEntities (table : List Platform) (root : Device) (extras : Extras) : List Entity :=
  settle root [] (firsts Entity.key (candidatesOf table root extras))

/-- **Set-up** keeps the first candidate of each key and logs the others as duplicates. -/
theorem setUpWith_eq (table : List Platform) (root : Device) (extras : Extras) :
    ∃ events, setUpWith table root extras = .ok (setUpEntities table root extras, events) ∧
      events.filterMap Event.duplicate? =
        (repeats Entity.key [] (candidatesOf table root extras)).map Entity.duplicate := by
  obtain ⟨p, hp, h⟩ := (Progress.Covers.empty root).table extras table
  rw [List.nil_append] at h
  refine ⟨_, by rw [setUpWith, hp, setUpEntities, ← h.entities], ?_⟩
  rw [List.filterMap_append, h.duplicates]
  exact List.append_nil _

theorem eq_setUpEntities {root : Device} {extras : Extras} {entities : List Entity}
    {events : List Event} (h : setUp root extras = .ok (entities, events)) :
    entities = setUpEntities Platform.all root extras := by
  obtain ⟨events', hok, -⟩ := setUpWith_eq Platform.all root extras
  rw [setUp, hok, Except.ok.injEq, Prod.mk.injEq] at h
  exact h.1.symm

/-- The entity was made of a source of its platform. -/
def Entity.MadeOf (root : Device) (extras : Extras) (s : Source) (e : Entity) : Prop :=
  s ∈ e.platform.sources root ∧ e.origin = (e.platform.newEntity extras s).origin

section Entities
variable {table : List Platform} {root : Device} {extras : Extras}

theorem mem_candidatesOf {c : Entity} : c ∈ candidatesOf table root extras ↔
    ∃ platform ∈ table, ∃ s ∈ platform.sources root, platform.newEntity extras s = c := by
  simp only [candidatesOf, List.mem_flatMap, List.mem_map]

theorem nodup_map_key_setUpEntities : ((setUpEntities table root extras).map Entity.key).Nodup := by
  rw [setUpEntities, settle_map_key]
  exact nodup_map_firsts Entity.key _

theorem exists_entity_of_mem_firsts {c : Entity}
    (h : c ∈ firsts Entity.key (candidatesOf table root extras)) :
    ∃ e ∈ setUpEntities table root extras, e.origin = c.origin :=
  exists_mem_settle h

theorem exists_source_of_mem {e : Entity} (h : e ∈ setUpEntities table root extras) :
    ∃ s ∈ e.platform.sources root, e.origin = (e.platform.newEntity extras s).origin := by
  obtain ⟨c, hc, ho⟩ := exists_of_mem_settle h
  obtain ⟨p, -, s, hs, rfl⟩ := mem_candidatesOf.mp (mem_of_mem_firsts _ hc)
  have hp : p = e.platform :=
    (Platform.newEntity_platform p extras s).symm.trans (congrArg Origin.platform ho)
  subst hp
  exact ⟨s, hs, ho.symm⟩

end Entities

end HomeEntities
