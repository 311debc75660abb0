import HomeEntities.Proofs.Setup.Loop

/-! # The log of set-up

Besides the duplicates, the log of set-up tells how many entities each platform made and which
entities could not be read. `Progress.Journal` says so of the log as far as set-up has come; its
steps are the announcement of a platform (`Journal.announce`) and one candidate
(`Journal.consider`). `setUpWith_log` puts it together with the entities that are returned. -/

namespace HomeEntities

/-- The number of entities that a platform is said to have made. -/
def Event.created? : Event → Option Nat
  | created count _ => some count
  | _ => none

/-- The number of entities that are said to have been set up. -/
def Event.setUp? : Event → Option Nat
  | setUp count _ => some count
  | _ => none

/-- The entities of a list that are not readable, by their entity ids. -/
def unreadableIds (entities : List Entity) : List String :=
  (entities.filter fun e => !e.readable).map (·.entityId)

/-- What the log tells as far as set-up has come: the numbers of entities made by the platforms that
were gone through, and the entities that could not be read. -/
structure Progress.Journal (counts : List Nat) (p : Progress) : Prop where
  created : p.events.filterMap Event.created? = counts
  setUp : p.events.filterMap Event.setUp? = []
  unreadable : p.events.filterMap Event.unreadable? = unreadableIds p.entities

namespace Progress.Journal

variable {counts : List Nat} {p : Progress}

theorem empty : Journal [] {} := ⟨rfl, rfl, rfl⟩

theorem announce (h : Journal counts p) (platform : Platform) (root : Device) (count : Nat) :
    Journal (counts ++ [count]) (p.log (platform.events root ++ [.created count platform])) := by
  refine ⟨?_, ?_, ?_⟩
  · rw [Progress.log, List.filterMap_append, List.filterMap_append, h.created,
      platform.filterMap_events (fun _ => rfl) (fun _ _ => rfl)]
    rfl
  · rw [Progress.log, List.filterMap_append, List.filterMap_append, h.setUp,
      platform.filterMap_events (fun _ => rfl) (fun _ _ => rfl)]
    rfl
  · rw [Progress.log, List.filterMap_append, List.filterMap_append, h.unreadable,
      platform.filterMap_events (fun _ => rfl) (fun _ _ => rfl)]
    exact List.append_nil _

/-- **One candidate**, which nobody has read before. -/
theorem consider (h : Journal counts p) (root : Device) (platform : Platform) {e : Entity}
    (he : e.readable = true) : Journal counts (p.consider root platform e) := by
  unfold Progress.consider
  split
  · -- a duplicate is logged as such, and not read
    refine ⟨?_, ?_, ?_⟩
    · rw [Progress.log, List.filterMap_append, h.created]; exact List.append_nil _
    · rw [Progress.log, List.filterMap_append, h.setUp]; rfl
    · rw [Progress.log, List.filterMap_append, h.unreadable]; exact List.append_nil _
  · generalize freeId e.entityId p.entityIds = entityId
    let c : Entity := { e with entityId }
    refine ⟨?_, ?_, ?_⟩
    · show List.filterMap _ (p.events ++ (c.update root).2) = counts
      rw [List.filterMap_append, h.created,
        c.filterMap_update root (fun _ => rfl) (fun _ _ _ _ => rfl), List.append_nil]
    · show List.filterMap _ (p.events ++ (c.update root).2) = []
      rw [List.filterMap_append, h.setUp,
        c.filterMap_update root (fun _ => rfl) (fun _ _ _ _ => rfl), List.append_nil]
    · show List.filterMap _ (p.events ++ (c.update root).2) =
        unreadableIds (p.entities ++ [(c.update root).1])
      have hc : c.readable = true := he
      rw [List.filterMap_append, h.unreadable, c.update_warnings root, unreadableIds,
        unreadableIds, List.filter_append, List.map_append]
      congr 1
      by_cases hr : c.reads root = true <;>
        simp [hr, hc, c.update_readable root]

theorem foldl_consider (root : Device) (platform : Platform) : ∀ {created : List Entity}
    {p : Progress}, Journal counts p → (∀ e ∈ created, e.readable = true) →
      Journal counts (created.foldl (Progress.consider root platform) p)
  | [], _, h, _ => h
  | e :: created, p, h, he => by
    have hstep := h.consider root platform (he e List.mem_cons_self)
    have hrest := foldl_consider root platform hstep fun e' h' => he e' (List.mem_cons_of_mem e h')
    exact hrest

theorem table (root : Device) (extras : Extras) : ∀ (table : List Platform) {counts : List Nat}
    {p p' : Progress}, Journal counts p →
      table.foldlM (Progress.platform root extras) p = .ok p' →
        Journal (counts ++ table.map fun platform => (platform.sources root).length) p'
  | [], counts, p, p', h, hp => by
    cases hp
    rwa [List.map_nil, List.append_nil]
  | platform :: rest, counts, p, p', h, hp => by
    rw [List.foldlM_cons, Progress.platform, Platform.candidates_eq] at hp
    have hnew : ∀ e ∈ (platform.sources root).map (platform.newEntity extras),
        e.readable = true := by
      intro e he
      obtain ⟨s, -, rfl⟩ := List.mem_map.mp he
      rfl
    have hnext := Journal.table root extras rest
      (foldl_consider root platform (h.announce platform root _) hnew) hp
    rwa [List.length_map, List.append_assoc] at hnext

end Progress.Journal

/-- **The log of set-up** tells of the duplicates, of the number of entities made by each platform,
of the entities that could not be read, and last of the number of entities returned. -/
theorem setUpWith_log (table : List Platform) (root : Device) (extras : Extras) :
    ∃ events, setUpWith table root extras =
        .ok (setUpEntities table root extras,
          events ++ [.setUp (setUpEntities table root extras).length root.name]) ∧
      events.filterMap Event.duplicate? =
        (repeats Entity.key [] (candidatesOf table root extras)).map Entity.duplicate ∧
      events.filterMap Event.created? = table.map (fun platform => (platform.sources root).length) ∧
      events.filterMap Event.setUp? = [] ∧
      events.filterMap Event.unreadable? = unreadableIds (setUpEntities table root extras) := by
  obtain ⟨p, hp, hcovers⟩ := (Progress.Covers.empty root).table extras table
  have hjournal := Progress.Journal.empty.table root extras table hp
  rw [List.nil_append] at hcovers hjournal
  have hentities : p.entities = setUpEntities table root extras := hcovers.entities
  refine ⟨p.events, ?_, hcovers.duplicates, hjournal.created, hjournal.setUp, ?_⟩
  · rw [setUpWith, hp, ← hentities]
  · rw [← hentities]; exact hjournal.unreadable

end HomeEntities
