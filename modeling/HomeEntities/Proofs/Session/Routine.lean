import HomeEntities.Proofs.Connection.Operations
import HomeEntities.Proofs.Session.Reachable
import HomeEntities.Proofs.Setup.Features

/-! # Routine steps

Once entities are set up, a session goes on by routine steps (`Step.isRoutine`): fetches, updates of
entities, actions, and whatever happens to the device by itself. Such a step updates some of the
entities (`Step.updates`) from the tree that was fetched last and leaves the others
(`step_getElem?`); hence it leaves all entity ids. Only the entities that are updated can be told of
as unreadable in the log; if entity ids are distinct, it is clear of which entity an entry tells
(`step_log`). -/

namespace HomeEntities

variable {σ : Type}

/-- Whether a step leaves which entities there are, and their entity ids. -/
def Step.isRoutine : Step σ → Bool
  | setUp | bind _ | rename .. => false
  | _ => true

theorem Step.isBind_of_isRoutine {step : Step σ} (h : step.isRoutine = true) :
    step.isBind = false := by
  cases step with
  | bind => cases h
  | _ => rfl

/-- Whether a step updates the entity in a place. -/
def Step.updates (i : Nat) : Step σ → Bool
  | update index => index == i
  | updateAll => true
  | _ => false

/-- The entity after an update from a tree. -/
def Entity.updated (snapshot : Device) (e : Entity) : Entity := (e.update snapshot).1

/-- How often a log tells of an entity id that it could not be read. -/
def warnings (entityId : String) (events : List Event) : Nat :=
  (events.filterMap Event.unreadable?).count entityId

theorem warnings_append (entityId : String) (events more : List Event) :
    warnings entityId (events ++ more) = warnings entityId events + warnings entityId more := by
  unfold warnings
  rw [List.filterMap_append, List.count_append]

theorem warnings_of_silent {events : List Event} (h : events.filterMap Event.unreadable? = [])
    (entityId : String) : warnings entityId events = 0 := by
  unfold warnings; rw [h, List.count_nil]

theorem Entity.warnings_update (snapshot : Device) (e : Entity) (entityId : String) :
    warnings entityId (e.update snapshot).2 =
      if e.entityId = entityId ∧ e.readable = true ∧ e.reads snapshot = false then 1 else 0 := by
  unfold warnings
  rw [update_warnings]
  by_cases hr : e.readable && !e.reads snapshot
  · rw [if_pos hr, List.count_singleton]
    rw [Bool.and_eq_true, Bool.not_eq_true'] at hr
    simp [hr]
  · rw [if_neg hr, List.count_nil, if_neg]
    rintro ⟨-, h₁, h₂⟩
    exact hr (by rw [h₁, h₂]; rfl)

namespace Session

theorem updateEntities_snd (snapshot : Device) (l : List Entity) :
    (updateEntities snapshot l).2 = l.flatMap fun e => (e.update snapshot).2 := by
  induction l with
  | nil => rfl
  | cons e l ih => rw [List.flatMap_cons, ← ih]; rfl

section Step
variable (client : Client σ) (extras : Extras) (s : Session σ) {step : Step σ}
  (hr : step.isRoutine = true)
include hr

/-- **What a routine step does to the entities.** -/
theorem step_getElem? (i : Nat) : (s.step client extras step).2.entities[i]? =
    (s.entities[i]?).map fun e =>
      if step.updates i then e.updated s.connection.coordinator.snapshot else e := by
  have still : ∀ {l : List Entity}, l = s.entities → l[i]? = (s.entities[i]?).map fun e => e := by
    rintro l rfl
    exact Option.map_id'.symm
  cases step with
  | setUp | bind | rename => cases hr
  | refresh | startReauth | finish | alter => exact still rfl
  | act index action =>
    refine still ?_
    simp only [Session.step]
    split
    · rfl
    · split <;> rfl
  | write index func writes =>
    refine still ?_
    simp only [Session.step]
    split <;> rfl
  | update index =>
    simp only [Session.step, Step.updates]
    split
    · rename_i h
      by_cases hi : index = i
      · subst hi; rw [h]; rfl
      · simp [hi]
    · rename_i e h
      rw [List.getElem?_set]
      by_cases hi : index = i
      · subst hi
        obtain ⟨hlt, -⟩ := List.getElem?_eq_some_iff.mp h
        rw [if_pos rfl, if_pos hlt, h]
        simp [Entity.updated]
      · simp [hi]
  | updateAll =>
    simp only [Session.step, updateEntities_fst, List.getElem?_map, Step.updates, if_true]
    rfl

theorem step_map_entityId : (s.step client extras step).2.entities.map (·.entityId) =
    s.entities.map (·.entityId) := by
  refine List.ext_getElem? fun i => ?_
  rw [List.getElem?_map, List.getElem?_map, step_getElem? client extras s hr, Option.map_map]
  congr 1
  funext e
  simp only [Function.comp_apply, Entity.updated]
  split
  · exact e.update_entityId _
  · rfl

end Step

/-- **No run of routine steps changes an entity id.** -/
theorem run_map_entityId (client : Client σ) (extras : Extras) : ∀ {steps : List (Step σ)}
    {s : Session σ},
    (∀ step ∈ steps, step.isRoutine = true) →
      (s.run client extras steps).entities.map (·.entityId) = s.entities.map (·.entityId)
  | [], _, _ => rfl
  | step :: steps, s, h => by
    have hrest := @run_map_entityId client extras steps (s.step client extras step).2
      fun step' hmem => h step' (List.mem_cons_of_mem step hmem)
    exact hrest.trans (step_map_entityId client extras s (h step List.mem_cons_self))

/-! ### The log -/

/-- In the updates of entities with distinct ids only one tells of the id of each. -/
theorem warnings_flatMap (snapshot : Device) {e : Entity} : ∀ {l : List Entity},
    (l.map (·.entityId)).Nodup → e ∈ l →
      warnings e.entityId (l.flatMap fun e => (e.update snapshot).2) =
        warnings e.entityId (e.update snapshot).2
  | a :: l, hn, he => by
    have others : ∀ {l : List Entity}, e.entityId ∉ l.map (·.entityId) →
        warnings e.entityId (l.flatMap fun e => (e.update snapshot).2) = 0 := by
      intro l hl
      induction l with
      | nil => rfl
      | cons b l ih =>
        rw [List.map_cons, List.mem_cons, not_or] at hl
        rw [List.flatMap_cons, warnings_append, ih hl.2, Entity.warnings_update, if_neg]
        exact fun h => hl.1 h.1.symm
    rw [List.map_cons, List.nodup_cons] at hn
    rw [List.flatMap_cons, warnings_append]
    rcases List.mem_cons.mp he with rfl | he
    · rw [others hn.1, Nat.add_zero]
    · have hne : a.entityId ≠ e.entityId := fun h => hn.1 (h ▸ List.mem_map_of_mem he)
      rw [warnings_flatMap snapshot hn.2 he, Entity.warnings_update snapshot a,
        if_neg fun h => hne h.1, Nat.zero_add]

theorem step_proceeds (client : Client σ) (extras : Extras) {s : Session σ} {step : Step σ}
    (hr : step.isRoutine = true) (hu : ∀ i, step.updates i = false) :
    s.connection.Proceeds (s.step client extras step).2.connection := by
  cases step with
  | setUp | bind | rename => cases hr
  | updateAll => cases hu 0
  | update index => simpa [Step.updates] using hu index
  | refresh => exact Connection.refresh_proceeds _
  | startReauth => exact Connection.startReauth_proceeds _
  | alter change => exact ⟨⟨[], (List.append_nil _).symm, rfl⟩, fun hc => hc.congr rfl rfl⟩
  | finish func answer => exact Connection.finish_proceeds func answer _
  | write index func writes =>
    simp only [Session.step]
    split
    · exact .refl _
    · exact Connection.writeFeatures_proceeds _ _ _ _
  | act index action =>
    simp only [Session.step]
    split
    · exact .refl _
    · split
      · exact .refl _
      · rename_i h; exact Connection.perform_proceeds h

theorem index_unique {s : Session σ} (hn : (s.entities.map (·.entityId)).Nodup) {i j : Nat}
    {e e' : Entity} (he : s.entities[i]? = some e) (he' : s.entities[j]? = some e')
    (hid : e'.entityId = e.entityId) : j = i := by
  obtain ⟨hi, rfl⟩ := List.getElem?_eq_some_iff.mp he
  obtain ⟨hj, rfl⟩ := List.getElem?_eq_some_iff.mp he'
  exact Fin.mk.inj (@eq_of_nodup_map _ _ (·.entityId) _ hn ⟨j, hj⟩ ⟨i, hi⟩ hid)

/-- **What a routine step logs of an entity**: that it became unreadable. -/
theorem step_log (client : Client σ) (extras : Extras) {s : Session σ} {step : Step σ}
    (hr : step.isRoutine = true) (hn : (s.entities.map (·.entityId)).Nodup) {i : Nat} {e : Entity}
    (he : s.entities[i]? = some e) :
    ∃ events, (s.step client extras step).2.connection.events = s.connection.events ++ events ∧
      warnings e.entityId events =
        if step.updates i = true ∧ e.readable = true ∧
          e.reads s.connection.coordinator.snapshot = false then 1 else 0 := by
  cases step with
  | update index =>
    simp only [Session.step, Step.updates]
    split
    · rename_i h
      have hne : ¬ (index == i) = true := by
        intro hi
        rw [beq_iff_eq] at hi
        rw [hi, he] at h
        cases h
      exact ⟨[], (List.append_nil _).symm, (if_neg fun hw => hne hw.1).symm⟩
    · rename_i e' h
      refine ⟨_, rfl, ?_⟩
      rw [Entity.warnings_update]
      by_cases hi : index = i
      · subst hi
        obtain rfl := Option.some.inj (h.symm.trans he)
        simp
      · have hid : e'.entityId ≠ e.entityId := fun hid => hi (index_unique hn he h hid)
        simp [hi, hid]
  | updateAll =>
    refine ⟨_, rfl, ?_⟩
    simp only [updateEntities_snd, Step.updates]
    rw [warnings_flatMap _ hn (List.mem_of_getElem? he), Entity.warnings_update]
    simp
  | setUp | bind | rename => cases hr
  | _ =>
    -- no entity is updated
    obtain ⟨events, hlog, hsilent⟩ := (step_proceeds client extras hr fun _ => rfl).log
    refine ⟨events, hlog, ?_⟩
    rw [warnings_of_silent hsilent]
    rfl

end Session

end HomeEntities
