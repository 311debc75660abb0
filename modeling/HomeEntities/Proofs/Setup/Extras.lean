import HomeEntities.Proofs.Setup.Loop

/-! # Set-up under different extras

Two set-ups of one tree, each with extras of its own, go hand in hand (`Progress.InStep`): they keep
and drop the same candidates, give out the same ids and log the same. What one makes of a source has
a counterpart in the other (`Entity.Counterparts`), which differs at most in its description and, if
the extras name different units, in the unit that a sensor shows. The step is
`Progress.InStep.consider`, the whole run `setUp_inStep`. -/

namespace HomeEntities

/-! ### Readings -/

namespace State

/-- A state apart from the unit that a sensor shows. -/
def withoutUnit : State → State
  | sensor s => sensor { s with unit := none }
  | state => state

theorem withoutUnit_cases {s s' : State} (h : s.withoutUnit = s'.withoutUnit) :
    s = s' ∨ ∃ a a', s = sensor a ∧ s' = sensor a' := by
  cases s with
  | sensor a =>
    cases s' with
    | sensor a' => exact Or.inr ⟨a, a', rfl, rfl⟩
    | _ => simp [withoutUnit] at h
  | _ =>
    cases s' with
    | sensor a' => simp [withoutUnit] at h
    | _ => exact Or.inl h

/-- **A reading** depends on the described unit in nothing but the unit that a sensor shows. -/
theorem read_withoutUnit {s s' : State} (h : s.withoutUnit = s'.withoutUnit) (device : Device)
    (feature : Option Feature) (u u' : Option String) :
    Prod.map withoutUnit id <$> s.read device feature u =
      Prod.map withoutUnit id <$> s'.read device feature u' := by
  rcases withoutUnit_cases h with rfl | ⟨a, a', rfl, rfl⟩
  · cases s with
    | sensor =>
      -- the only state that shows the described unit
      cases feature with
      | none => rfl
      | some feature =>
        simp only [read, readFeature, SensorState.read]
        cases feature.scalar <;> rfl
    | _ => cases feature <;> rfl
  · cases feature with
    | none => exact congrArg (fun s => Except.ok (s, [])) h
    | some feature =>
      simp only [read, readFeature, SensorState.read]
      cases feature.scalar <;> rfl

end State

/-! ### Counterparts -/

namespace Platform

variable (platform : Platform) (extras extras' : Extras) (s : Source)

theorem newEntity_eq_with : platform.newEntity extras' s =
    { platform.newEntity extras s with
      description := (platform.binding extras' s).description } := by
  obtain ⟨device, feature, parent⟩ := s
  cases platform <;> cases feature <;> rfl

theorem newEntity_name :
    (platform.newEntity extras' s).name = (platform.newEntity extras s).name := by
  obtain ⟨device, feature, parent⟩ := s
  cases platform <;> cases feature <;> rfl

theorem description_unit (h : extras.unit = extras'.unit) :
    (platform.binding extras s).description.bind (·.unit) =
      (platform.binding extras' s).description.bind (·.unit) := by
  obtain ⟨device, feature, parent⟩ := s
  cases feature with
  | none => rfl
  | some f =>
    cases platform <;>
      simp only [binding, describe?, Description.ofFeature, Option.bind_some, Option.bind_none, h]

end Platform

/-- Two entities made of one source of a tree, each under extras of its own. -/
structure Entity.Counterparts (root : Device) (extras extras' : Extras) (e e' : Entity) :
    Prop where
  made : ∃ s ∈ e.platform.sources root, e.origin = (e.platform.newEntity extras s).origin ∧
    e'.origin = (e.platform.newEntity extras' s).origin
  entityId : e.entityId = e'.entityId
  readable : e.readable = e'.readable
  withoutUnit : e.state.withoutUnit = e'.state.withoutUnit
  state : extras.unit = extras'.unit → e.state = e'.state

theorem map_eq_map {ε α α' β : Type} {f : α → β} {g : α' → β} {x : Except ε α} {y : Except ε α'}
    (h : f <$> x = g <$> y) : (∃ e, x = .error e ∧ y = .error e) ∨
      ∃ a b, x = .ok a ∧ y = .ok b ∧ f a = g b := by
  cases x with
  | error e =>
    cases y with
    | error e' => cases h; exact Or.inl ⟨e, rfl, rfl⟩
    | ok b => cases h
  | ok a =>
    cases y with
    | error e' => cases h
    | ok b => exact Or.inr ⟨a, b, rfl, rfl, Except.ok.inj h⟩

namespace Entity.Counterparts

variable {root : Device} {extras extras' : Extras} {e e' : Entity}

theorem of_source {platform : Platform} {s : Source} (h : s ∈ platform.sources root) :
    Counterparts root extras extras' (platform.newEntity extras s)
      (platform.newEntity extras' s) where
  made := by
    rw [Platform.newEntity_platform]
    exact ⟨s, h, rfl, rfl⟩
  entityId := by rw [platform.newEntity_eq_with extras extras' s]
  readable := rfl
  withoutUnit := rfl
  state _ := rfl

section
variable (h : Counterparts root extras extras' e e')
include h

theorem origin : e'.origin = { e.origin with description := e'.description } := by
  obtain ⟨s, -, ho, ho'⟩ := h.made
  have hd : e'.description = (e.platform.newEntity extras' s).description :=
    congrArg Origin.description ho'
  rw [hd, ho, ho', e.platform.newEntity_eq_with extras extras' s]
  rfl

theorem platform : e.platform = e'.platform := (congrArg Origin.platform h.origin).symm

theorem deviceId : e.deviceId = e'.deviceId := (congrArg Origin.deviceId h.origin).symm

theorem deviceName : e.deviceName = e'.deviceName := (congrArg Origin.deviceName h.origin).symm

theorem featureId : e.featureId = e'.featureId := (congrArg Origin.featureId h.origin).symm

theorem identity : e.identity = e'.identity := (congrArg Origin.identity h.origin).symm

theorem uniqueId : e.uniqueId = e'.uniqueId := congrArg Identity.uniqueId h.identity

theorem name : e.name = e'.name := by
  obtain ⟨s, -, ho, ho'⟩ := h.made
  have hname : ∀ {o o' : Entity}, o.origin = o'.origin → o.name = o'.name := fun ho =>
    congrArg (fun o : Origin => o.identity.name <|> o.description.map (·.name)) ho
  rw [hname ho, hname ho', Platform.newEntity_name]

theorem rename (entityId : String) :
    Counterparts root extras extras' { e with entityId } { e' with entityId } where
  made := h.made
  entityId := rfl
  readable := h.readable
  withoutUnit := h.withoutUnit
  state := h.state

/-! ### Updates of counterparts -/

theorem source (snapshot : Device) : e.source snapshot = e'.source snapshot := by
  unfold Entity.source
  rw [h.deviceId, h.featureId]

theorem unit (hu : extras.unit = extras'.unit) :
    e.description.bind (·.unit) = e'.description.bind (·.unit) := by
  obtain ⟨s, -, ho, ho'⟩ := h.made
  have hd : e.description = (e.platform.binding extras s).description :=
    congrArg Origin.description ho
  have hd' : e'.description = (e.platform.binding extras' s).description :=
    congrArg Origin.description ho'
  rw [hd, hd', Platform.description_unit _ _ _ _ hu]

theorem read (snapshot : Device) : Prod.map State.withoutUnit id <$> e.read snapshot =
    Prod.map State.withoutUnit id <$> e'.read snapshot := by
  unfold Entity.read
  rw [← h.source]
  cases e.source snapshot with
  | error => rfl
  | ok found => exact State.read_withoutUnit h.withoutUnit _ _ _ _

theorem read_eq (hu : extras.unit = extras'.unit) (snapshot : Device) :
    e.read snapshot = e'.read snapshot := by
  unfold Entity.read
  rw [← h.source, h.state hu, h.unit hu]

/-- **An update** of counterparts logs the same. -/
theorem update_events (snapshot : Device) : (e.update snapshot).2 = (e'.update snapshot).2 := by
  rw [Entity.update_eq, Entity.update_eq]
  rcases map_eq_map (h.read snapshot) with ⟨error, hr, hr'⟩ | ⟨⟨s, ev⟩, ⟨s', ev'⟩, hr, hr', hs⟩
  · simp only [hr, hr', h.readable, h.deviceName, h.deviceId, h.entityId]
  · simp only [hr, hr']
    exact congrArg Prod.snd hs

/-- **An update** of counterparts leaves counterparts. -/
theorem update (snapshot : Device) :
    Counterparts root extras extras' (e.update snapshot).1 (e'.update snapshot).1 where
  made := by
    have hp : (e.update snapshot).1.platform = e.platform :=
      congrArg Origin.platform (e.update_origin snapshot)
    rw [hp, e.update_origin, e'.update_origin]
    exact h.made
  entityId := by rw [Entity.update_entityId, Entity.update_entityId, h.entityId]
  readable := by
    rcases map_eq_map (h.read snapshot) with ⟨error, hr, hr'⟩ | ⟨a, a', hr, hr', -⟩
    · rw [update_fst_of_error hr, update_fst_of_error hr']
    · rw [update_eq_of_ok hr, update_eq_of_ok hr']
  withoutUnit := by
    rcases map_eq_map (h.read snapshot) with ⟨error, hr, hr'⟩ | ⟨a, a', hr, hr', hs⟩
    · rw [update_fst_of_error hr, update_fst_of_error hr']
      exact h.withoutUnit
    · rw [update_eq_of_ok hr, update_eq_of_ok hr']
      exact congrArg Prod.fst hs
  state hu := by
    rw [Entity.update_eq, Entity.update_eq, h.read_eq hu, h.state hu]
    cases e'.read snapshot <;> rfl

end

end Entity.Counterparts

/-! ### The loop -/

/-- Two set-ups have come equally far. -/
structure Progress.InStep (root : Device) (extras extras' : Extras) (p p' : Progress) : Prop where
  keys : p.keys = p'.keys
  entityIds : p.entityIds = p'.entityIds
  events : p.events = p'.events
  entities : List.Forall₂ (Entity.Counterparts root extras extras') p.entities p'.entities

namespace Progress.InStep

variable {root : Device} {extras extras' : Extras} {p p' : Progress}

theorem log (h : InStep root extras extras' p p') (events : List Event) :
    InStep root extras extras' (p.log events) (p'.log events) :=
  ⟨h.keys, h.entityIds, congrArg (· ++ events) h.events, h.entities⟩

/-- **One candidate**: both drop it or both keep it, under the same id. -/
theorem consider (h : InStep root extras extras' p p') {e e' : Entity}
    (he : e.Counterparts root extras extras' e') (platform : Platform) :
    InStep root extras extras' (p.consider root platform e) (p'.consider root platform e') := by
  unfold Progress.consider
  -- the key is looked up and the id is chosen among the same lists
  rw [← h.keys, ← h.entityIds, ← he.uniqueId, ← he.entityId]
  split
  · exact h.log _
  · have hkept := he.rename (freeId e.entityId p.entityIds)
    exact ⟨rfl, rfl, congrArg₂ (· ++ ·) h.events (hkept.update_events root),
      List.rel_append h.entities (.cons (hkept.update root) .nil)⟩

theorem foldl_consider (platform : Platform) : ∀ {sources : List Source} {p p' : Progress},
    InStep root extras extras' p p' → (∀ s ∈ sources, s ∈ platform.sources root) →
    InStep root extras extras'
      ((sources.map (platform.newEntity extras)).foldl (Progress.consider root platform) p)
      ((sources.map (platform.newEntity extras')).foldl (Progress.consider root platform) p')
  | [], _, _, h, _ => h
  | s :: sources, _, _, h, hs => by
    have hstep := h.consider (.of_source (hs s List.mem_cons_self)) platform
    have hrest := foldl_consider platform hstep fun s' h' => hs s' (List.mem_cons_of_mem s h')
    exact hrest

theorem platform (h : InStep root extras extras' p p') (platform : Platform) :
    ∃ q q', p.platform root extras platform = .ok q ∧ p'.platform root extras' platform = .ok q' ∧
      InStep root extras extras' q q' := by
  simp only [Progress.platform, Platform.candidates_eq, List.length_map]
  exact ⟨_, _, rfl, rfl, foldl_consider platform (h.log _) fun _ hs => hs⟩

theorem table : ∀ (table : List Platform) {p p' : Progress}, InStep root extras extras' p p' →
    ∃ q q', table.foldlM (Progress.platform root extras) p = .ok q ∧
      table.foldlM (Progress.platform root extras') p' = .ok q' ∧ InStep root extras extras' q q'
  | [], p, p', h => ⟨p, p', rfl, rfl, h⟩
  | platform :: rest, p, p', h => by
    obtain ⟨q, q', hq, hq', h⟩ := h.platform platform
    rw [List.foldlM_cons, List.foldlM_cons, hq, hq']
    exact InStep.table rest h

end Progress.InStep

/-- **Set-up under different extras** makes counterparts of each other, position by position, and
logs the same. -/
theorem setUp_inStep (root : Device) (extras extras' : Extras) :
    ∃ entities entities' events, setUp root extras = .ok (entities, events) ∧
      setUp root extras' = .ok (entities', events) ∧
      List.Forall₂ (Entity.Counterparts root extras extras') entities entities' := by
  have hstart : Progress.InStep root extras extras' {} {} := ⟨rfl, rfl, rfl, .nil⟩
  obtain ⟨q, q', hq, hq', h⟩ := hstart.table Platform.all
  refine ⟨q.entities, q'.entities, q.events ++ [.setUp q.entities.length root.name], ?_, ?_,
    h.entities⟩
  · rw [setUp, setUpWith, hq]
  · rw [setUp, setUpWith, hq', h.events, h.entities.length_eq]

end HomeEntities
