import HomeEntities.Proofs.Entity.Hooks

/-! # Updates of an entity

An update changes the state of an entity and whether it is readable, and nothing of what it was made
with (`Entity.origin`). Whether it succeeds (`Entity.reads`) is a matter of the origin and of the
tree alone, not of what was read before (`reads_eq_of_origin`); `update_readable` and
`update_warnings` say what becomes of the flag and of the log, which tells of a failure only if the
entity was readable before. -/

namespace HomeEntities

/-! ### What an entity was made with -/

/-- Whether a state has nothing to read. Set-up makes no such entities. -/
def State.isFixed : State → Bool
  | fixed .. => true
  | _ => false

/-- What stays of an entity as it was made. -/
structure Origin where
  platform : Platform
  fixed : Bool
  deviceId : String
  deviceName : String
  featureId : Option String
  identity : Identity
  description : Option Description

def Entity.origin (e : Entity) : Origin :=
  ⟨e.platform, e.state.isFixed, e.deviceId, e.deviceName, e.featureId, e.identity, e.description⟩

def Origin.key (o : Origin) : Platform × String := (o.platform, o.identity.uniqueId)

/-- The platform and the unique id of an entity. -/
def Entity.key (e : Entity) : Platform × String := (e.platform, e.uniqueId)

theorem Entity.key_eq (e : Entity) : e.key = e.origin.key := rfl

theorem map_eq_ok {ε α β : Type} {f : α → β} {x : Except ε α} {b : β} :
    f <$> x = .ok b ↔ ∃ a, x = .ok a ∧ f a = b := by
  cases x <;> simp [Functor.map, Except.map]

theorem State.readFeature_kind {feature : Feature} {described : Option String} {s s' : State}
    (h : s.readFeature feature described = .ok s') :
    s'.platform = s.platform ∧ s'.isFixed = s.isFixed := by
  cases s with
  | button | climate | light | fixed => cases h; exact ⟨rfl, rfl⟩
  | _ => obtain ⟨_, -, rfl⟩ := map_eq_ok.mp h; exact ⟨rfl, rfl⟩

theorem State.read_kind {device : Device} {feature : Option Feature}
    {described : Option String} {s s' : State} {events : List Event}
    (h : s.read device feature described = .ok (s', events)) :
    s'.platform = s.platform ∧ s'.isFixed = s.isFixed := by
  cases s with
  | climate | light => obtain ⟨_, -, he⟩ := map_eq_ok.mp h; cases he; exact ⟨rfl, rfl⟩
  | _ =>
    cases feature with
    | none => cases h; exact ⟨rfl, rfl⟩
    | some feature =>
      obtain ⟨u, hu, he⟩ := map_eq_ok.mp h
      cases he
      exact readFeature_kind hu

/-! ### What a reading notes -/

theorem ClimateState.read_events {device : Device} {s : ClimateState} {events : List Event}
    (h : ClimateState.read device = .ok (s, events)) :
    ∀ event ∈ events, ∃ mode, event = .unknownThermostatState mode := by
  unfold ClimateState.read at h
  simp only [bind, Except.bind] at h
  repeat' split at h
  all_goals cases h <;> simp

/-- A reading that succeeds notes nothing but modes of thermostats that are not known. -/
theorem State.read_events {device : Device} {feature : Option Feature}
    {described : Option String} {s s' : State} {events : List Event}
    (h : s.read device feature described = .ok (s', events)) :
    ∀ event ∈ events, ∃ mode, event = .unknownThermostatState mode := by
  cases s with
  | climate =>
    obtain ⟨_, hr, he⟩ := map_eq_ok.mp h
    cases he
    exact ClimateState.read_events hr
  | light => obtain ⟨_, -, he⟩ := map_eq_ok.mp h; cases he; simp
  | _ =>
    cases feature with
    | none => cases h; simp
    | some feature => obtain ⟨_, -, he⟩ := map_eq_ok.mp h; cases he; simp

/-! ### Whether a reading succeeds -/

theorem isOk_map {ε α β : Type} (f : α → β) (x : Except ε α) : (f <$> x).isOk = x.isOk := by
  cases x <;> rfl

/-- Whether entities of a platform can be read from a device, and from the feature behind them. -/
def Platform.canRead (platform : Platform) (device : Device) (feature : Option Feature) : Bool :=
  match platform, feature with
  | climate, _ => (ClimateState.read device).isOk
  | light, _ => (LightState.read device).isOk
  | binarySensor, some f | switch, some f => f.boolean.isOk
  | number, some f => f.number.isOk
  | select, some f => f.text.isOk
  | sensor, some f => f.scalar.isOk
  | _, _ => true

/-- **Whether a reading succeeds** does not depend on what was read before. -/
theorem State.isOk_read (device : Device) (feature : Option Feature) (described : Option String)
    (s : State) : (s.read device feature described).isOk =
      (s.isFixed || s.platform.canRead device feature) := by
  cases s with
  | climate | light => exact isOk_map _ _
  | button | fixed => cases feature <;> rfl
  | binarySensor | switch =>
    cases feature with
    | none => rfl
    | some f => exact (isOk_map _ _).trans (isOk_map _ _)
  | number =>
    cases feature with
    | none => rfl
    | some f =>
      refine (isOk_map _ _).trans ((isOk_map _ _).trans ?_)
      show (NumberState.read f).isOk = f.number.isOk
      unfold NumberState.read
      cases f.number <;> rfl
  | select old =>
    cases feature with
    | none => rfl
    | some f =>
      refine (isOk_map _ _).trans ((isOk_map _ _).trans ?_)
      show (SelectState.read f old).isOk = f.text.isOk
      unfold SelectState.read
      cases f.text <;> rfl
  | sensor =>
    cases feature with
    | none => rfl
    | some f =>
      refine (isOk_map _ _).trans ((isOk_map _ _).trans ?_)
      show (SensorState.read f described).isOk = f.scalar.isOk
      unfold SensorState.read
      cases f.scalar <;> rfl

/-- The entity of which an event tells that it could not be read. -/
def Event.unreadable? : Event → Option String
  | unreadable _ _ entityId _ => some entityId
  | _ => none

namespace Entity

/-- Whether the entity can be read from a tree. -/
def reads (snapshot : Device) (e : Entity) : Bool := (e.read snapshot).isOk

variable (snapshot : Device) (e : Entity)

theorem reads_eq : e.reads snapshot = match e.source snapshot with
    | .error _ => false
    | .ok (device, feature) => e.state.isFixed || e.platform.canRead device feature := by
  unfold reads read
  cases e.source snapshot with
  | error => rfl
  | ok found => exact State.isOk_read found.1 found.2 _ e.state

variable {snapshot e} in
theorem reads_of_ok {result : State × List Event} (h : e.read snapshot = .ok result) :
    e.reads snapshot = true := by
  unfold reads; rw [h]; rfl

variable {snapshot e} in
theorem reads_of_error {error : ReadError} (h : e.read snapshot = .error error) :
    e.reads snapshot = false := by
  unfold reads; rw [h]; rfl

variable {snapshot e} in
theorem exists_source_of_read {result : State × List Event} (h : e.read snapshot = .ok result) :
    ∃ device feature, e.source snapshot = .ok (device, feature) ∧
      e.state.read device feature (e.description.bind (·.unit)) = .ok result := by
  unfold read at h
  cases hsource : e.source snapshot with
  | error => rw [hsource] at h; cases h
  | ok found =>
    rw [hsource] at h
    exact ⟨found.1, found.2, rfl, h⟩

variable {snapshot e} in
theorem source_eq_of_origin {e' : Entity} (h : e.origin = e'.origin) :
    e.source snapshot = e'.source snapshot := by
  have hd : e.deviceId = e'.deviceId := congrArg Origin.deviceId h
  have hf : e.featureId = e'.featureId := congrArg Origin.featureId h
  unfold source
  rw [hd, hf]

variable {snapshot e} in
theorem reads_eq_of_origin {e' : Entity} (h : e.origin = e'.origin) :
    e.reads snapshot = e'.reads snapshot := by
  have hp : e.platform = e'.platform := congrArg Origin.platform h
  have hk : e.state.isFixed = e'.state.isFixed := congrArg Origin.fixed h
  rw [reads_eq, reads_eq, source_eq_of_origin h, hp, hk]

/-! ### Updates -/

variable {snapshot e} in
theorem update_eq_of_ok {s : State} {events : List Event} (h : e.read snapshot = .ok (s, events)) :
    e.update snapshot = ({ e with state := s, readable := true }, events) := by
  rw [update_eq, h]

variable {snapshot e} in
theorem update_fst_of_error {error : ReadError} (h : e.read snapshot = .error error) :
    (e.update snapshot).1 = { e with readable := false } := by
  rw [update_eq, h]

@[simp] theorem update_origin : (e.update snapshot).1.origin = e.origin := by
  cases h : e.read snapshot with
  | error => rw [update_fst_of_error h]; rfl
  | ok result =>
    obtain ⟨s, events⟩ := result
    obtain ⟨device, feature, -, hread⟩ := exists_source_of_read h
    obtain ⟨hp, hf⟩ := State.read_kind hread
    rw [update_eq_of_ok h]
    simp only [origin, platform, hp, hf]

@[simp] theorem update_entityId : (e.update snapshot).1.entityId = e.entityId := by
  rw [update_eq]; split <;> rfl

theorem update_readable : (e.update snapshot).1.readable = e.reads snapshot := by
  rw [update_eq]
  unfold reads
  split
  · rename_i h; rw [h]; rfl
  · rename_i h; rw [h]; rfl

theorem update_reads (snapshot' : Device) :
    (e.update snapshot').1.reads snapshot = e.reads snapshot :=
  reads_eq_of_origin (e.update_origin snapshot')

/-- What a digest of the log passes over in readings that succeed. -/
theorem filterMap_read_events {β : Type} {digest : Event → Option β}
    (hd : ∀ mode, digest (.unknownThermostatState mode) = none) {s : State} {events : List Event}
    (h : e.read snapshot = .ok (s, events)) : events.filterMap digest = [] := by
  obtain ⟨device, feature, -, hread⟩ := exists_source_of_read h
  refine List.filterMap_eq_nil_iff.mpr fun event hmem => ?_
  obtain ⟨mode, rfl⟩ := State.read_events hread event hmem
  exact hd mode

theorem filterMap_update {β : Type} {digest : Event → Option β}
    (hd : ∀ mode, digest (.unknownThermostatState mode) = none)
    (hu : ∀ name deviceId id error, digest (.unreadable name deviceId id error) = none) :
    (e.update snapshot).2.filterMap digest = [] := by
  rw [update_eq]
  split
  · rename_i s events h
    exact filterMap_read_events snapshot e hd h
  · split
    · simp [hu]
    · rfl

/-- **A failure is logged** if the entity was readable before. -/
theorem update_warnings : (e.update snapshot).2.filterMap Event.unreadable? =
    if e.readable && !e.reads snapshot then [e.entityId] else [] := by
  cases hr : e.read snapshot with
  | ok result =>
    obtain ⟨s, events⟩ := result
    have hev : events.filterMap Event.unreadable? = [] :=
      filterMap_read_events snapshot e (fun _ => rfl) hr
    simp only [update_eq, hr, reads_of_ok hr, hev, Bool.not_true, Bool.and_false,
      Bool.false_eq_true, if_false]
  | error error =>
    simp only [update_eq, hr, reads_of_error hr, Bool.not_false, Bool.and_true]
    split <;> rfl

end Entity

end HomeEntities
