import HomeEntities.Proofs.Session.Bounds
import HomeEntities.Proofs.Session.ReadBack

/-! # Which bounds are held

The bounds that a number is checked against are those of the state, and a state is taken over as a
whole or not at all. So an entity holds the bounds of the last tree that it could be read from
(`Entity.Sets.after`); if there was none, a number still holds those of the feature that it was made
of, and a thermostat none at all (`Platform.firstBounds`). `Session.ReadFrom` tells of the trees
that an entity was read from; every entity of a reachable session has such a history
(`Reachable.exists_readFrom`).

If an entity could be read from the snapshot, the bounds in the snapshot are enforced. If it could
not, they are not, although they are there (`Session.valveSession_unbounded`). -/

namespace HomeEntities

open Decimal

/-! ### Bounds in trees -/

namespace Entity

/-- The feature of a tree that a number set on the entity is written to. -/
def target? (e : Entity) (tree : Device) : Option Feature :=
  (tree.find? e.deviceId).bind fun d =>
    if e.platform = .climate then d.feature? ClimateState.targetId else e.featureId.bind d.feature?

/-- The bounds that the entity takes over from a tree. A tree that it cannot be read from does not
count. -/
def bounds? (e : Entity) (tree : Device) : Option (Option Binary64 × Option Binary64) :=
  if e.reads tree then (e.target? tree).map fun f => (f.minimum, f.maximum) else none

theorem target?_eq_of_origin {e e' : Entity} (h : e.origin = e'.origin) :
    e.target? = e'.target? := by
  have hp : e.platform = e'.platform := congrArg Origin.platform h
  have hd : e.deviceId = e'.deviceId := congrArg Origin.deviceId h
  have hf : e.featureId = e'.featureId := congrArg Origin.featureId h
  funext tree
  unfold target?
  rw [hp, hd, hf]

theorem bounds?_eq_of_origin {e e' : Entity} (h : e.origin = e'.origin) :
    e.bounds? = e'.bounds? := by
  funext tree
  unfold bounds?
  rw [reads_eq_of_origin h, target?_eq_of_origin h]

theorem bounds?_of_reads {e : Entity} {tree : Device} (h : e.reads tree = true) {f : Feature}
    (hf : e.target? tree = some f) : e.bounds? tree = some (f.minimum, f.maximum) := by
  unfold bounds?
  rw [if_pos h, hf]
  rfl

variable {e : Entity} {set : Binary64 → Action} {minimum maximum : Option Binary64}

theorem bounds?_of_error {tree : Device} {error : ReadError} (h : e.read tree = .error error) :
    e.bounds? tree = none := by
  unfold bounds?
  rw [reads_of_error h]
  rfl

theorem Sets.congr {e' : Entity} (h : e.Sets set minimum maximum) (hs : e'.state = e.state) :
    e'.Sets set minimum maximum := by
  cases h with
  | number hstate => exact .number (hs.trans hstate)
  | climate hstate => exact .climate (hs.trans hstate)

theorem Sets.unique {set' : Binary64 → Action} {minimum' maximum' : Option Binary64}
    (h : e.Sets set minimum maximum) (h' : e.Sets set' minimum' maximum') :
    set = set' ∧ (minimum, maximum) = (minimum', maximum') := by
  cases h with
  | number hs =>
    cases h' with
    | number hs' => cases hs.symm.trans hs'; exact ⟨rfl, rfl⟩
    | climate hs' => cases hs.symm.trans hs'
  | climate hs =>
    cases h' with
    | number hs' => cases hs.symm.trans hs'
    | climate hs' => cases hs.symm.trans hs'; exact ⟨rfl, rfl⟩

/-! ### Readings -/

variable {tree : Device} {s' : State} {events : List Event}

/-- What a number reads: its value and bounds, or nothing if there is no feature behind it. -/
theorem number_of_read {s : NumberState} (hs : e.state = .number s)
    (h : e.read tree = .ok (s', events)) :
    (e.target? tree = none ∧ s' = .number s) ∨
      ∃ f value, e.target? tree = some f ∧ s' = .number ⟨value, f.minimum, f.maximum⟩ := by
  have hnumber : e.platform = .number := congrArg State.platform hs
  have hp : e.platform ≠ .climate := by rw [hnumber]; decide
  obtain ⟨d, feature, hsource, hread⟩ := exists_source_of_read h
  rw [hs] at hread
  obtain ⟨hd, ⟨hnone, rfl⟩ | ⟨id, f, hid, hf, rfl⟩⟩ := source_eq_ok.mp hsource
  · cases hread
    left
    unfold target?
    rw [hd, Option.bind_some, if_neg hp, hnone]
    exact ⟨rfl, rfl⟩
  · right
    obtain ⟨t, ht, he⟩ := map_eq_ok.mp hread
    obtain ⟨new, hnew, rfl⟩ := map_eq_ok.mp ht
    obtain ⟨value, -, hvalue⟩ := bind_eq_ok.mp hnew
    cases he
    cases hvalue
    unfold target?
    rw [hd, Option.bind_some, if_neg hp, hid]
    exact ⟨f, some value, hf, rfl⟩

theorem climate_of_read {s : ClimateState} (hs : e.state = .climate s)
    (h : e.read tree = .ok (s', events)) :
    ∃ f state, e.target? tree = some f ∧ s' = .climate state ∧ state.minimum = f.minimum ∧
      state.maximum = f.maximum := by
  have hp : e.platform = .climate := congrArg State.platform hs
  obtain ⟨d, feature, hsource, hread⟩ := exists_source_of_read h
  obtain ⟨hd, -⟩ := source_eq_ok.mp hsource
  rw [hs] at hread
  obtain ⟨⟨state, notes⟩, hstate, he⟩ := map_eq_ok.mp hread
  obtain ⟨f, on, mode, j, x, y, hf, -, -, -, -, -, rfl, -⟩ := ClimateState.read_eq_ok.mp hstate
  cases he
  refine ⟨f, _, ?_, rfl, rfl, rfl⟩
  unfold target?
  rw [hd, Option.bind_some, if_pos hp, hf]

/-- **An update** takes over the bounds of the tree, if the entity can be read from it. -/
theorem Sets.update (h : e.Sets set minimum maximum) (tree : Device) :
    ∃ minimum' maximum', (e.update tree).1.Sets set minimum' maximum' ∧
      (minimum', maximum') = (e.bounds? tree).getD (minimum, maximum) := by
  cases hr : e.read tree with
  | error error =>
    rw [update_fst_of_error hr, bounds?_of_error hr]
    exact ⟨minimum, maximum, h.congr rfl, rfl⟩
  | ok result =>
    obtain ⟨s', events⟩ := result
    have hreads := reads_of_ok hr
    rw [update_eq_of_ok hr]
    cases h with
    | number hs =>
      obtain ⟨hnone, rfl⟩ | ⟨f, value, hf, rfl⟩ := number_of_read hs hr
      · refine ⟨_, _, .number rfl, ?_⟩
        unfold bounds?
        rw [if_pos hreads, hnone]
        rfl
      · refine ⟨_, _, .number rfl, ?_⟩
        rw [bounds?_of_reads hreads hf]
        rfl
    | climate hs =>
      obtain ⟨f, state, hf, rfl, hmin, hmax⟩ := climate_of_read hs hr
      refine ⟨_, _, .climate rfl, ?_⟩
      rw [bounds?_of_reads hreads hf, hmin, hmax]
      rfl

/-- **The bounds held** are those of the last tree that the entity could be read from, or those that
it began with. -/
theorem Sets.after {history : List Device} : ∀ {e : Entity} {minimum maximum : Option Binary64},
    e.Sets set minimum maximum →
      ∃ minimum' maximum', (e.after history).Sets set minimum' maximum' ∧
        (minimum', maximum') = (history.filterMap e.bounds?).getLast?.getD (minimum, maximum) := by
  induction history with
  | nil => exact fun h => ⟨_, _, h, rfl⟩
  | cons tree history ih =>
    intro e minimum maximum h
    obtain ⟨minimum₁, maximum₁, h₁, heq₁⟩ := h.update tree
    obtain ⟨minimum', maximum', h', heq⟩ := ih h₁
    refine ⟨minimum', maximum', h', heq.trans ?_⟩
    rw [heq₁, bounds?_eq_of_origin (e.update_origin tree), getD_getLast?_filterMap_cons]

end Entity

/-- The bounds that an entity holds before it is read. -/
def Platform.firstBounds (platform : Platform) (source : Source) :
    Option Binary64 × Option Binary64 :=
  if platform = .number then
    (source.feature.bind (·.minimum), source.feature.bind (·.maximum))
  else (none, none)

theorem Entity.Sets.newEntity {e : Entity} {set : Binary64 → Action}
    {minimum maximum : Option Binary64} (h : e.Sets set minimum maximum) (extras : Extras)
    (source : Source) : (e.platform.newEntity extras source).Sets set
      (e.platform.firstBounds source).1 (e.platform.firstBounds source).2 := by
  cases h with
  | number hs =>
    have hp : e.platform = .number := congrArg State.platform hs
    rw [hp]
    exact @Entity.Sets.number (Platform.number.newEntity extras source)
      { minimum := source.feature.bind (·.minimum), maximum := source.feature.bind (·.maximum) } rfl
  | climate hs =>
    have hp : e.platform = .climate := congrArg State.platform hs
    rw [hp]
    exact @Entity.Sets.climate (Platform.climate.newEntity extras source) {} rfl

/-! ### What an entity was read from -/

theorem Entity.state_update_congr {e e' : Entity} (ho : e.origin = e'.origin)
    (hs : e.state = e'.state) (tree : Device) :
    (e.update tree).1.state = (e'.update tree).1.state := by
  have hd : e.description = e'.description := congrArg Origin.description ho
  have hread : e.read tree = e'.read tree := by
    unfold read
    rw [source_eq_of_origin ho, hs, hd]
  cases h : e.read tree with
  | error error => rw [update_fst_of_error h, update_fst_of_error (hread ▸ h), hs]
  | ok result => rw [update_eq_of_ok h, update_eq_of_ok (hread ▸ h)]

/-- What an entity is by its history: its state is what the readings made of it one after the other,
and it is readable if the last of them succeeded. -/
structure Entity.MadeBy (root : Device) (trees : List Device) (e : Entity) : Prop where
  state : ∃ extras source, e.MadeOf root extras source ∧
    e.state = ((e.platform.newEntity extras source).after trees).state
  readable : ∀ tree ∈ trees.getLast?, e.readable = e.reads tree

namespace Entity.MadeBy

variable {root : Device} {trees : List Device} {e : Entity} (h : e.MadeBy root trees)
include h

theorem rename (entityId : String) : MadeBy root trees { e with entityId } :=
  ⟨h.state, h.readable⟩

theorem update (tree : Device) : (e.update tree).1.MadeBy root (trees ++ [tree]) := by
  obtain ⟨extras, source, hmade, hstate⟩ := h.state
  have ho := e.update_origin tree
  have hp : (e.update tree).1.platform = e.platform := congrArg Origin.platform ho
  refine ⟨⟨extras, source, ?_, ?_⟩, fun tree' hlast => ?_⟩
  · unfold Entity.MadeOf
    rw [hp, ho]
    exact hmade
  · have horigin : e.origin = ((e.platform.newEntity extras source).after trees).origin :=
      hmade.2.trans (Entity.after_origin trees _).symm
    rw [hp, Entity.after_concat]
    exact Entity.state_update_congr horigin hstate tree
  · rw [List.getLast?_concat, Option.mem_some] at hlast
    subst hlast
    rw [e.update_readable, e.update_reads]

end Entity.MadeBy

theorem madeBy_of_mem_setUpEntities {root : Device} {extras : Extras} {e : Entity}
    (h : e ∈ setUpEntities Platform.all root extras) : e.MadeBy root [root] := by
  obtain ⟨c, hc, entityId, rfl⟩ := exists_candidate_of_mem_settle h
  obtain ⟨p, -, source, hsource, rfl⟩ := mem_candidatesOf.mp (mem_of_mem_firsts _ hc)
  have hp : ({ p.newEntity extras source with entityId } : Entity).platform = p :=
    Platform.newEntity_platform p extras source
  have hfirst : Entity.MadeBy root [] { p.newEntity extras source with entityId } := by
    refine ⟨⟨extras, source, ?_, ?_⟩, fun tree hlast => by cases hlast⟩
    · unfold Entity.MadeOf
      rw [hp]
      exact ⟨hsource, rfl⟩
    · rw [hp]
      rfl
  exact hfirst.update root

namespace Session

variable {σ : Type} {client : Client σ}

/-- The entity in a place was made when a tree was set up, and was read from some trees in turn
since, the first time by set-up itself. -/
inductive ReadFrom (client : Client σ) (i : Nat) : Device → List Device → Session σ → Prop
  | setUp (s : Session σ) (extras : Extras) : ReadFrom client i s.connection.coordinator.snapshot
      [s.connection.coordinator.snapshot] (s.step client extras .setUp).2
  | read {s : Session σ} {root : Device} {trees : List Device} (h : ReadFrom client i root trees s)
      (extras : Extras) (step : Step σ) (hu : step.updates i = true) :
      ReadFrom client i root (trees ++ [s.connection.coordinator.snapshot])
        (s.step client extras step).2
  | keep {s : Session σ} {root : Device} {trees : List Device} (h : ReadFrom client i root trees s)
      (extras : Extras) (step : Step σ) (hr : step.rereads i = false) (hb : step.isBind = false) :
      ReadFrom client i root trees (s.step client extras step).2

/-- What a step that is no set-up makes of the entity in a place: it is read anew or renamed, or
stays as it was. -/
theorem step_place (extras : Extras) {s : Session σ} {step : Step σ} (hs : step ≠ .setUp)
    (hb : step.isBind = false) {i : Nat} {e : Entity}
    (he : (s.step client extras step).2.entities[i]? = some e) :
    ∃ c, s.entities[i]? = some c ∧ ∃ entityId,
      e = { if step.rereads i then c.updated s.connection.coordinator.snapshot else c with
            entityId } := by
  cases step with
  | setUp => exact absurd rfl hs
  | bind => cases hb
  | rename index entityId =>
    simp only [Session.step] at he
    split at he
    · exact ⟨e, he, e.entityId, rfl⟩
    · rename_i c hc
      rw [List.getElem?_set] at he
      split at he
      · rename_i hi
        split at he
        · cases he
          exact ⟨c, hi ▸ hc, entityId, rfl⟩
        · cases he
      · exact ⟨e, he, e.entityId, rfl⟩
  | _ =>
    obtain ⟨c, hc, he'⟩ := step_entity extras rfl he
    exact ⟨c, hc, e.entityId, by rw [← he']⟩

/-- **Every entity** of a reachable session was made and read. -/
theorem Reachable.exists_readFrom {s : Session σ} (hs : s.Reachable client) {i : Nat} {e : Entity}
    (he : s.entities[i]? = some e) : ∃ root trees, ReadFrom client i root trees s := by
  induction hs generalizing e with
  | connect h =>
    unfold Session.connect at h
    obtain ⟨c, -, rfl⟩ := map_eq_ok.mp h
    cases he
  | @step s _ extras step hb ih =>
    by_cases hset : step = .setUp
    · subst hset
      exact ⟨_, _, .setUp s extras⟩
    · obtain ⟨c, hc, -⟩ := step_place extras hset hb he
      obtain ⟨root, trees, h⟩ := ih hc
      by_cases hu : step.updates i = true
      · exact ⟨root, _, h.read extras step hu⟩
      · have hr : step.rereads i = false := by
          cases step with
          | setUp => exact absurd rfl hset
          | _ => exact Bool.eq_false_iff.mpr hu
        exact ⟨root, trees, h.keep extras step hr hb⟩

/-- **An entity is made by its history.** -/
theorem ReadFrom.madeBy {i : Nat} {root : Device} {trees : List Device} {s : Session σ}
    (h : ReadFrom client i root trees s) {e : Entity} (he : s.entities[i]? = some e) :
    e.MadeBy root trees := by
  induction h generalizing e with
  | setUp s extras =>
    obtain ⟨events, hstep, -⟩ := step_setUp client s extras
    rw [hstep] at he
    exact madeBy_of_mem_setUpEntities (List.mem_of_getElem? he)
  | @read s root trees _ extras step hu ih =>
    have hset : step ≠ .setUp := by rintro rfl; cases hu
    have hb : step.isBind = false := by cases step <;> first | rfl | cases hu
    have hr : step.rereads i = true := by cases step <;> first | rfl | exact hu
    obtain ⟨c, hc, entityId, rfl⟩ := step_place extras hset hb he
    rw [if_pos hr]
    exact ((ih hc).update _).rename entityId
  | @keep s root trees _ extras step hr hb ih =>
    have hset : step ≠ .setUp := by rintro rfl; cases hr
    obtain ⟨c, hc, entityId, rfl⟩ := step_place extras hset hb he
    rw [if_neg (by rw [hr]; exact Bool.false_ne_true)]
    exact (ih hc).rename entityId

/-- **The bounds held** by an entity with a history. -/
theorem ReadFrom.bounds {i : Nat} {root : Device} {trees : List Device} {s : Session σ}
    (hr : ReadFrom client i root trees s) {e : Entity} (he : s.entities[i]? = some e)
    {set : Binary64 → Action} {minimum maximum : Option Binary64}
    (h : e.Sets set minimum maximum) : ∃ extras source, e.MadeOf root extras source ∧
      (minimum, maximum) =
        (trees.filterMap e.bounds?).getLast?.getD (e.platform.firstBounds source) := by
  obtain ⟨extras, source, hmade, hstate⟩ := (hr.madeBy he).state
  obtain ⟨minimum', maximum', hafter, hbounds⟩ := (h.newEntity extras source).after
  obtain ⟨-, heq⟩ := h.unique (hafter.congr hstate)
  refine ⟨extras, source, hmade, ?_⟩
  rw [heq, hbounds, Entity.bounds?_eq_of_origin hmade.2]

/-- **Which bounds are enforced.** In a reachable session let an entity with a number to be set have
been read last from the snapshot that the coordinator still has. It refuses the numbers out of the
bounds that it holds, with nothing written and nothing else changed, and writes the others. If it is
readable, whether or not the last fetch succeeded, the bounds it holds are those of its target in
the snapshot. If it is not, they are those of the last tree before that it could be read from; or,
if there was none since set-up, those it began with. -/
theorem Reachable.bounds_enforced {s : Session σ} (hs : s.Reachable client) {i : Nat} {e : Entity}
    (he : s.entities[i]? = some e) {set : Binary64 → Action} {minimum maximum : Option Binary64}
    (h : e.Sets set minimum maximum) {root : Device} {earlier : List Device}
    (hr : ReadFrom client i root (earlier ++ [s.connection.coordinator.snapshot]) s)
    (extras : Extras) :
    (∀ x, inRange x minimum maximum = false → s.step client extras (.act i (set x)) =
      (.actionError (.invalidInput (set x).func ((Refusal.outOfRange x).reason e.entityId)), s)) ∧
    (∀ x, inRange x minimum maximum = true →
      (∀ func reason, (s.step client extras (.act i (set x))).1 ≠
        .actionError (.invalidInput func reason)) ∧
      ∀ n, s.WritesInt client extras i (set x) n ↔ n = x.toInt64) ∧
    (e.readable = true → ∀ target, e.target? s.connection.coordinator.snapshot = some target →
      minimum = target.minimum ∧ maximum = target.maximum) ∧
    (e.readable = false → ∃ extras source, e.MadeOf root extras source ∧ (minimum, maximum) =
      (earlier.filterMap e.bounds?).getLast?.getD (e.platform.firstBounds source)) := by
  obtain ⟨extras', source, hmade, hbounds⟩ := hr.bounds he h
  have hreadable : e.readable = e.reads s.connection.coordinator.snapshot :=
    (hr.madeBy he).readable _ (by rw [List.getLast?_concat]; rfl)
  rw [List.filterMap_append] at hbounds
  refine ⟨fun x => step_of_outOfRange he h extras, fun x => hs.step_of_inRange he h extras,
    fun hread target htarget => ?_, fun hread => ⟨extras', source, hmade, ?_⟩⟩
  · -- the snapshot names the bounds, and it was read last
    have hlast := Entity.bounds?_of_reads (hreadable.symm.trans hread) htarget
    rw [List.filterMap_cons, hlast, List.filterMap_nil, List.getLast?_concat] at hbounds
    exact Prod.mk.inj hbounds
  · -- the snapshot does not count, so that the trees before it decide
    have hnone : e.bounds? s.connection.coordinator.snapshot = none := by
      unfold Entity.bounds?
      rw [← hreadable, hread]
      rfl
    rw [List.filterMap_cons, hnone, List.filterMap_nil, List.append_nil] at hbounds
    exact hbounds

/-! ### A sprinkler whose bounds become narrower -/

/-- A sprinkler whose rate is at least one. -/
def sprinkler (rate : Json) (maximum : Int) : Device where
  id := "8014"
  name := "Sprinkler"
  model := "S500"
  mac := "50:C7:BF:00:00:14"
  type := .wallSwitch
  features := [
    { id := "rate", name := "Rate", type := .number, category := .config
      value := rate
      minimum := some (.ofInt 1)
      maximum := some (.ofInt maximum) }]

/-- The session of the sprinkler before set-up. -/
def sprinklerStart : Session Client.Faulty where
  connection := {
    client := { root := sprinkler (.int 3) 10 }
    coordinator := { snapshot := sprinkler (.int 3) 10 }
    exchanges := [.fetch (.ok (sprinkler (.int 3) 10))] }

/-- The session of the sprinkler: the upper bound goes from ten to five, the entity is updated, and
then the sprinkler does not answer any more. -/
def sprinklerSession : Session Client.Faulty :=
  sprinklerStart.run Client.faulty {} [
    .setUp, .alter fun c => { c with root := sprinkler (.int 3) 5 }, .refresh, .updateAll,
    .alter fun c => { c with fetchFault := some ⟨.timeout, "no answer"⟩ }, .refresh]

theorem sprinklerSession_reachable : sprinklerSession.Reachable Client.faulty :=
  (@Reachable.connect _ Client.faulty { root := sprinkler (.int 3) 10 } _ rfl).run {}
    (by simp [Step.isBind])

theorem sprinklerSession_readFrom : ReadFrom Client.faulty 0 (sprinkler (.int 3) 10)
    ([sprinkler (.int 3) 10] ++ [sprinkler (.int 3) 5]) sprinklerSession := by
  have hset := @ReadFrom.setUp _ Client.faulty 0 sprinklerStart {}
  have hnarrow := (hset.keep {} (.alter fun c => { c with root := sprinkler (.int 3) 5 }) rfl
    rfl).keep {} .refresh rfl rfl
  have hread := hnarrow.read {} .updateAll rfl
  exact (hread.keep {} (.alter fun c => { c with fetchFault := some ⟨.timeout, "no answer"⟩ }) rfl
    rfl).keep {} .refresh rfl rfl

theorem seven_outOfRange : inRange (.ofInt 7) (some (.ofInt 1)) (some (.ofInt 5)) = false := by
  decide +kernel

theorem bounds_enforced_sprinkler :
    sprinklerSession.Reachable Client.faulty ∧
      sprinklerSession.connection.coordinator.snapshot = sprinkler (.int 3) 5 ∧
      ReadFrom Client.faulty 0 (sprinkler (.int 3) 10)
        ([sprinkler (.int 3) 10] ++ [sprinkler (.int 3) 5]) sprinklerSession ∧
      ∃ e, sprinklerSession.entities[0]? = some e ∧
        e.Sets .setNativeValue (some (.ofInt 1)) (some (.ofInt 5)) ∧ e.readable = true ∧
        e.available sprinklerSession.connection.coordinator = false ∧
        sprinklerSession.step Client.faulty {} (.act 0 (.setNativeValue (.ofInt 7))) =
          (.actionError (.invalidInput "set_native_value"
            ((Refusal.outOfRange (.ofInt 7)).reason e.entityId)), sprinklerSession) := by
  have hentity : (sprinklerSession.entities[0]?).map (fun e => (e.state, e.readable)) =
      some (.number ⟨some (.ofInt 3), some (.ofInt 1), some (.ofInt 5)⟩, true) := rfl
  obtain ⟨e, he, hs⟩ := Option.map_eq_some_iff.mp hentity
  obtain ⟨hstate, hreadable⟩ := Prod.mk.inj hs
  have hsets : e.Sets .setNativeValue (some (.ofInt 1)) (some (.ofInt 5)) := .number hstate
  obtain ⟨hrefused, -⟩ :=
    sprinklerSession_reachable.bounds_enforced he hsets sprinklerSession_readFrom {}
  exact ⟨sprinklerSession_reachable, rfl, sprinklerSession_readFrom, e, he, hsets, hreadable, rfl,
    hrefused _ seven_outOfRange⟩

/-! ### A thermostat without a mode -/

/-- A hub with a thermostat that may be set to five to thirty degrees, but names no mode. -/
def cellar : Device where
  id := "8015"
  name := "Cellar"
  model := "KH100"
  mac := "50:C7:BF:00:00:15"
  type := .hub
  children := [{
    id := "8016"
    name := "Valve"
    model := "KE100"
    mac := "50:C7:BF:00:00:16"
    type := .thermostat
    features := [
      { id := stateId, name := "State", type := .unknown, category := .primary
        value := .bool true },
      { id := ClimateState.currentId, name := "Temperature", type := .unknown
        category := .primary, value := .int 20 },
      { id := ClimateState.targetId, name := "Target", type := .unknown, category := .primary
        value := .int 21
        minimum := some (.ofInt 5)
        maximum := some (.ofInt 30) }] }]

/-- The session of the thermostat before set-up. -/
def valveStart : Session Device where
  connection := {
    client := cellar
    coordinator := { snapshot := cellar }
    exchanges := [.fetch (.ok cellar)] }

/-- The session of the thermostat after set-up and another update. -/
def valveSession : Session Device := valveStart.run Client.tree {} [.setUp, .update 0]

theorem valveSession_reachable : valveSession.Reachable Client.tree :=
  (@Reachable.connect _ Client.tree cellar _ rfl).run {} (by simp [Step.isBind])

theorem thirtyFive_outOfRange :
    inRange (.ofInt 35) (some (.ofInt 5)) (some (.ofInt 30)) = false := by decide +kernel

theorem thirtyFive_inRange : inRange (.ofInt 35) none none = true := by decide +kernel

theorem thirtyFive_toInt64 : (Binary64.ofInt 35).toInt64 = 35 := by decide +kernel

/-- **Bounds of the snapshot that are not enforced**: the thermostat was read from the snapshot, in
which its target has bounds, and it takes a temperature out of them. -/
theorem valveSession_unbounded :
    valveSession.Reachable Client.tree ∧
      valveSession.connection.coordinator.snapshot = cellar ∧
      ReadFrom Client.tree 0 cellar ([cellar] ++ [cellar]) valveSession ∧
      ∃ e target, valveSession.entities[0]? = some e ∧ e.platform = .climate ∧
        e.target? cellar = some target ∧
        inRange (.ofInt 35) target.minimum target.maximum = false ∧
        (∀ func reason,
          (valveSession.step Client.tree {} (.act 0 (.setTemperature (.ofInt 35)))).1 ≠
            .actionError (.invalidInput func reason)) ∧
        valveSession.WritesInt Client.tree {} 0 (.setTemperature (.ofInt 35)) 35 := by
  have hread : ReadFrom Client.tree 0 cellar ([cellar] ++ [cellar]) valveSession :=
    .read (.setUp valveStart {}) {} (.update 0) rfl
  have hentity : (valveSession.entities[0]?).map
      (fun e => (e.state, (e.target? cellar).map fun f => (f.minimum, f.maximum))) =
      some (.climate {}, some (some (.ofInt 5), some (.ofInt 30))) := rfl
  obtain ⟨e, he, hs⟩ := Option.map_eq_some_iff.mp hentity
  obtain ⟨hstate, htarget⟩ := Prod.mk.inj hs
  obtain ⟨target, htarget, hbounds⟩ := Option.map_eq_some_iff.mp htarget
  obtain ⟨hmin, hmax⟩ := Prod.mk.inj hbounds
  have hplatform : e.platform = .climate := congrArg State.platform hstate
  obtain ⟨haccepted, hwritten⟩ := valveSession_reachable.step_of_inRange he
    (.climate hstate) {} thirtyFive_inRange
  refine ⟨valveSession_reachable, rfl, hread, e, target, he, hplatform, htarget, ?_, haccepted,
    (hwritten 35).mpr thirtyFive_toInt64.symm⟩
  rw [hmin, hmax]
  exact thirtyFive_outOfRange

end Session

end HomeEntities
