import HomeEntities.Proofs.Entity.History
import HomeEntities.Proofs.Entity.ReadBack
import HomeEntities.Proofs.Session.Availability

/-! # Reading what was written

In a session over a device tree in memory nothing fails that is addressed: writes whose features are
found all succeed, and the tree with the values put in place is what the coordinator knows after
them (`Connection.perform_tree`). An entity that was last updated from the tree as it still is
(`Session.LastRead`) shows what it reads from it (`LastRead.shows`). Hence its actions succeed and
can be read back (`Session.read_your_writes`).

What the coordinator knew before an action may be out of date, if somebody else wrote to the device
since. Then more changes for the coordinator than what the action writes
(`Session.staleSession_indicator_changes`). -/

namespace HomeEntities

/-! ### Actions on a tree in memory -/

namespace Connection

/-- **Writes** whose features are found all succeed. -/
theorem writeAll_tree {deviceId : String} : ∀ {writes : List (String × Json)} {d : Device}
    {c : Connection Device}, c.client.find? deviceId = some d →
      (∀ w ∈ writes, (d.feature? w.1).isSome = true) →
      ∃ c', c.writeAll Client.tree deviceId writes = (.ok (), c') ∧
        c'.client = c.client.modify deviceId (.setAll writes)
  | [], d, c, _, _ => ⟨c, rfl, (Device.modify_setAll_nil _ _).symm⟩
  | (id, value) :: writes, d, c, hd, hw => by
    have hwrite := Device.write_eq_ok value hd (hw (id, value) List.mem_cons_self)
    have hanswer : Client.tree.write c.client deviceId id value =
        (.ok (), c.client.modify deviceId (.setFeature id value)) := by
      simp only [Client.tree, hwrite]
    let c₁ : Connection Device :=
      { c with
        client := c.client.modify deviceId (.setFeature id value)
        exchanges := c.exchanges ++ [.write deviceId id value (.ok ())] }
    have hstep : c.write Client.tree deviceId id value = (.ok (), c₁) := by
      unfold write
      rw [hanswer]
    have hd₁ : c₁.client.find? deviceId = some (d.setFeature id value) := by
      have hid : ∀ d : Device, (d.setFeature id value).id = d.id := fun _ => rfl
      show (c.client.modify deviceId (.setFeature id value)).find? deviceId = _
      rw [Device.find?_modify _ _ hid, hd]
      rfl
    have hw₁ : ∀ w ∈ writes, ((d.setFeature id value).feature? w.1).isSome = true := by
      intro w hmem
      rw [Device.isSome_feature?_setFeature]
      exact hw w (List.mem_cons_of_mem _ hmem)
    obtain ⟨c', hrest, hclient⟩ := writeAll_tree hd₁ hw₁
    refine ⟨c', ?_, ?_⟩
    · unfold writeAll
      rw [hstep]
      exact hrest
    · rw [hclient, Device.modify_setAll_cons]

/-- **An action** whose features are found succeeds, and the tree with its values is fetched. -/
theorem perform_tree {e : Entity} {action : Action} {planned : List (String × Json)} {d : Device}
    {c : Connection Device} (hw : e.writes action = some (.ok planned))
    (hd : c.client.find? e.deviceId = some d)
    (hf : ∀ w ∈ planned, (d.feature? w.1).isSome = true) :
    ∃ c', c.perform Client.tree e action = some (.ok (), c') ∧
      c'.coordinator.snapshot = c.client.modify e.deviceId (.setAll planned) ∧
      c'.coordinator.lastUpdateSuccess = true := by
  obtain ⟨c₁, hall, hclient⟩ := writeAll_tree hd hf
  refine ⟨(c₁.refresh Client.tree).2, ?_, ?_, rfl⟩
  · simp only [perform, hw, Option.map_some, writeFeatures, hall]
    rfl
  · exact hclient

end Connection

/-! ### What an entity was read from -/

/-- Whether a step reads the entity in a place. -/
def Step.rereads {σ : Type} (i : Nat) : Step σ → Bool
  | setUp => true
  | step => step.updates i

theorem Step.rereads_eq {σ : Type} {step : Step σ} (h : step.isRoutine = true) (i : Nat) :
    step.rereads i = step.updates i := by
  cases step with
  | setUp => cases h
  | _ => rfl

namespace Session

variable {σ : Type} {client : Client σ}

/-- The last update of the entity in a place was one from this tree, set-up included. -/
inductive LastRead (client : Client σ) (i : Nat) (tree : Device) : Session σ → Prop
  | read {s : Session σ} (h : s.connection.coordinator.snapshot = tree) (extras : Extras)
      {step : Step σ} (hr : step.rereads i = true) :
      LastRead client i tree (s.step client extras step).2
  | keep {s : Session σ} (h : LastRead client i tree s) (extras : Extras) {step : Step σ}
      (hr : step.rereads i = false) (hb : step.isBind = false) :
      LastRead client i tree (s.step client extras step).2

/-- The entity in a place after a routine step: it is read anew or as it was. -/
theorem step_entity (extras : Extras) {s : Session σ} {step : Step σ} (hr : step.isRoutine = true)
    {i : Nat} {e : Entity} (he : (s.step client extras step).2.entities[i]? = some e) :
    ∃ c, s.entities[i]? = some c ∧
      e = if step.rereads i then c.updated s.connection.coordinator.snapshot else c := by
  rw [step_getElem? client extras s hr] at he
  obtain ⟨c, hc, rfl⟩ := Option.map_eq_some_iff.mp he
  exact ⟨c, hc, by rw [Step.rereads_eq hr]⟩

/-- **An entity shows what it was last read from.** -/
theorem LastRead.shows {i : Nat} {tree : Device} {s : Session σ} (h : LastRead client i tree s)
    {e : Entity} (he : s.entities[i]? = some e) : e.Shows tree := by
  induction h generalizing e with
  | @read s hs extras step hr =>
    subst hs
    cases step with
    | setUp =>
      obtain ⟨events, hstep, -⟩ := step_setUp client s extras
      rw [hstep] at he
      obtain ⟨c, rfl⟩ := exists_update_of_mem_settle (List.mem_of_getElem? he)
      exact c.shows_update _
    | bind | rename => cases hr
    | _ =>
      obtain ⟨c, -, he'⟩ := step_entity extras rfl he
      rw [he', if_pos hr]
      exact c.shows_update _
  | @keep s _ extras step hr hb ih =>
    cases step with
    | setUp => cases hr
    | bind => cases hb
    | rename index entityId =>
      -- what an entity reads does not depend on its entity id
      simp only [Session.step] at he
      split at he
      · exact ih he
      · rename_i c hc
        rw [List.getElem?_set] at he
        split at he
        · rename_i hi
          split at he
          · have hshows : c.Shows tree := ih (hi ▸ hc)
            cases he
            exact hshows
          · cases he
        · exact ih he
    | _ =>
      obtain ⟨c, hc, he'⟩ := step_entity extras rfl he
      rw [he', if_neg (by rw [hr]; exact Bool.false_ne_true)]
      exact ih hc

/-- Whatever happens but an update of the entity leaves what it was last read from. -/
theorem LastRead.run (extras : Extras) {i : Nat} {tree : Device} : ∀ {steps : List (Step σ)}
    {s : Session σ}, LastRead client i tree s →
      (∀ step ∈ steps, step.rereads i = false ∧ step.isBind = false) →
      LastRead client i tree (s.run client extras steps)
  | [], _, h, _ => h
  | step :: steps, s, h, hs => by
    obtain ⟨hr, hb⟩ := hs step List.mem_cons_self
    rw [run_cons]
    exact LastRead.run extras (h.keep extras hr hb) fun step' hmem =>
      hs step' (List.mem_cons_of_mem step hmem)

/-- **Reading what was written.** In a session over a tree in memory, let a readable entity have
been last updated from the tree as it is now, and let an action of it pass its check. Then the
action succeeds, and after another update the entity is available and shows what was asked. What the
coordinator then knows is the tree as it was, in which nothing changed but the values written. -/
theorem read_your_writes {s : Session Device} {i : Nat}
    (hl : LastRead Client.tree i s.connection.client s) {e : Entity} (he : s.entities[i]? = some e)
    (hr : e.readable = true) {action : Action} {planned : List (String × Json)}
    (hw : e.writes action = some (.ok planned)) (extras : Extras) :
    ∃ s' s'' e', s.step Client.tree extras (.act i action) = (.done, s') ∧
      s'.step Client.tree extras (.update i) = (.done, s'') ∧
      s''.entities[i]? = some e' ∧ e'.available s''.connection.coordinator = true ∧
      action.Shown e'.state ∧
      Device.OnlyWritten e.deviceId planned s.connection.client
        s'.connection.coordinator.snapshot := by
  obtain ⟨events, hread⟩ := hl.shows he hr
  obtain ⟨⟨d, hd, hfound⟩, shown, events', hread', hshown⟩ := Entity.readsBack_of_read hread hw
  obtain ⟨c', hperform, hsnapshot, hsuccess⟩ := Connection.perform_tree hw hd hfound
  rw [← hsnapshot] at hread'
  have hact : s.step Client.tree extras (.act i action) = (.done, { s with connection := c' }) := by
    simp only [Session.step, he, hperform]
    rfl
  have hupdate : e.update c'.coordinator.snapshot =
      ({ e with state := shown, readable := true }, events') := Entity.update_eq_of_ok hread'
  have hstep : Session.step Client.tree extras { s with connection := c' } (.update i) =
      (.done, { connection := c'.log events',
                entities := s.entities.set i { e with state := shown, readable := true } }) := by
    simp only [Session.step, he, hupdate]
  obtain ⟨hi, -⟩ := List.getElem?_eq_some_iff.mp he
  refine ⟨_, _, { e with state := shown, readable := true }, hact, hstep, ?_, ?_, hshown, ?_⟩
  · exact List.getElem?_set_self hi
  · rw [Entity.available]
    show (c'.coordinator.lastUpdateSuccess && true) = true
    rw [hsuccess]
    rfl
  · show Device.OnlyWritten e.deviceId planned s.connection.client c'.coordinator.snapshot
    rw [hsnapshot]
    exact Device.onlyWritten_setAll ..

/-! ### A lamp that somebody else writes to -/

/-- A lamp with an indicator, which has a switch of its own. -/
def bedside : Device where
  id := "800B"
  name := "Bedside"
  model := "KL110"
  mac := "50:C7:BF:00:00:0B"
  type := .bulb
  features := [
    { id := stateId, name := "State", type := .switch, category := .primary,
      value := .bool false },
    { id := LightState.brightnessId, name := "Brightness", type := .number, category := .primary,
      value := .int 40 },
    { id := "led", name := "LED", type := .switch, category := .config, value := .bool false }]

/-- The session of the lamp when it was first reached. -/
def bedsideStart : Session Device where
  connection := {
    client := bedside
    coordinator := { snapshot := bedside }
    exchanges := [.fetch (.ok bedside)] }

/-- Somebody else switches the indicator. -/
def switchIndicator (on : Bool) : Step Device :=
  .alter fun root => (Client.tree.write root bedside.id "led" (.bool on)).2

/-- The indicator is on while the tree is fetched, and off again. -/
def staleSteps : List (Step Device) := [switchIndicator true, .refresh, switchIndicator false]

/-- The session in which the coordinator takes the indicator to be on. -/
def staleSession : Session Device :=
  (bedsideStart.step Client.tree {} .setUp).2.run Client.tree {} staleSteps

theorem staleSession_reachable : staleSession.Reachable Client.tree :=
  Reachable.run {} (.step (@Reachable.connect _ _ bedside _ rfl) {} .setUp rfl) (by
    simp [staleSteps, switchIndicator, Step.isBind])

/-- At last the lamp is as it was at set-up, and as its light was read. -/
theorem staleSession_lastRead :
    LastRead Client.tree 0 staleSession.connection.client staleSession := by
  have hread := @LastRead.read _ Client.tree 0 bedside bedsideStart rfl {} .setUp rfl
  rw [show staleSession.connection.client = bedside from rfl]
  refine hread.run {} fun step hmem => ?_
  simp only [staleSteps, List.mem_cons, List.not_mem_nil, or_false] at hmem
  rcases hmem with rfl | rfl | rfl <;> exact ⟨rfl, rfl⟩

theorem staleSession_light : ∃ e, staleSession.entities[0]? = some e ∧ e.readable = true ∧
    e.deviceId = bedside.id ∧ e.writes (.turnOnAt 75) =
      some (.ok [(LightState.brightnessId, .int 75), (stateId, .bool true)]) :=
  ⟨_, rfl, rfl, rfl, rfl⟩

theorem read_your_writes_bedside :
    ∃ e planned s' s'' e', staleSession.Reachable Client.tree ∧
      LastRead Client.tree 0 staleSession.connection.client staleSession ∧
      staleSession.entities[0]? = some e ∧ e.readable = true ∧
      e.writes (.turnOnAt 75) = some (.ok planned) ∧
      staleSession.step Client.tree {} (.act 0 (.turnOnAt 75)) = (.done, s') ∧
      s'.step Client.tree {} (.update 0) = (.done, s'') ∧
      s''.entities[0]? = some e' ∧ e'.available s''.connection.coordinator = true ∧
      (Action.turnOnAt 75).Shown e'.state ∧
      Device.OnlyWritten e.deviceId planned staleSession.connection.client
        s'.connection.coordinator.snapshot := by
  obtain ⟨e, he, hr, -, hw⟩ := staleSession_light
  obtain ⟨s', s'', e', h⟩ := read_your_writes staleSession_lastRead he hr hw {}
  exact ⟨e, _, s', s'', e', staleSession_reachable, staleSession_lastRead, he, hr, hw, h⟩

/-- **A coordinator that is out of date.** The light is turned on, which does not write to the
indicator; but the coordinator, which took that to be on, finds it to be off. -/
theorem staleSession_indicator_changes :
    ∃ e planned s' p, staleSession.Reachable Client.tree ∧
      LastRead Client.tree 0 staleSession.connection.client staleSession ∧
      staleSession.entities[0]? = some e ∧ e.readable = true ∧
      e.writes (.turnOnAt 75) = some (.ok planned) ∧
      staleSession.step Client.tree {} (.act 0 (.turnOnAt 75)) = (.done, s') ∧
      (∀ w ∈ planned, staleSession.connection.coordinator.snapshot.address? e.deviceId w.1 ≠
        some p) ∧
      s'.connection.coordinator.snapshot.valueAt? p ≠
        staleSession.connection.coordinator.snapshot.valueAt? p := by
  obtain ⟨e, he, hr, hid, hw⟩ := staleSession_light
  refine ⟨e, _, _, (0, 2), staleSession_reachable, staleSession_lastRead, he, hr, hw, rfl, ?_, ?_⟩
  · rw [hid]
    decide
  · have hold : staleSession.connection.coordinator.snapshot.valueAt? (0, 2) =
        some (.bool true) := rfl
    rw [hold]
    intro h
    cases h

end Session

end HomeEntities
