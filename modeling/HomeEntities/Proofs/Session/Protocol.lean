import HomeEntities.Proofs.Connection.Exchanges
import HomeEntities.Proofs.Connection.Writes
import HomeEntities.Proofs.Session.Reachable

/-! # The protocol of actions

Whatever the client does, an action of an entity's platform ends in exactly one of three ways
(`Reachable.act_ending`):

* `Completed`: all that was planned is written, and the tree is fetched once;
* `Failed`: a write fails, which is the last thing asked of the client and is reported;
* `Refused`: nothing happens.

In none of them are the entities touched. -/

namespace HomeEntities

variable {σ : Type}

/-- The report tells of an error in an action. -/
structure Report.TellsOf (report : Report) (e : DeviceError) (action : Action) : Prop where
  source : report.source = e
  key : report.key = e.failure.notice.key
  func : report.func = action.func
  exc : report.exc = e.text

/-- An action on an entity, between two states of a session. -/
structure Performance (σ : Type) where
  entity : Entity
  action : Action
  before : Session σ
  outcome : Outcome
  after : Session σ

namespace Performance

/-- What was asked of the client, and nothing besides. -/
def Exchanged (client : Client σ) (p : Performance σ) (xs : List Exchange) : Prop :=
  Connection.Exchanged client p.before.connection xs p.after.connection

/-- The planned writes were made in order on the entity's own device, and the tree was fetched once
after them. -/
structure Completed (client : Client σ) (p : Performance σ) : Prop where
  outcome : p.outcome = .done
  exchanged : ∃ planned answer, p.entity.writes p.action = some (.ok planned) ∧
    p.Exchanged client (planned.map (.written p.entity.deviceId) ++ [.fetch answer])

/-- Of the planned writes some succeeded, and the next failed with an error. -/
structure Failed (client : Client σ) (p : Performance σ) (e : DeviceError) : Prop where
  exchanged : ∃ done last rest, p.entity.writes p.action = some (.ok (done ++ last :: rest)) ∧
    p.Exchanged client (done.map (.written p.entity.deviceId) ++
      [.write p.entity.deviceId last.1 last.2 (.error e)])
  outcome : ∃ report, p.outcome = .actionError (.device report) ∧ report.TellsOf e p.action
  snapshot : p.after.connection.coordinator.snapshot = p.before.connection.coordinator.snapshot
  lastUpdateSuccess : p.after.connection.coordinator.lastUpdateSuccess =
    p.before.connection.coordinator.lastUpdateSuccess
  reauthRequested : p.after.connection.coordinator.reauthRequested =
    (p.before.connection.coordinator.reauthRequested || e.failure == .authentication)

/-- The action was refused, and the connection with its client and its log is as it was. -/
structure Refused (p : Performance σ) : Prop where
  outcome : ∃ refusal, p.entity.writes p.action = some (.error refusal) ∧
    p.outcome = .actionError (.invalidInput p.action.func (refusal.reason p.entity.entityId))
  connection : p.after.connection = p.before.connection

/-- How an action ends. -/
inductive Ending where
  | completed
  | failed
  | refused

/-- The action ended in this way. -/
def Ending.Holds (client : Client σ) (p : Performance σ) : Ending → Prop
  | completed => p.Completed client
  | failed => ∃ e, p.Failed client e
  | refused => p.Refused

/-- The ending that an outcome belongs to. -/
def Ending.ofOutcome? : Outcome → Option Ending
  | .done => some completed
  | .actionError (.device _) => some failed
  | .actionError (.invalidInput ..) => some refused
  | _ => none

theorem Ending.Holds.ofOutcome? {client : Client σ} {p : Performance σ} {ending : Ending}
    (h : ending.Holds client p) : Ending.ofOutcome? p.outcome = some ending := by
  cases ending with
  | completed => rw [h.outcome]; rfl
  | failed =>
    obtain ⟨e, h⟩ := h
    obtain ⟨report, ho, -⟩ := h.outcome
    rw [ho]; rfl
  | refused =>
    obtain ⟨refusal, -, ho⟩ := h.outcome
    rw [ho]; rfl

theorem Ending.existsUnique {client : Client σ} {p : Performance σ} (ending : Ending)
    (h : ending.Holds client p) : ∃! ending : Ending, ending.Holds client p := by
  refine ⟨ending, h, fun other ho => ?_⟩
  exact Option.some.inj (ho.ofOutcome?.symm.trans h.ofOutcome?)

end Performance

namespace Session

variable {client : Client σ}

theorem kept_isFixed : Kept (fun e => e.state.isFixed = false) where
  setUp root extras entities events h e he := by
    rw [eq_setUpEntities h] at he
    exact isFixed_eq_false_of_mem he
  update snapshot e h := by
    have ho := congrArg Origin.fixed (Entity.update_origin snapshot e)
    exact ho.trans h
  rename _ _ h := h

/-- **The protocol.** In a reachable session every action of an entity's platform ends in exactly
one way, whatever the client answers, and leaves the entities as they are. -/
theorem Reachable.act_ending {s : Session σ} (hs : s.Reachable client) (extras : Extras) {i : Nat}
    {e : Entity} (he : s.entities[i]? = some e) {action : Action}
    (ha : e.platform.offers action = true) {outcome : Outcome} {s' : Session σ}
    (h : s.step client extras (.act i action) = (outcome, s')) :
    s'.entities = s.entities ∧
      ∃! ending : Performance.Ending, ending.Holds client ⟨e, action, s, outcome, s'⟩ := by
  have hfixed := hs.forall_entities kept_isFixed e (List.mem_of_getElem? he)
  rw [← Entity.isSome_writes hfixed] at ha
  obtain ⟨checked, hw⟩ := Option.isSome_iff_exists.mp ha
  simp only [Session.step, he, Connection.perform, hw, Option.map_some] at h
  cases checked with
  | error refusal =>
    obtain ⟨rfl, rfl⟩ := Prod.mk.inj h
    exact ⟨rfl, Performance.Ending.existsUnique .refused ⟨⟨refusal, hw, rfl⟩, rfl⟩⟩
  | ok planned =>
    cases hf : s.connection.writeFeatures client action.func e.deviceId planned with
    | mk answer c =>
      simp only [hf] at h
      obtain ⟨rfl, rfl⟩ := Prod.mk.inj h
      refine ⟨rfl, ?_⟩
      cases Connection.writeFeatures_cases hf with
      | @ok _ fetched hx =>
        exact Performance.Ending.existsUnique .completed ⟨rfl, planned, fetched, hw, hx⟩
      | @error _ done rest last error hsplit hx hc =>
        refine Performance.Ending.existsUnique .failed ⟨error, ?_⟩
        exact {
          exchanged := ⟨done, last, rest, hsplit ▸ hw, hx⟩
          outcome := ⟨_, rfl, rfl, rfl, rfl, rfl⟩
          snapshot := by simp only [hc]
          lastUpdateSuccess := by simp only [hc]
          reauthRequested := by simp only [hc] }

/-! ### A lamp whose second write fails -/

def lamp : Device where
  id := "80067AC4"
  name := "Lamp"
  model := "KL130"
  mac := "50:C7:BF:00:00:05"
  type := .bulb
  features := [
    { id := stateId, name := "State", type := .switch, category := .primary,
      value := .bool false },
    { id := LightState.brightnessId, name := "Brightness", type := .number, category := .primary,
      value := .int 40 }]

/-- A client that spares one write. -/
def lampClient : Client.Faulty where
  root := lamp
  writeFault := some (⟨.authentication, "token expired"⟩, 1)

/-- The session of the lamp after set-up. -/
def lampSession : Session Client.Faulty :=
  (Session.step Client.faulty {} { connection := {
    client := lampClient
    coordinator := { snapshot := lamp }
    exchanges := [.fetch (.ok lamp)] } } .setUp).2

theorem lampSession_reachable : lampSession.Reachable Client.faulty :=
  .step (@Reachable.connect _ _ lampClient _ rfl) {} .setUp rfl

theorem lampSession_act_ending :
    ∃ e outcome s', lampSession.entities[0]? = some e ∧ e.platform.offers (.turnOnAt 75) = true ∧
      lampSession.step Client.faulty {} (.act 0 (.turnOnAt 75)) = (outcome, s') ∧
      s'.connection.exchanges = [.fetch (.ok lamp),
        .write "80067AC4" "brightness" (.int 75) (.ok ()),
        .write "80067AC4" "state" (.bool true) (.error ⟨.authentication, "token expired"⟩)] ∧
      s'.entities = lampSession.entities ∧
      Performance.Ending.failed.Holds Client.faulty
        ⟨e, .turnOnAt 75, lampSession, outcome, s'⟩ ∧
      ∃! ending : Performance.Ending,
        ending.Holds Client.faulty ⟨e, .turnOnAt 75, lampSession, outcome, s'⟩ := by
  have hp : (lampSession.entities[0]?).map (·.platform) = some .light := rfl
  obtain ⟨e, he, hp⟩ := Option.map_eq_some_iff.mp hp
  have hoffers : e.platform.offers (.turnOnAt 75) = true := by rw [hp]; rfl
  obtain ⟨hentities, hending⟩ := lampSession_reachable.act_ending {} he hoffers rfl
  obtain ⟨ending, hholds, -⟩ := id hending
  have hfailed : Performance.Ending.ofOutcome?
      (lampSession.step Client.faulty {} (.act 0 (.turnOnAt 75))).1 = some .failed := rfl
  obtain rfl : ending = .failed := Option.some.inj (hholds.ofOutcome?.symm.trans hfailed)
  exact ⟨e, _, _, he, hoffers, rfl, rfl, hentities, hholds, hending⟩

end Session

end HomeEntities
