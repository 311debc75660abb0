import HomeEntities.Connection.Action
import HomeEntities.Setup.Basic

/-!
# Sessions

A session is a connection with the entities that were set up on it. It goes on in steps: the tree
is fetched, entities are updated from it, actions are performed, and the device changes by itself.

* `Entity.available`: what the registry is told about an entity.
* `Session.step`: one step and its outcome.
* `Session.run`: a list of steps.
-/

namespace HomeEntities

/-- Whether an entity can be relied on: its last reading and the last fetch both succeeded. -/
def Entity.available (c : Coordinator) (e : Entity) : Bool := c.lastUpdateSuccess && e.readable

/-- A connection with its entities. -/
structure Session (σ : Type) where
  connection : Connection σ
  entities : List Entity := []

/-- What can happen in a session. -/
inductive Step (σ : Type) where
  | setUp
  | bind (binding : Binding)
  | refresh
  | startReauth
  | update (index : Nat)
  | updateAll
  | act (index : Nat) (action : Action)
  | write (index : Nat) (func : String) (writes : List (String × Json))
  | finish (func : String) (answer : Except DeviceError Unit)
  | rename (index : Nat) (entityId : String)
  /-- The device, or the way to it, changes by itself. -/
  | alter (change : σ → σ)

/-- What comes of a step. -/
inductive Outcome where
  | done
  | noSuchEntity
  | noSuchAction
  | noUniqueId (e : NoUniqueId)
  | deviceError (e : DeviceError)
  | actionError (e : ActionError)

/-- The outcome of something that may fail. -/
def Outcome.ofExcept {ε : Type} (fail : ε → Outcome) : Except ε Unit → Outcome
  | .ok () => done
  | .error e => fail e

namespace Session

variable {σ : Type}

/-- Update every entity from a device tree; also what is worth logging. -/
def updateEntities (snapshot : Device) : List Entity → List Entity × List Event
  | [] => ([], [])
  | e :: rest =>
    let (e, events) := e.update snapshot
    let (rest, more) := updateEntities snapshot rest
    (e :: rest, events ++ more)

/-- A connected session without entities. -/
def connect (client : Client σ) (s : σ) : Except DeviceError (Session σ) :=
  (Connection.connect client s).map fun connection => { connection }

/-- One step. -/
def step (client : Client σ) (extras : Extras) (s : Session σ) : Step σ → Outcome × Session σ
  | .setUp =>
    match setUp s.connection.coordinator.snapshot extras with
    | .ok (entities, events) =>
      (.done, { connection := s.connection.log events, entities })
    | .error e => (.noUniqueId e, s)
  | .bind binding =>
    match Entity.create Device.legacyId binding with
    | .ok entity =>
      (.done,
        { connection := s.connection.log binding.events, entities := s.entities ++ [entity] })
    | .error e => (.noUniqueId e, s)
  | .refresh =>
    let (answer, connection) := s.connection.refresh client
    (.ofExcept .deviceError answer, { s with connection })
  | .startReauth => (.done, { s with connection := s.connection.startReauth })
  | .update index =>
    match s.entities[index]? with
    | none => (.noSuchEntity, s)
    | some e =>
      let (e, events) := e.update s.connection.coordinator.snapshot
      (.done, { connection := s.connection.log events, entities := s.entities.set index e })
  | .updateAll =>
    let (entities, events) := updateEntities s.connection.coordinator.snapshot s.entities
    (.done, { connection := s.connection.log events, entities })
  | .act index action =>
    match s.entities[index]? with
    | none => (.noSuchEntity, s)
    | some e =>
      match s.connection.perform client e action with
      | none => (.noSuchAction, s)
      | some (answer, connection) => (.ofExcept .actionError answer, { s with connection })
  | .write index func writes =>
    match s.entities[index]? with
    | none => (.noSuchEntity, s)
    | some e =>
      let (answer, connection) := s.connection.writeFeatures client func e.deviceId writes
      (.ofExcept .actionError answer, { s with connection })
  | .finish func answer =>
    let (answer, connection) := Connection.finish client func (answer, s.connection)
    (.ofExcept .actionError answer, { s with connection })
  | .rename index entityId =>
    match s.entities[index]? with
    | none => (.noSuchEntity, s)
    | some e => (.done, { s with entities := s.entities.set index { e with entityId } })
  | .alter change =>
    (.done, { s with connection := { s.connection with client := change s.connection.client } })

/-- The session after a list of steps. -/
def run (client : Client σ) (extras : Extras) (s : Session σ) (steps : List (Step σ)) :
    Session σ :=
  steps.foldl (fun s step => (s.step client extras step).2) s

end Session

end HomeEntities
