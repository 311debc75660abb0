import HomeEntities.Connection.Client
import HomeEntities.Log.Event

/-!
# Connections

A coordinator keeps the last device tree that was fetched, whether the last fetch succeeded, and
whether new credentials were asked for. A connection is a coordinator with its client; it also
keeps a record of all that was exchanged with the device and of all that was logged.

* `Connection.connect`: the first fetch.
* `Connection.refresh`: fetch again; a failed fetch leaves the tree. Only the first of several
  failures in a row is logged.
* `Connection.startReauth`: ask for credentials, once.
-/

namespace HomeEntities

/-- What is known of a device. -/
structure Coordinator where
  snapshot : Device
  lastUpdateSuccess : Bool := true
  reauthRequested : Bool := false

/-- One exchange with a device. -/
inductive Exchange where
  | fetch (answer : Except DeviceError Device)
  | write (deviceId featureId : String) (value : Json) (answer : Except DeviceError Unit)

/-- Whether an exchange is a fetch. -/
def Exchange.isFetch : Exchange → Bool
  | fetch _ => true
  | write .. => false

/-- A coordinator, its client, and the record of what has passed. -/
structure Connection (σ : Type) where
  client : σ
  coordinator : Coordinator
  exchanges : List Exchange := []
  events : List Event := []

namespace Connection

variable {σ : Type}

def log (events : List Event) (c : Connection σ) : Connection σ :=
  { c with events := c.events ++ events }

/-- Connect to a device by a first fetch. -/
def connect (client : Client σ) (s : σ) : Except DeviceError (Connection σ) :=
  match client.fetch s with
  | (.ok device, s) =>
    .ok { client := s, coordinator := { snapshot := device }, exchanges := [.fetch (.ok device)] }
  | (.error e, _) => .error e

/-- Ask for new credentials unless that has been done before. -/
def startReauth (c : Connection σ) : Connection σ :=
  if c.coordinator.reauthRequested then c
  else
    { c with
      coordinator := { c.coordinator with reauthRequested := true }
      events := c.events ++ [.reauthStarted c.coordinator.snapshot.name] }

/-- Rejected credentials lead to a request for new ones. -/
def react (e : DeviceError) (c : Connection σ) : Connection σ :=
  if e.failure = .authentication then c.startReauth else c

/-- Fetch the device tree again. -/
def refresh (client : Client σ) (c : Connection σ) : Except DeviceError Unit × Connection σ :=
  match client.fetch c.client with
  | (.ok device, s) =>
    (.ok (),
      { c with
        client := s
        coordinator := { c.coordinator with snapshot := device, lastUpdateSuccess := true }
        exchanges := c.exchanges ++ [.fetch (.ok device)] })
  | (.error e, s) =>
    let failed : Connection σ :=
      { c with
        client := s
        coordinator := { c.coordinator with lastUpdateSuccess := false }
        exchanges := c.exchanges ++ [.fetch (.error e)]
        events := c.events ++ if c.coordinator.lastUpdateSuccess then [.refreshFailed e] else [] }
    (.error e, failed.react e)

/-- Write one value. -/
def write (client : Client σ) (deviceId featureId : String) (value : Json) (c : Connection σ) :
    Except DeviceError Unit × Connection σ :=
  let (answer, s) := client.write c.client deviceId featureId value
  (answer,
    { c with client := s, exchanges := c.exchanges ++ [.write deviceId featureId value answer] })

/-- Write values to features of one device in order, up to the first failure. -/
def writeAll (client : Client σ) (deviceId : String) :
    List (String × Json) → Connection σ → Except DeviceError Unit × Connection σ
  | [], c => (.ok (), c)
  | (featureId, value) :: rest, c =>
    match c.write client deviceId featureId value with
    | (.ok (), c) => writeAll client deviceId rest c
    | (.error e, c) => (.error e, c)

end Connection

end HomeEntities
