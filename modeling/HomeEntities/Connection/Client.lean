import HomeEntities.Device.Store

/-!
# Clients

A client is the way to a device: it fetches the device tree and writes feature values. Its state is
its own business; every answer comes with the next state.

* `Client.tree`: a device tree in memory.
* `Client.faulty`: the same, failing on demand.
-/

namespace HomeEntities

/-- The way to a device, with a state of type `σ`. -/
structure Client (σ : Type) where
  fetch : σ → Except DeviceError Device × σ
  write : σ → (deviceId featureId : String) → Json → Except DeviceError Unit × σ

namespace Client

/-- A device tree in memory. Writes change it, and it is what a fetch returns. -/
def tree : Client Device where
  fetch root := (.ok root, root)
  write root deviceId featureId value :=
    match root.write deviceId featureId value with
    | .ok root => (.ok (), root)
    | .error e => (.error e, root)

/-- A device tree with the failures that it is to show. -/
structure Faulty where
  root : Device
  /-- The failure of every fetch. -/
  fetchFault : Option DeviceError := none
  /-- The failure of every write, and how many writes are spared. -/
  writeFault : Option (DeviceError × Nat) := none

/-- A device tree that fails on demand. -/
def faulty : Client Faulty where
  fetch s :=
    match s.fetchFault with
    | some e => (.error e, s)
    | none => (.ok s.root, s)
  write s deviceId featureId value :=
    let forward (s : Faulty) :=
      let (answer, root) := tree.write s.root deviceId featureId value
      (answer, { s with root })
    match s.writeFault with
    | some (e, 0) => (.error e, s)
    | some (e, spared + 1) => forward { s with writeFault := some (e, spared) }
    | none => forward s

end Client

end HomeEntities
