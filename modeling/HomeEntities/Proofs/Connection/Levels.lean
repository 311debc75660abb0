import HomeEntities.Connection.Action
import HomeEntities.Proofs.Device.Store
import HomeEntities.Proofs.Setup.Levels

/-! # The two levels of a tree in connections

A write goes to the root or to a child, and what lies below the children is carried along. If the
trees that a client deals in are pruned and nothing else about the client changes
(`Client.Prunes`), every operation of a connection gives the same answer, and it leaves the pruned
connection. Conversely, if some part of the client's state is none of its concern
(`Client.Keeps`), no operation touches it: such a part is what lies below the children
(`Device.lower`). Both hold of the clients that keep a tree in memory. -/

namespace HomeEntities

variable {σ : Type}

/-! ### Writes to a tree -/

namespace Device

variable (root : Device) (deviceId featureId : String) (value : Json)

theorem pruned_modify_setFeature : (root.modify deviceId (setFeature featureId value)).pruned =
    root.pruned.modify deviceId (setFeature featureId value) := by
  have hchildren := @updateFirst_map Device Device (·.id == deviceId) (setFeature featureId value)
    (·.id == deviceId) (setFeature featureId value) leaf (fun _ => rfl) (fun _ => rfl) root.children
  unfold modify
  rw [show root.pruned.id = root.id from rfl, children_pruned, hchildren]
  split <;> rfl

/-- **A write** goes to the same feature, whatever there is below the children. -/
theorem write_pruned : root.pruned.write deviceId featureId value =
    (root.write deviceId featureId value).map pruned := by
  have hfind := root.map_leaf_find?_pruned deviceId
  rw [write_eq, write_eq]
  cases hd : root.find? deviceId with
  | none =>
    rw [hd, Option.map_none, Option.map_eq_none_iff] at hfind
    rw [hfind]
    rfl
  | some d =>
    rw [hd, Option.map_some, Option.map_eq_some_iff] at hfind
    obtain ⟨d', hd', hleaf⟩ := hfind
    have hfeature : d'.feature? featureId = d.feature? featureId := by
      rw [← feature?_leaf, hleaf, feature?_leaf]
    rw [hd']
    simp only [hfeature]
    cases d.feature? featureId with
    | none => rfl
    | some f => exact congrArg Except.ok (root.pruned_modify_setFeature _ _ _).symm

/-- What lies below the children, child by child. -/
def lower (root : Device) : List (List Device) := root.children.map (·.children)

theorem lower_modify_setFeature :
    (root.modify deviceId (setFeature featureId value)).lower = root.lower := by
  unfold modify
  split
  · rfl
  · exact @map_updateFirst Device _ (·.id == deviceId) (setFeature featureId value) (·.children)
      (fun _ => rfl) root.children

/-- A write that succeeds was addressed to the root or to a child, and leaves what is below. -/
theorem of_write_eq_ok {root' : Device} (h : root.write deviceId featureId value = .ok root') :
    (∃ d ∈ root.nodes, d.id = deviceId ∧ (d.feature? featureId).isSome = true) ∧
      root'.lower = root.lower := by
  rw [write_eq] at h
  cases hd : root.find? deviceId with
  | none => rw [hd] at h; cases h
  | some d =>
    rw [hd] at h
    simp only at h
    cases hf : d.feature? featureId with
    | none => rw [hf] at h; cases h
    | some f =>
      rw [hf] at h
      cases h
      rw [find?_eq_find?_nodes] at hd
      have hmem := List.mem_of_find?_eq_some hd
      have hid : d.id = deviceId := by simpa using List.find?_some hd
      exact ⟨⟨d, hmem, hid, by rw [hf]; rfl⟩, root.lower_modify_setFeature _ _ _⟩

end Device

/-! ### Clients -/

namespace Client

/-- Cutting off goes through all that a client does: what is cut off decides of nothing. -/
structure Prunes (client : Client σ) (cut : σ → σ) : Prop where
  fetch : ∀ c, client.fetch (cut c) = Prod.map (Except.map Device.pruned) cut (client.fetch c)
  write : ∀ c deviceId featureId value, client.write (cut c) deviceId featureId value =
    Prod.map id cut (client.write c deviceId featureId value)

/-- A part of the client's state is none of its concern: it stays what it is. -/
structure Keeps {α : Type} (client : Client σ) (part : σ → α) : Prop where
  fetch : ∀ c, part (client.fetch c).2 = part c
  write : ∀ c deviceId featureId value,
    part (client.write c deviceId featureId value).2 = part c

theorem tree_prunes : tree.Prunes Device.pruned where
  fetch _ := rfl
  write root deviceId featureId value := by
    simp only [tree, root.write_pruned]
    cases root.write deviceId featureId value <;> rfl

theorem tree_keeps_lower : tree.Keeps Device.lower where
  fetch _ := rfl
  write root deviceId featureId value := by
    simp only [tree]
    cases h : root.write deviceId featureId value with
    | error => rfl
    | ok => exact (root.of_write_eq_ok deviceId featureId value h).2

/-- The state of a client with its tree pruned. -/
def Faulty.pruned (c : Faulty) : Faulty := { c with root := c.root.pruned }

theorem faulty_prunes : faulty.Prunes Faulty.pruned where
  fetch c := by
    simp only [faulty, show c.pruned.fetchFault = c.fetchFault from rfl]
    cases c.fetchFault <;> rfl
  write c deviceId featureId value := by
    have hwrite := tree_prunes.write c.root deviceId featureId value
    simp only [faulty, show c.pruned.writeFault = c.writeFault from rfl,
      show c.pruned.root = c.root.pruned from rfl, hwrite]
    cases c.writeFault with
    | none => rfl
    | some fault =>
      obtain ⟨e, spared⟩ := fault
      cases spared <;> rfl

theorem faulty_keeps_lower : faulty.Keeps (·.root.lower) where
  fetch c := by
    simp only [faulty]
    cases c.fetchFault <;> rfl
  write c deviceId featureId value := by
    have hwrite := tree_keeps_lower.write c.root deviceId featureId value
    simp only [faulty]
    cases c.writeFault with
    | none => exact hwrite
    | some fault =>
      obtain ⟨e, spared⟩ := fault
      cases spared with
      | zero => rfl
      | succ => exact hwrite

end Client

/-! ### Connections -/

/-- What a fetch answered, pruned. -/
def Exchange.pruned : Exchange → Exchange
  | fetch answer => fetch (answer.map Device.pruned)
  | exchange => exchange

namespace Connection

variable {client : Client σ} {cut : σ → σ} (h : client.Prunes cut) (c : Connection σ)

/-- The connection as it would be if the trees had been pruned all along. -/
def pruned (cut : σ → σ) (c : Connection σ) : Connection σ where
  client := cut c.client
  coordinator := { c.coordinator with snapshot := c.coordinator.snapshot.pruned }
  exchanges := c.exchanges.map Exchange.pruned
  events := c.events

theorem client_pruned : (c.pruned cut).client = cut c.client := rfl

theorem startReauth_pruned : (c.pruned cut).startReauth = c.startReauth.pruned cut := by
  unfold startReauth
  rw [show (c.pruned cut).coordinator.reauthRequested = c.coordinator.reauthRequested from rfl]
  split <;> rfl

theorem react_pruned (e : DeviceError) : (c.pruned cut).react e = (c.react e).pruned cut := by
  unfold react
  split
  · exact c.startReauth_pruned
  · rfl

include h

theorem connect_pruned (start : σ) :
    connect client (cut start) = (connect client start).map (pruned cut) := by
  unfold connect
  rw [h.fetch]
  rcases client.fetch start with ⟨answer | device, c⟩ <;> rfl

theorem refresh_pruned :
    (c.pruned cut).refresh client = Prod.map id (pruned cut) (c.refresh client) := by
  unfold refresh
  rw [client_pruned, h.fetch]
  rcases client.fetch c.client with ⟨error | device, state⟩
  · simp only [Prod.map, Except.map, id, ← react_pruned]
    simp only [pruned, List.map_append]
    rfl
  · simp only [Prod.map, Except.map, id, pruned, List.map_append]
    rfl

theorem write_pruned (deviceId featureId : String) (value : Json) :
    (c.pruned cut).write client deviceId featureId value =
      Prod.map id (pruned cut) (c.write client deviceId featureId value) := by
  unfold write
  rw [client_pruned, h.write]
  simp only [Prod.map, id, pruned, List.map_append]
  rfl

theorem writeAll_pruned (deviceId : String) : ∀ (writes : List (String × Json)) (c : Connection σ),
    (c.pruned cut).writeAll client deviceId writes =
      Prod.map id (pruned cut) (c.writeAll client deviceId writes)
  | [], _ => rfl
  | (featureId, value) :: writes, c => by
    unfold writeAll
    rw [write_pruned h]
    rcases c.write client deviceId featureId value with ⟨error | _, next⟩
    · rfl
    · exact writeAll_pruned deviceId writes next

theorem finish_pruned (func : String) (answer : Except DeviceError Unit) :
    finish client func (answer, c.pruned cut) =
      Prod.map id (pruned cut) (finish client func (answer, c)) := by
  cases answer with
  | ok =>
    simp only [finish, refresh_pruned h]
    rfl
  | error e =>
    simp only [finish, startReauth_pruned]
    split <;> rfl

theorem writeFeatures_pruned (func deviceId : String) (writes : List (String × Json)) :
    (c.pruned cut).writeFeatures client func deviceId writes =
      Prod.map id (pruned cut) (c.writeFeatures client func deviceId writes) := by
  unfold writeFeatures
  rw [writeAll_pruned h]
  exact finish_pruned h _ func _

theorem perform_pruned (e : Entity) (action : Action) : (c.pruned cut).perform client e action =
    (c.perform client e action).map (Prod.map id (pruned cut)) := by
  unfold perform
  rw [Option.map_map]
  congr 1
  funext plan
  cases plan with
  | ok writes => exact writeFeatures_pruned h c _ _ writes
  | error => rfl

end Connection

/-! ### What connections leave alone -/

section Keeps
variable {α : Type} {client : Client σ} {part : σ → α} (h : client.Keeps part)

namespace Connection

theorem startReauth_client (c : Connection σ) : c.startReauth.client = c.client := by
  unfold startReauth
  split <;> rfl

include h

theorem refresh_keeps (c : Connection σ) : part (c.refresh client).2.client = part c.client := by
  have hfetch := h.fetch c.client
  unfold refresh
  rcases hf : client.fetch c.client with ⟨error | device, state⟩
  · rw [hf] at hfetch
    simp only [react]
    split
    · rw [startReauth_client]
      exact hfetch
    · exact hfetch
  · rw [hf] at hfetch
    exact hfetch

theorem writeAll_keeps (deviceId : String) : ∀ (writes : List (String × Json)) (c : Connection σ),
    part (c.writeAll client deviceId writes).2.client = part c.client
  | [], _ => rfl
  | (featureId, value) :: writes, c => by
    have hwrite : part (c.write client deviceId featureId value).2.client = part c.client :=
      h.write c.client deviceId featureId value
    unfold writeAll
    rcases hw : c.write client deviceId featureId value with ⟨error | _, next⟩
    · rw [hw] at hwrite
      exact hwrite
    · rw [hw] at hwrite
      exact (writeAll_keeps deviceId writes next).trans hwrite

theorem finish_keeps (func : String) (answer : Except DeviceError Unit) (c : Connection σ) :
    part (finish client func (answer, c)).2.client = part c.client := by
  cases answer with
  | ok => exact refresh_keeps h c
  | error e =>
    simp only [finish]
    split
    · rw [startReauth_client]
    · rfl

theorem writeFeatures_keeps (func deviceId : String) (writes : List (String × Json))
    (c : Connection σ) :
    part (c.writeFeatures client func deviceId writes).2.client = part c.client :=
  (finish_keeps h func _ _).trans (writeAll_keeps h deviceId writes c)

theorem perform_keeps {e : Entity} {action : Action} {answer : Except ActionError Unit}
    {c c' : Connection σ} (hp : c.perform client e action = some (answer, c')) :
    part c'.client = part c.client := by
  obtain ⟨plan, -, hplan⟩ := Option.map_eq_some_iff.mp hp
  cases plan with
  | ok writes =>
    have hkeeps := writeFeatures_keeps h action.func e.deviceId writes c
    simp only at hplan
    rw [hplan] at hkeeps
    exact hkeeps
  | error =>
    cases hplan
    rfl

end Connection

end Keeps

end HomeEntities
