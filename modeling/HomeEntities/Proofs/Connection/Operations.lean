import HomeEntities.Proofs.Connection.Exchanges
import HomeEntities.Proofs.Entity.Update

/-! # Operations of a connection

What the operations of a connection have in common (`Proceeds`): the log only grows, and nothing
added to it tells of the reading of an entity; and the coordinator goes on to know how the last
fetch came out (`Current`), the connecting one included. -/

namespace HomeEntities

variable {σ : Type} {client : Client σ}

/-- The answer of a fetch. -/
def Exchange.fetched? : Exchange → Option (Except DeviceError Device)
  | fetch answer => some answer
  | write .. => none

namespace Connection

/-- The answers of all fetches so far. -/
def fetches (c : Connection σ) : List (Except DeviceError Device) :=
  c.exchanges.filterMap Exchange.fetched?

/-- The coordinator knows whether the last fetch succeeded. -/
def Current (c : Connection σ) : Prop :=
  ∃ answer, c.fetches.getLast? = some answer ∧ c.coordinator.lastUpdateSuccess = answer.isOk

theorem Current.congr {c c' : Connection σ} (h : c.Current) (hf : c'.fetches = c.fetches)
    (hl : c'.coordinator.lastUpdateSuccess = c.coordinator.lastUpdateSuccess) : c'.Current := by
  unfold Current
  rw [hf, hl]
  exact h

theorem connect_current {start : σ} {c : Connection σ} (h : connect client start = .ok c) :
    c.Current := by
  unfold connect at h
  split at h
  · cases h; exact ⟨_, rfl, rfl⟩
  · cases h

/-- The connection goes on from the first state to the second, with no entity read. -/
structure Proceeds (c c' : Connection σ) : Prop where
  log : ∃ events, c'.events = c.events ++ events ∧ events.filterMap Event.unreadable? = []
  current : c.Current → c'.Current

theorem Proceeds.refl (c : Connection σ) : c.Proceeds c :=
  ⟨⟨[], (List.append_nil _).symm, rfl⟩, id⟩

theorem Proceeds.trans {c c' c'' : Connection σ} (h : c.Proceeds c') (h' : c'.Proceeds c'') :
    c.Proceeds c'' := by
  obtain ⟨events, he, hn⟩ := h.log
  obtain ⟨more, he', hn'⟩ := h'.log
  refine ⟨⟨events ++ more, ?_, ?_⟩, fun hc => h'.current (h.current hc)⟩
  · rw [he', he, List.append_assoc]
  · rw [List.filterMap_append, hn, hn']; rfl

/-! ### Fetches -/

theorem startReauth_proceeds (c : Connection σ) : c.Proceeds c.startReauth := by
  unfold startReauth
  split
  · exact .refl c
  · exact ⟨⟨_, rfl, rfl⟩, fun hc => hc.congr rfl rfl⟩

theorem react_proceeds (e : DeviceError) (c : Connection σ) : c.Proceeds (c.react e) := by
  unfold react
  split
  · exact startReauth_proceeds c
  · exact .refl c

theorem refresh_proceeds (c : Connection σ) : c.Proceeds (c.refresh client).2 := by
  unfold refresh
  split
  · rename_i device s h
    refine ⟨⟨[], (List.append_nil _).symm, rfl⟩, fun _ => ⟨.ok device, ?_, rfl⟩⟩
    simp [fetches, Exchange.fetched?]
  · rename_i e s h
    refine Proceeds.trans ?_ (react_proceeds e _)
    refine ⟨⟨_, rfl, ?_⟩, fun _ => ⟨.error e, ?_, rfl⟩⟩
    · split <;> rfl
    · simp [fetches, Exchange.fetched?]

/-! ### Actions -/

theorem fetches_append {c c' : Connection σ} {xs : List Exchange} (h : Exchanged client c xs c')
    (hx : ∀ x ∈ xs, x.fetched? = none) : c'.fetches = c.fetches := by
  unfold fetches
  rw [h.recorded, List.filterMap_append, List.filterMap_eq_nil_iff.mpr hx, List.append_nil]

theorem Quiet.proceeds {c c' : Connection σ} {xs : List Exchange} (h : Quiet c c')
    (hx : Exchanged client c xs c') (hw : ∀ x ∈ xs, x.fetched? = none) : c.Proceeds c' := by
  refine ⟨⟨[], ?_, rfl⟩, fun hc => hc.congr (fetches_append hx hw) (by rw [h.coordinator])⟩
  rw [List.append_nil]
  exact h.events

theorem writeAll_proceeds (deviceId : String) (writes : List (String × Json)) (c : Connection σ) :
    c.Proceeds (c.writeAll client deviceId writes).2 := by
  have hwritten : ∀ (ws : List (String × Json)), ∀ x ∈ ws.map (Exchange.written deviceId),
      x.fetched? = none := by
    intro ws x hx
    obtain ⟨w, -, rfl⟩ := List.mem_map.mp hx
    rfl
  cases h : c.writeAll client deviceId writes with
  | mk answer c' =>
    cases writeAll_cases h with
    | ok hx hq => exact hq.proceeds hx (hwritten _)
    | @error _ done rest last e hsplit hx hq =>
      refine hq.proceeds hx fun x hmem => ?_
      rcases List.mem_append.mp hmem with hmem | hmem
      · exact hwritten _ x hmem
      · rw [List.mem_singleton.mp hmem]; rfl

theorem finish_proceeds (func : String) (answer : Except DeviceError Unit) (c : Connection σ) :
    c.Proceeds (finish client func (answer, c)).2 := by
  cases answer with
  | ok => exact refresh_proceeds c
  | error e =>
    rw [finish_error_eq]
    exact react_proceeds e c

theorem writeFeatures_proceeds (func deviceId : String) (writes : List (String × Json))
    (c : Connection σ) : c.Proceeds (c.writeFeatures client func deviceId writes).2 :=
  (writeAll_proceeds deviceId writes c).trans (finish_proceeds func _ _)

theorem perform_proceeds {e : Entity} {action : Action} {c c' : Connection σ}
    {answer : Except ActionError Unit} (h : c.perform client e action = some (answer, c')) :
    c.Proceeds c' := by
  unfold perform at h
  obtain ⟨checked, -, hc⟩ := Option.map_eq_some_iff.mp h
  cases checked with
  | ok writes =>
    have hp := @writeFeatures_proceeds σ client action.func e.deviceId writes c
    rwa [show c.writeFeatures client action.func e.deviceId writes = (answer, c') from hc] at hp
  | error refusal => cases hc; exact .refl c

end Connection

end HomeEntities
