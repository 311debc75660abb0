import HomeEntities.Proofs.Connection.Operations

/-! # How a connection advances

An operation of a connection asks the client for some things and logs some events. `Advances` says
what follows from these for the coordinator: it fetches at most once and keeps what was fetched
(`Fetches`); of a failed fetch it tells only if the one before succeeded; and rejected credentials,
wherever they were rejected, make it ask for new ones, which it tells of the first time. Writes that
succeed in front of it make no difference (`Advances.written_append`), so that a refresh
(`refresh_advances`) and an action that writes (`writeFeatures_advances`) are told in one way. -/

namespace HomeEntities

variable {σ : Type} {client : Client σ}

/-! ### What exchanges and events tell -/

/-- Whether credentials were rejected in an exchange. -/
def Exchange.rejected : Exchange → Bool
  | fetch (.error e) | write _ _ _ (.error e) => e.failure == .authentication
  | _ => false

/-- The failure in the answer of a fetch. -/
def failure? : Except DeviceError Device → Option DeviceError
  | .ok _ => none
  | .error e => some e

/-- The trees that were fetched. -/
def treesOf (xs : List Exchange) : List Device :=
  (xs.filterMap Exchange.fetched?).filterMap Except.toOption

theorem treesOf_append (xs ys : List Exchange) : treesOf (xs ++ ys) = treesOf xs ++ treesOf ys := by
  unfold treesOf
  rw [List.filterMap_append, List.filterMap_append]

/-- The failure of a fetch that an event tells of. -/
def Event.refreshFailed? : Event → Option DeviceError
  | refreshFailed e => some e
  | _ => none

/-- The device for which an event tells that new credentials are asked for. -/
def Event.reauthStarted? : Event → Option String
  | reauthStarted name => some name
  | _ => none

/-- An event that tells of the connection rather than of entities. -/
def Event.ofConnection? : Event → Option Event
  | refreshFailed e => some (refreshFailed e)
  | reauthStarted name => some (reauthStarted name)
  | _ => none

/-- Events that tell of entities only. -/
def OfEntities (events : List Event) : Prop := events.filterMap Event.ofConnection? = []

theorem OfEntities.append {events more : List Event} (h : OfEntities events)
    (h' : OfEntities more) : OfEntities (events ++ more) := by
  unfold OfEntities at *
  rw [List.filterMap_append, h, h', List.append_nil]

theorem OfEntities.filterMap_eq_nil {β : Type} {digest : Event → Option β} {events : List Event}
    (h : OfEntities events) (hd : ∀ event, digest event = event.ofConnection?.bind digest) :
    events.filterMap digest = [] := by
  rw [funext hd, ← List.filterMap_filterMap, show events.filterMap _ = [] from h]
  rfl

theorem OfEntities.filterMap_refreshFailed? {events : List Event} (h : OfEntities events) :
    events.filterMap Event.refreshFailed? = [] :=
  h.filterMap_eq_nil fun event => by cases event <;> rfl

theorem OfEntities.filterMap_reauthStarted? {events : List Event} (h : OfEntities events) :
    events.filterMap Event.reauthStarted? = [] :=
  h.filterMap_eq_nil fun event => by cases event <;> rfl

namespace Coordinator

/-- What becomes of the tree and of the flag by the fetches of an operation, of which there is at
most one. -/
inductive Fetches (k k' : Coordinator) : List (Except DeviceError Device) → Prop
  | none (hs : k'.snapshot = k.snapshot) (hl : k'.lastUpdateSuccess = k.lastUpdateSuccess) :
      Fetches k k' []
  | ok {device : Device} (hs : k'.snapshot = device) (hl : k'.lastUpdateSuccess = true) :
      Fetches k k' [.ok device]
  | error {e : DeviceError} (hs : k'.snapshot = k.snapshot) (hl : k'.lastUpdateSuccess = false) :
      Fetches k k' [.error e]

/-- What exchanges and events mean for the coordinator. -/
structure Advances (k : Coordinator) (xs : List Exchange) (events : List Event)
    (k' : Coordinator) : Prop where
  fetches : k.Fetches k' (xs.filterMap Exchange.fetched?)
  /-- A failed fetch is logged if the fetch before it succeeded. -/
  refreshFailed : events.filterMap Event.refreshFailed? =
    if k.lastUpdateSuccess then (xs.filterMap Exchange.fetched?).filterMap failure? else []
  /-- A rejection is the last thing that happens. -/
  trees : xs.any Exchange.rejected = true → treesOf xs = []
  reauthRequested : k'.reauthRequested = (k.reauthRequested || xs.any Exchange.rejected)
  /-- The first request for credentials is logged. -/
  reauthStarted : events.filterMap Event.reauthStarted? =
    if !k.reauthRequested && xs.any Exchange.rejected then [k.snapshot.name] else []

variable {k k' : Coordinator} {xs : List Exchange} {events : List Event}

theorem Advances.idle (k : Coordinator) (h : OfEntities events) : k.Advances [] events k where
  fetches := .none rfl rfl
  refreshFailed := by rw [h.filterMap_refreshFailed?]; simp
  trees _ := rfl
  reauthRequested := (Bool.or_false _).symm
  reauthStarted := by rw [h.filterMap_reauthStarted?]; simp

theorem Advances.written_append (h : k.Advances xs events k') (deviceId : String)
    (done : List (String × Json)) :
    k.Advances (done.map (.written deviceId) ++ xs) events k' := by
  have hfetched : (done.map (Exchange.written deviceId)).filterMap Exchange.fetched? = [] := by
    refine List.filterMap_eq_nil_iff.mpr fun x hx => ?_
    obtain ⟨w, -, rfl⟩ := List.mem_map.mp hx
    rfl
  have hrejected : (done.map (Exchange.written deviceId)).any Exchange.rejected = false := by
    refine List.any_eq_false.mpr fun x hx => ?_
    obtain ⟨w, -, rfl⟩ := List.mem_map.mp hx
    exact Bool.false_ne_true
  obtain ⟨h₁, h₂, h₃, h₄, h₅⟩ := h
  refine ⟨?_, ?_, ?_, ?_, ?_⟩
  · rwa [List.filterMap_append, hfetched]
  · rwa [List.filterMap_append, hfetched]
  · rwa [List.any_append, hrejected, Bool.false_or, treesOf, List.filterMap_append, hfetched]
  · rwa [List.any_append, hrejected, Bool.false_or]
  · rwa [List.any_append, hrejected, Bool.false_or]

end Coordinator

/-! ### Operations -/

namespace Connection

/-- The connection goes on by exchanges and events that fit together. -/
def Advances (client : Client σ) (c c' : Connection σ) : Prop :=
  ∃ xs events, Exchanged client c xs c' ∧ c'.events = c.events ++ events ∧
    c.coordinator.Advances xs events c'.coordinator

theorem log_advances {events : List Event} (h : OfEntities events) (c : Connection σ) :
    c.Advances client (c.log events) :=
  ⟨[], events, ⟨(List.append_nil _).symm, .nil _⟩, rfl, .idle _ h⟩

theorem Advances.refl (c : Connection σ) : c.Advances client c :=
  ⟨[], [], .refl c, (List.append_nil _).symm, .idle _ rfl⟩

/-- The events of a reaction to a failure. -/
def reauthEvents (c : Connection σ) (e : DeviceError) : List Event :=
  if !c.coordinator.reauthRequested && e.failure == .authentication then
    [.reauthStarted c.coordinator.snapshot.name]
  else []

theorem react_events (e : DeviceError) (c : Connection σ) :
    (c.react e).events = c.events ++ c.reauthEvents e := by
  unfold react reauthEvents startReauth
  by_cases ha : e.failure = .authentication <;> cases c.coordinator.reauthRequested <;> simp [ha]

theorem filterMap_reauthEvents (e : DeviceError) (c : Connection σ) :
    (c.reauthEvents e).filterMap Event.refreshFailed? = [] ∧
      (c.reauthEvents e).filterMap Event.reauthStarted? =
        if !c.coordinator.reauthRequested && e.failure == .authentication then
          [c.coordinator.snapshot.name]
        else [] := by
  unfold reauthEvents
  split
  · exact ⟨rfl, rfl⟩
  · exact ⟨rfl, rfl⟩

/-- The connection after a failed fetch, before anything is done about the credentials. -/
def afterFailure (c : Connection σ) (e : DeviceError) (s : σ) : Connection σ where
  client := s
  coordinator := { c.coordinator with lastUpdateSuccess := false }
  exchanges := c.exchanges ++ [.fetch (.error e)]
  events := c.events ++ if c.coordinator.lastUpdateSuccess then [.refreshFailed e] else []

theorem refresh_of_error {c : Connection σ} {e : DeviceError} {s : σ}
    (h : client.fetch c.client = (.error e, s)) :
    c.refresh client = (.error e, (c.afterFailure e s).react e) := by
  unfold refresh; rw [h]; rfl

theorem refresh_advances (c : Connection σ) : c.Advances client (c.refresh client).2 := by
  cases h : client.fetch c.client with
  | mk answer s =>
    cases answer with
    | ok device =>
      unfold refresh
      rw [h]
      refine ⟨[.fetch (.ok device)], [], ⟨rfl, .fetch h (.nil _)⟩, (List.append_nil _).symm, ?_⟩
      have hnone : [Exchange.fetch (.ok device)].any Exchange.rejected = false := rfl
      refine ⟨.ok rfl rfl, ?_, fun h => absurd h Bool.false_ne_true, ?_, ?_⟩
      · cases c.coordinator.lastUpdateSuccess <;> rfl
      · rw [hnone, Bool.or_false]
      · rw [hnone, Bool.and_false]; rfl
    | error e =>
      have hx : Exchanged client c [.fetch (.error e)] (c.afterFailure e s) :=
        ⟨rfl, .fetch h (.nil _)⟩
      obtain ⟨hrefresh, hreauth⟩ := filterMap_reauthEvents e (c.afterFailure e s)
      rw [refresh_of_error h]
      refine ⟨[.fetch (.error e)], (if c.coordinator.lastUpdateSuccess then [.refreshFailed e]
        else []) ++ (c.afterFailure e s).reauthEvents e, hx.append (react_exchanged e _), ?_, ?_⟩
      · rw [react_events, ← List.append_assoc]
        rfl
      · rw [react_coordinator]
        refine ⟨.error rfl rfl, ?_, fun _ => rfl, ?_, ?_⟩
        · rw [List.filterMap_append, hrefresh, List.append_nil]
          cases c.coordinator.lastUpdateSuccess <;> rfl
        · simp [Exchange.rejected, afterFailure]
        · rw [List.filterMap_append, hreauth]
          cases c.coordinator.lastUpdateSuccess <;>
            simp [Exchange.rejected, Event.reauthStarted?, afterFailure]

/-- **A failed write**, when it has been reacted to. -/
theorem write_error_advances (deviceId : String) (w : String × Json) (e : DeviceError)
    (c : Connection σ) : c.coordinator.Advances [.write deviceId w.1 w.2 (.error e)]
      (c.reauthEvents e) (c.react e).coordinator := by
  obtain ⟨hrefresh, hreauth⟩ := filterMap_reauthEvents e c
  rw [react_coordinator]
  refine ⟨.none rfl rfl, ?_, fun _ => rfl, ?_, ?_⟩
  · rw [hrefresh]; simp [Exchange.fetched?]
  · simp [Exchange.rejected]
  · rw [hreauth]; simp [Exchange.rejected]

theorem writeFeatures_advances (func deviceId : String) (writes : List (String × Json))
    (c : Connection σ) : c.Advances client (c.writeFeatures client func deviceId writes).2 := by
  unfold writeFeatures
  cases h : c.writeAll client deviceId writes with
  | mk answer c₁ =>
    cases writeAll_cases h with
    | ok hx hq =>
      obtain ⟨xs, events, hx', he, ha⟩ := @refresh_advances _ client c₁
      refine ⟨_, events, hx.append hx', ?_, ?_⟩
      · rw [← hq.events]; exact he
      · rw [← hq.coordinator]; exact ha.written_append deviceId writes
    | @error _ done rest last e hsplit hx hq =>
      rw [finish_error_eq]
      have hall := hx.append (react_exchanged e c₁)
      rw [List.append_nil] at hall
      refine ⟨_, c₁.reauthEvents e, hall, ?_, ?_⟩
      · rw [← hq.events]; exact c₁.react_events e
      · rw [← hq.coordinator]
        exact (write_error_advances deviceId last e c₁).written_append deviceId done

theorem perform_advances {e : Entity} {action : Action} {c c' : Connection σ}
    {answer : Except ActionError Unit} (h : c.perform client e action = some (answer, c')) :
    c.Advances client c' := by
  unfold perform at h
  obtain ⟨checked, -, hc⟩ := Option.map_eq_some_iff.mp h
  cases checked with
  | ok writes =>
    have ha := @writeFeatures_advances σ client action.func e.deviceId writes c
    rwa [show c.writeFeatures client action.func e.deviceId writes = (answer, c') from hc] at ha
  | error refusal => cases hc; exact .refl c

end Connection

end HomeEntities
