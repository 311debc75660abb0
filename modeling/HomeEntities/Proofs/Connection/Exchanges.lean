import HomeEntities.Connection.Action

/-! # Exchanges of a connection

The record of a connection tells what its client was really asked and what it answered
(`Exchanged`). The parts of an action are described by what they exchange: `refresh` fetches once,
`writeAll` stops at the first write that fails (`writeAll_cases`), and after a failed write nothing
is exchanged any more (`finish_error`). `writeFeatures_cases` puts them together. -/

namespace HomeEntities

variable {σ : Type} {client : Client σ}

/-- The client, asked in turn, gives the answers recorded and ends up in the last state. -/
inductive Client.Answers (client : Client σ) : σ → List Exchange → σ → Prop
  | nil (s : σ) : Answers client s [] s
  | fetch {s s' t : σ} {answer : Except DeviceError Device} {rest : List Exchange}
      (h : client.fetch s = (answer, s')) (hr : Answers client s' rest t) :
      Answers client s (.fetch answer :: rest) t
  | write {s s' t : σ} {deviceId featureId : String} {value : Json}
      {answer : Except DeviceError Unit} {rest : List Exchange}
      (h : client.write s deviceId featureId value = (answer, s'))
      (hr : Answers client s' rest t) :
      Answers client s (.write deviceId featureId value answer :: rest) t

theorem Client.Answers.append {s s' t : σ} {xs ys : List Exchange} (h : client.Answers s xs s')
    (h' : client.Answers s' ys t) : client.Answers s (xs ++ ys) t := by
  induction h with
  | nil => exact h'
  | fetch hf _ ih => exact .fetch hf (ih h')
  | write hw _ ih => exact .write hw (ih h')

/-- A write that succeeded. -/
def Exchange.written (deviceId : String) (w : String × Json) : Exchange :=
  .write deviceId w.1 w.2 (.ok ())

namespace Connection

/-- Between two states of a connection these exchanges took place, and no others. -/
structure Exchanged (client : Client σ) (c : Connection σ) (xs : List Exchange)
    (c' : Connection σ) : Prop where
  recorded : c'.exchanges = c.exchanges ++ xs
  answered : client.Answers c.client xs c'.client

theorem Exchanged.refl (c : Connection σ) : Exchanged client c [] c :=
  ⟨(List.append_nil _).symm, .nil _⟩

theorem Exchanged.append {c c' c'' : Connection σ} {xs ys : List Exchange}
    (h : Exchanged client c xs c') (h' : Exchanged client c' ys c'') :
    Exchanged client c (xs ++ ys) c'' := by
  refine ⟨?_, h.answered.append h'.answered⟩
  rw [h'.recorded, h.recorded, List.append_assoc]

/-! ### Fetches -/

theorem startReauth_coordinator (c : Connection σ) :
    c.startReauth.coordinator = { c.coordinator with reauthRequested := true } := by
  unfold startReauth
  split
  · rename_i h
    rw [← h]
  · rfl

theorem startReauth_exchanged (c : Connection σ) : Exchanged client c [] c.startReauth := by
  unfold startReauth
  split
  · exact .refl c
  · exact ⟨(List.append_nil _).symm, .nil _⟩

theorem react_coordinator (e : DeviceError) (c : Connection σ) :
    (c.react e).coordinator = { c.coordinator with
      reauthRequested := c.coordinator.reauthRequested || e.failure == .authentication } := by
  unfold react
  split
  · rename_i ha
    rw [startReauth_coordinator, ha, beq_self_eq_true, Bool.or_true]
  · rename_i ha
    rw [beq_false_of_ne ha, Bool.or_false]

theorem react_exchanged (e : DeviceError) (c : Connection σ) :
    Exchanged client c [] (c.react e) := by
  unfold react
  split
  · exact startReauth_exchanged c
  · exact .refl c

/-- **A refresh** fetches once. -/
theorem refresh_exchanged (c : Connection σ) :
    ∃ answer, Exchanged client c [.fetch answer] (c.refresh client).2 := by
  unfold refresh
  split
  · rename_i device s h
    exact ⟨.ok device, rfl, .fetch h (.nil _)⟩
  · rename_i e s h
    refine ⟨.error e, ?_⟩
    show Exchanged client c ([.fetch (.error e)] ++ []) _
    refine Exchanged.append ?_ (react_exchanged e _)
    exact ⟨rfl, .fetch h (.nil _)⟩

/-! ### Writes -/

/-- The coordinator and the log stay. -/
structure Quiet (c c' : Connection σ) : Prop where
  coordinator : c'.coordinator = c.coordinator
  events : c'.events = c.events

theorem Quiet.refl (c : Connection σ) : Quiet c c := ⟨rfl, rfl⟩

theorem Quiet.trans {c c' c'' : Connection σ} (h : Quiet c c') (h' : Quiet c' c'') : Quiet c c'' :=
  ⟨h'.coordinator.trans h.coordinator, h'.events.trans h.events⟩

theorem write_spec {deviceId featureId : String} {value : Json} {c c' : Connection σ}
    {answer : Except DeviceError Unit}
    (h : c.write client deviceId featureId value = (answer, c')) :
    Exchanged client c [.write deviceId featureId value answer] c' ∧ Quiet c c' := by
  unfold write at h
  obtain ⟨rfl, rfl⟩ := Prod.mk.inj h
  exact ⟨⟨rfl, .write rfl (.nil _)⟩, rfl, rfl⟩

/-- What can come of writing a list of values: all are written, or those before the first that
fails. -/
inductive WriteAll (client : Client σ) (deviceId : String) (writes : List (String × Json))
    (c : Connection σ) : Except DeviceError Unit → Connection σ → Prop
  | ok {c' : Connection σ} (h : Exchanged client c (writes.map (.written deviceId)) c')
      (hq : Quiet c c') : WriteAll client deviceId writes c (.ok ()) c'
  | error {c' : Connection σ} {done rest : List (String × Json)} {last : String × Json}
      {e : DeviceError} (hw : writes = done ++ last :: rest)
      (h : Exchanged client c
        (done.map (.written deviceId) ++ [.write deviceId last.1 last.2 (.error e)]) c')
      (hq : Quiet c c') : WriteAll client deviceId writes c (.error e) c'

/-- **Writes** stop at the first that fails. -/
theorem writeAll_cases {deviceId : String} : ∀ {writes : List (String × Json)}
    {c c' : Connection σ} {answer : Except DeviceError Unit},
    c.writeAll client deviceId writes = (answer, c') →
      WriteAll client deviceId writes c answer c'
  | [], c, c', answer, h => by
    obtain ⟨rfl, rfl⟩ := Prod.mk.inj h
    exact .ok (.refl c) (.refl c)
  | w :: rest, c, c', answer, h => by
    unfold writeAll at h
    split at h
    · -- the first write succeeds, and what follows decides
      rename_i c₁ hw
      obtain ⟨hx, hq⟩ := write_spec hw
      cases writeAll_cases h with
      | ok hx' hq' => exact .ok (hx.append hx') (hq.trans hq')
      | @error _ done rest' last e hr hx' hq' =>
        have hsplit : w :: rest = (w :: done) ++ last :: rest' := by rw [hr]; rfl
        exact .error hsplit (hx.append hx') (hq.trans hq')
    · rename_i e c₁ hw
      obtain ⟨rfl, rfl⟩ := Prod.mk.inj h
      obtain ⟨hx, hq⟩ := write_spec hw
      exact .error (List.nil_append _).symm hx hq

/-! ### What follows the writes -/

theorem startReauth_notice (failure : Failure) :
    failure.notice.startReauth = (failure == .authentication) := by
  cases failure <;> rfl

theorem finish_error_eq (func : String) (e : DeviceError) (c : Connection σ) :
    finish client func (.error e, c) = (.error (.device (.ofError func e)), c.react e) := by
  simp only [finish, react, startReauth_notice, beq_iff_eq]

/-- **A failed write** is reported; nothing is exchanged after it, and all that changes of the
coordinator is that rejected credentials lead to a request for new ones. -/
theorem finish_error (func : String) (e : DeviceError) (c : Connection σ) :
    ∃ c', finish client func (.error e, c) = (.error (.device (.ofError func e)), c') ∧
      Exchanged client c [] c' ∧
      c'.coordinator = { c.coordinator with
        reauthRequested := c.coordinator.reauthRequested || e.failure == .authentication } :=
  ⟨c.react e, finish_error_eq func e c, react_exchanged e c, react_coordinator e c⟩

/-- What can come of an action that writes: all is written and the tree is fetched, or a write fails
and is reported. -/
inductive WriteFeatures (client : Client σ) (func deviceId : String)
    (writes : List (String × Json)) (c : Connection σ) :
    Except ActionError Unit → Connection σ → Prop
  | ok {c' : Connection σ} {answer : Except DeviceError Device}
      (h : Exchanged client c (writes.map (.written deviceId) ++ [.fetch answer]) c') :
      WriteFeatures client func deviceId writes c (.ok ()) c'
  | error {c' : Connection σ} {done rest : List (String × Json)} {last : String × Json}
      {e : DeviceError} (hw : writes = done ++ last :: rest)
      (h : Exchanged client c
        (done.map (.written deviceId) ++ [.write deviceId last.1 last.2 (.error e)]) c')
      (hc : c'.coordinator = { c.coordinator with
        reauthRequested := c.coordinator.reauthRequested || e.failure == .authentication }) :
      WriteFeatures client func deviceId writes c (.error (.device (.ofError func e))) c'

theorem writeFeatures_cases {func deviceId : String} {writes : List (String × Json)}
    {c c' : Connection σ} {answer : Except ActionError Unit}
    (h : c.writeFeatures client func deviceId writes = (answer, c')) :
    WriteFeatures client func deviceId writes c answer c' := by
  unfold writeFeatures at h
  cases hw : c.writeAll client deviceId writes with
  | mk written c₁ =>
    rw [hw] at h
    cases writeAll_cases hw with
    | ok hx hq =>
      obtain ⟨fetched, hf⟩ := @refresh_exchanged _ client c₁
      obtain ⟨rfl, rfl⟩ := Prod.mk.inj h
      exact .ok (hx.append hf)
    | @error _ done rest last e hsplit hx hq =>
      obtain ⟨c₂, hfin, hx', hc⟩ := @finish_error _ client func e c₁
      rw [hfin] at h
      obtain ⟨rfl, rfl⟩ := Prod.mk.inj h
      have hall := hx.append hx'
      rw [List.append_nil] at hall
      exact .error hsplit hall (by rw [hc, hq.coordinator])

end Connection

end HomeEntities
