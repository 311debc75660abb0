import HomeEntities.Proofs.Session.EntityIds
import HomeEntities.Proofs.Session.Protocol
import HomeEntities.Proofs.Setup.Journal
import Mathlib.Data.List.SplitBy

/-! # Availability

What is told of an entity over a run of routine steps, of any length and in any order. Its updates
have outcomes (`Session.readings`), the one made by set-up being the first; `failureStreaks` are the
maximal runs of failures among them. `Tracks` relates the entity to these outcomes: its flag is the
last of them, and the log has one warning for each streak. It holds after set-up (`tracks_setUp`)
and is kept by every routine step (`Tracks.step`), hence by runs (`Tracks.run`). What the registry
hears depends on the last fetch besides (`available_iff`), which reachable sessions know about
(`Reachable.current`). `Reachable.availability` is the result. -/

namespace HomeEntities

/-! ### Streaks -/

/-- The maximal runs of failures in a list of outcomes. -/
def failureStreaks (outcomes : List Bool) : List (List Bool) :=
  (outcomes.splitBy (· == ·)).filter (·.contains false)

/-- What goes with the last element joins its group. -/
theorem splitBy_concat {α : Type} {r : α → α → Bool} {l : List α} {groups : List (List α)}
    {g : List α} {b : α} (h : l.splitBy r = groups ++ [g]) (hb : ∀ a ∈ g.getLast?, r a b = true) :
    (l ++ [b]).splitBy r = groups ++ [g ++ [b]] := by
  obtain ⟨hl, hnil, hchain, hsplit⟩ := List.splitBy_eq_iff.mp h
  have hg : g ≠ [] := by
    rintro rfl
    exact hnil (by simp)
  refine List.splitBy_eq_iff.mpr ⟨?_, ?_, ?_, ?_⟩
  · rw [hl]; simp
  · simpa using fun hmem => hnil (List.mem_append_left [g] hmem)
  · intro m hm
    rcases List.mem_append.mp hm with hm | hm
    · exact hchain m (List.mem_append_left [g] hm)
    · rw [List.mem_singleton.mp hm]
      refine List.isChain_append.mpr ⟨hchain g (by simp), List.isChain_singleton b, ?_⟩
      intro a ha b' hb'
      obtain rfl : b = b' := by simpa using hb'
      exact hb a ha
  · obtain ⟨hgroups, -, hlast⟩ := List.isChain_append.mp hsplit
    refine List.isChain_append.mpr ⟨hgroups, List.isChain_singleton _, ?_⟩
    intro a ha g' hg'
    obtain rfl : g ++ [b] = g' := by simpa using hg'
    obtain ⟨hane, hgne, hr⟩ := hlast a ha g rfl
    exact ⟨hane, by simp, by rwa [List.head_append_of_ne_nil hgne]⟩

/-- **One more outcome** begins a streak if it is a failure and the last one was none. -/
theorem length_failureStreaks_concat (outcomes : List Bool) (b : Bool) :
    (failureStreaks (outcomes ++ [b])).length = (failureStreaks outcomes).length +
      if b = false ∧ outcomes.getLast? ≠ some false then 1 else 0 := by
  unfold failureStreaks
  by_cases hlast : outcomes.getLast? = some b
  · -- the outcome joins the last group, which has it already
    obtain ⟨groups, g, hsplit⟩ : ∃ groups g, outcomes.splitBy (· == ·) = groups ++ [g] := by
      rcases List.eq_nil_or_concat (outcomes.splitBy (· == ·)) with h | ⟨groups, g, h⟩
      · rw [List.splitBy_eq_nil.mp h] at hlast
        cases hlast
      · exact ⟨groups, g, by rw [h, List.concat_eq_append]⟩
    have hg : g.getLast? = some b := by
      obtain ⟨hflat, hnil, -⟩ := List.splitBy_eq_iff.mp hsplit
      have hne : g ≠ [] := fun h => hnil (by simp [h])
      rwa [hflat, List.flatten_append, List.flatten_singleton,
        List.getLast?_append_of_ne_nil _ hne] at hlast
    have hfalse : (g ++ [b]).contains false = g.contains false := by
      have hmem := List.mem_of_getLast? hg
      cases b with
      | true => simp
      | false => simp [hmem]
    have hjoin : (outcomes ++ [b]).splitBy (· == ·) = groups ++ [g ++ [b]] :=
      splitBy_concat hsplit fun a ha => by
        rw [hg, Option.mem_some] at ha
        exact beq_iff_eq.mpr ha.symm
    have hcond : ¬ (b = false ∧ outcomes.getLast? ≠ some false) := by
      rintro ⟨rfl, h⟩
      exact h hlast
    rw [hjoin, hsplit, if_neg hcond, List.filter_append, List.filter_append, List.length_append,
      List.length_append, List.filter_singleton, List.filter_singleton, hfalse]
    cases g.contains false <;> rfl
  · -- the outcome makes a group of its own
    have hnew : (outcomes ++ [b]).splitBy (· == ·) = outcomes.splitBy (· == ·) ++ [[b]] := by
      refine List.splitBy_append_cons [] fun a ha => ?_
      rw [beq_eq_false_iff_ne]
      rintro rfl
      exact hlast ha
    rw [hnew, List.filter_append, List.length_append]
    congr 1
    cases b with
    | true => rfl
    | false => rw [if_pos ⟨rfl, hlast⟩]; rfl

/-! ### Set-up -/

section SetUp
variable {table : List Platform} {root : Device} {extras : Extras} {e : Entity}
  (he : e ∈ setUpEntities table root extras)
include he

theorem readable_of_mem_setUpEntities : e.readable = e.reads root := by
  obtain ⟨c, rfl⟩ := exists_update_of_mem_settle he
  rw [c.update_readable, c.update_reads]

theorem count_unreadableIds : (unreadableIds (setUpEntities table root extras)).count e.entityId =
    if e.readable = true then 0 else 1 := by
  have hnodup := nodup_map_entityId_setUpEntities table root extras
  unfold unreadableIds
  split
  · rename_i hr
    refine List.count_eq_zero.mpr fun hmem => ?_
    obtain ⟨e', hmem', hid⟩ := List.mem_map.mp hmem
    obtain ⟨he', hr'⟩ := List.mem_filter.mp hmem'
    rw [List.inj_on_of_nodup_map hnodup he' he hid, hr] at hr'
    cases hr'
  · rename_i hr
    refine List.count_eq_one_of_mem (hnodup.sublist (List.filter_sublist.map _)) ?_
    exact List.mem_map_of_mem (List.mem_filter.mpr ⟨he, by simp [hr]⟩)

end SetUp

/-! ### Readings -/

namespace Session

variable {σ : Type} {client : Client σ}

/-- The outcome of the update that a step makes of the entity in a place, if it makes one. -/
def reading? (s : Session σ) (i : Nat) (step : Step σ) : Option Bool :=
  if step.updates i then (s.entities[i]?).map (·.reads s.connection.coordinator.snapshot) else none

/-- The outcomes of all updates that a run makes of the entity in a place. -/
def readings (client : Client σ) (extras : Extras) (i : Nat) (s : Session σ) :
    List (Step σ) → List Bool
  | [] => []
  | step :: steps =>
    (s.reading? i step).toList ++ readings client extras i (s.step client extras step).2 steps

theorem reading?_eq {s : Session σ} {i : Nat} {e : Entity} (he : s.entities[i]? = some e)
    (step : Step σ) : s.reading? i step =
      if step.updates i then some (e.reads s.connection.coordinator.snapshot) else none := by
  unfold reading?
  rw [he]
  rfl

/-! ### The last fetch -/

theorem step_current (extras : Extras) {s : Session σ} {step : Step σ}
    (hr : step.isRoutine = true) (h : s.connection.Current) :
    (s.step client extras step).2.connection.Current := by
  by_cases hu : ∀ i, step.updates i = false
  · exact (step_proceeds client extras hr hu).current h
  · -- updates log what they do, and ask nothing of the client
    cases step with
    | update index =>
      simp only [Session.step]
      split
      · exact h
      · exact h.congr rfl rfl
    | updateAll => exact h.congr rfl rfl
    | _ => exact absurd (fun _ => rfl) hu

theorem Reachable.current {s : Session σ} (h : s.Reachable client) : s.connection.Current := by
  induction h with
  | @connect start s h =>
    unfold Session.connect at h
    obtain ⟨c, hc, rfl⟩ := map_eq_ok.mp h
    exact Connection.connect_current hc
  | @step s _ extras step hb ih =>
    cases step with
    | bind => cases hb
    | setUp =>
      simp only [Session.step]
      split
      · exact ih.congr rfl rfl
      · exact ih
    | rename index entityId =>
      simp only [Session.step]
      split <;> exact ih
    | _ => exact step_current extras rfl ih

/-- The registry hears of an entity as available if its last update and the last fetch both
succeeded. -/
theorem available_iff {c : Connection σ} (h : c.Current) (e : Entity) :
    e.available c.coordinator = true ↔
      e.readable = true ∧ ∃ device, c.fetches.getLast? = some (.ok device) := by
  obtain ⟨answer, hlast, hsuccess⟩ := h
  rw [Entity.available, Bool.and_eq_true, and_comm, hsuccess, hlast]
  refine and_congr_right fun _ => ?_
  cases answer with
  | error => simp [Except.isOk, Except.toBool]
  | ok device => simp [Except.isOk, Except.toBool]

/-! ### What is told of an entity -/

/-- How an entity and the log since some time agree with the outcomes of its updates. -/
structure Tracks (since : List Event) (outcomes : List Bool) (i : Nat) (e : Entity)
    (s : Session σ) : Prop where
  entity : s.entities[i]? = some e
  readable : outcomes.getLast? = some e.readable
  /-- There is one warning for each streak of failures. -/
  log : ∃ log, s.connection.events = since ++ log ∧
    warnings e.entityId log = (failureStreaks outcomes).length

/-- What set-up does to a session: it never fails, and it logs which entities it could not read. -/
theorem step_setUp (client : Client σ) (s : Session σ) (extras : Extras) :
    ∃ events, s.step client extras .setUp = (.done, {
        connection := s.connection.log events
        entities := setUpEntities Platform.all s.connection.coordinator.snapshot extras }) ∧
      events.filterMap Event.unreadable? =
        unreadableIds (setUpEntities Platform.all s.connection.coordinator.snapshot extras) := by
  obtain ⟨events, hok, -, -, -, hunreadable⟩ :=
    setUpWith_log Platform.all s.connection.coordinator.snapshot extras
  generalize setUpEntities Platform.all s.connection.coordinator.snapshot extras = entities at *
  refine ⟨events ++ [.setUp entities.length s.connection.coordinator.snapshot.name], ?_, ?_⟩
  · simp only [Session.step, setUp, hok]
  · rw [List.filterMap_append, hunreadable]
    exact List.append_nil _

theorem nodup_map_entityId_step_setUp (client : Client σ) (s : Session σ) (extras : Extras) :
    ((s.step client extras .setUp).2.entities.map (·.entityId)).Nodup := by
  obtain ⟨events, hstep, -⟩ := step_setUp client s extras
  rw [hstep]
  exact nodup_map_entityId_setUpEntities _ _ _

theorem tracks_setUp (extras : Extras) {s : Session σ} {i : Nat} {e : Entity}
    (he : (s.step client extras .setUp).2.entities[i]? = some e) :
    Tracks s.connection.events [e.reads s.connection.coordinator.snapshot] i e
      (s.step client extras .setUp).2 := by
  obtain ⟨events, hstep, hunreadable⟩ := step_setUp client s extras
  rw [hstep] at he ⊢
  have hmem := List.mem_of_getElem? he
  rw [← readable_of_mem_setUpEntities hmem]
  refine ⟨he, rfl, events, rfl, ?_⟩
  unfold HomeEntities.warnings
  rw [hunreadable, count_unreadableIds hmem]
  cases e.readable <;> rfl

/-- **A routine step** adds the outcome of the update that it makes, if it makes one. -/
theorem Tracks.step {since : List Event} {outcomes : List Bool} {i : Nat} {e : Entity}
    {s : Session σ} (h : s.Tracks since outcomes i e) (client : Client σ) (extras : Extras)
    {step : Step σ} (hr : step.isRoutine = true) (hn : (s.entities.map (·.entityId)).Nodup) :
    ∃ e', (s.step client extras step).2.Tracks since
        (outcomes ++ (s.reading? i step).toList) i e' ∧ e'.entityId = e.entityId := by
  obtain ⟨log, hlog, hcount⟩ := h.log
  obtain ⟨events, hevents, hwarn⟩ := step_log client extras hr hn h.entity
  have hentity := step_getElem? client extras s hr i
  rw [h.entity, Option.map_some] at hentity
  rw [reading?_eq h.entity]
  have hsince : (s.step client extras step).2.connection.events = since ++ (log ++ events) := by
    rw [hevents, hlog, List.append_assoc]
  by_cases hu : step.updates i = true
  · rw [if_pos hu] at hentity ⊢
    refine ⟨_, ⟨hentity, ?_, _, hsince, ?_⟩, e.update_entityId _⟩
    · rw [Option.toList_some, List.getLast?_concat, Entity.updated, e.update_readable]
    · rw [Entity.updated, e.update_entityId, warnings_append, hcount, hwarn, Option.toList_some,
        length_failureStreaks_concat, h.readable]
      congr 1
      simp [hu, and_comm]
  · rw [if_neg hu] at hentity ⊢
    rw [Option.toList_none, List.append_nil]
    refine ⟨_, ⟨hentity, h.readable, _, hsince, ?_⟩, rfl⟩
    rw [warnings_append, hcount, hwarn, if_neg fun hw => hu hw.1, Nat.add_zero]

/-- **A run** adds the outcomes of all updates that it makes. -/
theorem Tracks.run (extras : Extras) {since : List Event} {i : Nat} : ∀ {steps : List (Step σ)}
    {outcomes : List Bool} {e : Entity} {s : Session σ}, s.Tracks since outcomes i e →
      (s.entities.map (·.entityId)).Nodup → (∀ step ∈ steps, step.isRoutine = true) →
        ∃ e', (s.run client extras steps).Tracks since
            (outcomes ++ readings client extras i s steps) i e' ∧ e'.entityId = e.entityId
  | [], outcomes, e, s, h, _, _ => by
    rw [readings, List.append_nil]
    exact ⟨e, h, rfl⟩
  | step :: steps, outcomes, e, s, h, hn, hr => by
    have hstep := hr step List.mem_cons_self
    obtain ⟨e', h', hid⟩ := h.step client extras hstep hn
    have hn' := hn
    rw [← step_map_entityId client extras s hstep] at hn'
    obtain ⟨e'', h'', hid'⟩ := Tracks.run extras h' hn' fun step' hmem =>
      hr step' (List.mem_cons_of_mem step hmem)
    rw [List.append_assoc] at h''
    exact ⟨e'', h'', hid'.trans hid⟩

/-- **Availability.** Let an entity be set up in a reachable session, and let any routine steps
follow. The entity's flag is then the outcome of its last update. The registry hears of it as
available exactly if besides the last fetch succeeded. The log since set-up began has one warning
for each streak of failures: the next step logs one exactly if it begins a streak. -/
theorem Reachable.availability {s : Session σ} (hs : s.Reachable client) (extras : Extras) {i : Nat}
    {e : Entity} (he : (s.step client extras .setUp).2.entities[i]? = some e)
    {steps : List (Step σ)} (hr : ∀ step ∈ steps, step.isRoutine = true) {s' : Session σ}
    (h : (s.step client extras .setUp).2.run client extras steps = s') :
    ∃ e', s'.Tracks s.connection.events
        (e.reads s.connection.coordinator.snapshot ::
          readings client extras i (s.step client extras .setUp).2 steps) i e' ∧
      e'.entityId = e.entityId ∧
      (e'.available s'.connection.coordinator = true ↔
        e'.readable = true ∧ ∃ device, s'.connection.fetches.getLast? = some (.ok device)) ∧
      ∀ step : Step σ, step.isRoutine = true →
        ∃ events, (s'.step client extras step).2.connection.events =
            s'.connection.events ++ events ∧
          warnings e'.entityId events =
            if e'.readable = true ∧ s'.reading? i step = some false then 1 else 0 := by
  have hset := hs.step extras .setUp rfl
  have hs' : s'.Reachable client :=
    h ▸ hset.run extras fun step hmem => Step.isBind_of_isRoutine (hr step hmem)
  have hn := nodup_map_entityId_step_setUp client s extras
  obtain ⟨e', hlast, hid⟩ := (tracks_setUp extras he).run extras hn hr
  have hn' := hn
  rw [← run_map_entityId client extras hr] at hn'
  rw [h] at hlast hn'
  refine ⟨e', hlast, hid, available_iff hs'.current e', fun step hstep => ?_⟩
  obtain ⟨events, hevents, hwarn⟩ := step_log client extras hstep hn' hlast.entity
  refine ⟨events, hevents, hwarn.trans ?_⟩
  rw [reading?_eq hlast.entity]
  by_cases hu : step.updates i = true <;> simp [hu]

/-! ### A lamp that is without its features for a while -/

/-- The session of the lamp before set-up. -/
def lampStart : Session Client.Faulty where
  connection := {
    client := lampClient
    coordinator := { snapshot := lamp }
    exchanges := [.fetch (.ok lamp)] }

/-- The features go and come back; at last the lamp does not answer any more. -/
def lampSteps : List (Step Client.Faulty) := [
  .alter fun c => { c with root := { lamp with features := [] } },
  .refresh, .update 0, .updateAll,
  .alter fun c => { c with root := lamp },
  .update 0, .refresh, .update 0,
  .alter fun c => { c with fetchFault := some ⟨.timeout, "no answer"⟩ },
  .refresh, .act 0 .turnOff, .update 0]

theorem lampStart_availability :
    ∃ e s' e', lampStart.Reachable Client.faulty ∧
      (lampStart.step Client.faulty {} .setUp).2.entities[0]? = some e ∧
      (∀ step ∈ lampSteps, step.isRoutine = true) ∧
      (lampStart.step Client.faulty {} .setUp).2.run Client.faulty {} lampSteps = s' ∧
      s'.Tracks [] [true, false, false, false, true, true] 0 e' ∧ e'.entityId = e.entityId ∧
      (e'.available s'.connection.coordinator = true ↔
        e'.readable = true ∧ ∃ device, s'.connection.fetches.getLast? = some (.ok device)) ∧
      ∃ events, (s'.step Client.faulty {} .updateAll).2.connection.events =
          s'.connection.events ++ events ∧
        warnings e'.entityId events =
          if e'.readable = true ∧ s'.reading? 0 .updateAll = some false then 1 else 0 := by
  have hreachable : lampStart.Reachable Client.faulty := @Reachable.connect _ _ lampClient _ rfl
  have hroutine : ∀ step ∈ lampSteps, step.isRoutine = true := by simp [lampSteps, Step.isRoutine]
  have hfirst : ((lampStart.step Client.faulty {} .setUp).2.entities[0]?).map (·.reads lamp) =
      some true := rfl
  obtain ⟨e, he, hreads⟩ := Option.map_eq_some_iff.mp hfirst
  have hreadings : readings Client.faulty {} 0 (lampStart.step Client.faulty {} .setUp).2
      lampSteps = [false, false, false, true, true] := rfl
  obtain ⟨e', htracks, hid, havailable, hnext⟩ :=
    hreachable.availability {} he hroutine rfl
  rw [hreadings, show e.reads lampStart.connection.coordinator.snapshot = true from hreads]
    at htracks
  exact ⟨e, _, e', hreachable, he, hroutine, rfl, htracks, hid, havailable, hnext .updateAll rfl⟩

end Session

end HomeEntities
