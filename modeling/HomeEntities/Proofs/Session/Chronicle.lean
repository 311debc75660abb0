import HomeEntities.Proofs.Connection.Advances
import HomeEntities.Proofs.Session.Protocol
import HomeEntities.Proofs.Session.Routine

/-! # The chronicle of a connection

All that a coordinator knows, and all that the log tells of the connection, can be told from the
record of exchanges (`Connection.Chronicle`): the tree is the one fetched last, the flag tells of
the last fetch, the log names the failed fetches that followed a success (`onsets`), and new
credentials are asked for once, when they are first rejected.

Connecting makes such a connection (`connect_chronicle`), and every step that reacts to answers of
the client alone (`Step.isOperation`) keeps it one, since it lets the connection advance
(`step_advances`, `Chronicle.advance`); `connection_over_run` is the sum of it. -/

namespace HomeEntities

variable {σ : Type} {client : Client σ}

/-! ### What entities log -/

theorem EntityCategory.ofEntities_events (feature : Option Feature) :
    OfEntities (EntityCategory.events feature) :=
  EntityCategory.filterMap_events (fun _ _ => rfl) feature

theorem Entity.ofEntities_update (snapshot : Device) (e : Entity) :
    OfEntities (e.update snapshot).2 :=
  e.filterMap_update snapshot (fun _ => rfl) fun _ _ _ _ => rfl

section SetUp
variable (root : Device)

theorem Progress.ofEntities_consider (platform : Platform) {p : Progress}
    (h : OfEntities p.events) (e : Entity) : OfEntities (p.consider root platform e).events := by
  unfold consider
  split
  · exact h.append rfl
  · exact h.append (Entity.ofEntities_update root _)

theorem Progress.ofEntities_foldl (platform : Platform) : ∀ (created : List Entity) {p : Progress},
    OfEntities p.events → OfEntities (created.foldl (consider root platform) p).events
  | [], _, h => h
  | e :: created, _, h => by
    rw [List.foldl_cons]
    exact ofEntities_foldl platform created (ofEntities_consider root platform h e)

theorem Progress.ofEntities_table (extras : Extras) : ∀ {table : List Platform} {p p' : Progress},
    OfEntities p.events → table.foldlM (Progress.platform root extras) p = .ok p' →
      OfEntities p'.events
  | [], p, p', h, hp => by cases hp; exact h
  | platform :: table, p, p', h, hp => by
    rw [List.foldlM_cons, Progress.platform, Platform.candidates_eq] at hp
    have hmade : OfEntities (platform.events root) :=
      platform.filterMap_events (fun _ => rfl) (fun _ _ => rfl) root
    have hcount : ∀ n, OfEntities [.created n platform] := fun _ => rfl
    exact ofEntities_table extras
      (ofEntities_foldl root platform _ (h.append (hmade.append (hcount _)))) hp

end SetUp

/-- **Set-up** tells of entities only. -/
theorem setUp_ofEntities {root : Device} {extras : Extras} {entities : List Entity}
    {events : List Event} (h : setUp root extras = .ok (entities, events)) : OfEntities events := by
  unfold setUp setUpWith at h
  split at h
  · cases h
  · rename_i p hp
    cases h
    exact (Progress.ofEntities_table root extras (p := {}) rfl hp).append rfl

/-! ### Failures after a success -/

/-- The failure of a fetch right after one that succeeded. -/
def onset? : Except DeviceError Device × Except DeviceError Device → Option DeviceError
  | (.ok _, .error e) => some e
  | _ => none

/-- Of the answers of fetches, the failures that come right after a success. -/
def onsets (answers : List (Except DeviceError Device)) : List DeviceError :=
  (answers.zip answers.tail).filterMap onset?

theorem onsets_concat (answer : Except DeviceError Device) : ∀ {answers : List _}
    {last : Except DeviceError Device}, answers.getLast? = some last →
      onsets (answers ++ [answer]) = onsets answers ++ (onset? (last, answer)).toList
  | [a], last, h => by
    cases h
    cases ho : onset? (a, answer) <;> simp [onsets, ho]
  | a :: b :: rest, last, h => by
    rw [List.getLast?_cons_cons] at h
    have ih := @onsets_concat answer (b :: rest) last h
    unfold onsets at ih ⊢
    simp only [List.cons_append, List.tail_cons, List.zip_cons_cons] at ih ⊢
    rw [List.filterMap_cons, List.filterMap_cons, ih]
    cases onset? (a, b) <;> rfl

/-! ### The chronicle -/

/-- The tree that was fetched last in a record. -/
def lastTree? (xs : List Exchange) : Option Device := (treesOf xs).getLast?

/-- What a record tells up to the first rejection. -/
def beforeRejection (xs : List Exchange) : List Exchange := xs.takeWhile fun x => !x.rejected

theorem lastTree?_append {xs ys : List Exchange} (h : treesOf ys = []) :
    lastTree? (xs ++ ys) = lastTree? xs := by
  rw [lastTree?, treesOf_append, h, List.append_nil, lastTree?]

theorem beforeRejection_append_of_any {xs : List Exchange} (ys : List Exchange)
    (h : xs.any Exchange.rejected = true) :
    beforeRejection (xs ++ ys) = beforeRejection xs := by
  induction xs with
  | nil => cases h
  | cons x xs ih =>
    cases hx : x.rejected with
    | true => simp [beforeRejection, hx]
    | false =>
      rw [List.any_cons, hx, Bool.false_or] at h
      have := ih h
      unfold beforeRejection at this ⊢
      simp [hx, this]

theorem beforeRejection_append_of_none {xs : List Exchange} (ys : List Exchange)
    (h : xs.any Exchange.rejected = false) :
    beforeRejection (xs ++ ys) = xs ++ beforeRejection ys := by
  rw [List.any_eq_false] at h
  exact List.takeWhile_append_of_pos fun x hx => by simpa using h x hx

theorem treesOf_beforeRejection {xs : List Exchange} (h : treesOf xs = []) :
    treesOf (beforeRejection xs) = [] := by
  have hprefix : treesOf (beforeRejection xs) <+: treesOf xs :=
    ((List.takeWhile_prefix _).filterMap _).filterMap _
  rw [h] at hprefix
  exact List.prefix_nil.mp hprefix

namespace Connection

/-- What a connection knows and what it has logged, told from the record of its exchanges. -/
structure Chronicle (client : Client σ) (start : σ) (c : Connection σ) : Prop where
  answered : client.Answers start c.exchanges c.client
  snapshot : lastTree? c.exchanges = some c.coordinator.snapshot
  /-- The flag tells whether the last fetch succeeded. -/
  lastUpdateSuccess : c.Current
  refreshFailed : c.events.filterMap Event.refreshFailed? = onsets c.fetches
  reauthRequested : c.coordinator.reauthRequested = c.exchanges.any Exchange.rejected
  /-- The request for credentials is logged at the first rejection, by the name known then. -/
  reauthStarted : c.events.filterMap Event.reauthStarted? =
    if c.exchanges.any Exchange.rejected then
      ((lastTree? (beforeRejection c.exchanges)).map (·.name)).toList
    else []

theorem connect_chronicle {start : σ} {c : Connection σ} (h : connect client start = .ok c) :
    c.Chronicle client start := by
  unfold connect at h
  split at h
  · rename_i device s hf
    cases h
    exact ⟨.fetch hf (.nil _), rfl, ⟨_, rfl, rfl⟩, rfl, rfl, rfl⟩
  · cases h

theorem onset?_error {last : Except DeviceError Device} (e : DeviceError) :
    (onset? (last, .error e)).toList = if last.isOk then [e] else [] := by
  cases last <;> rfl

theorem Chronicle.advance {start : σ} {c c' : Connection σ} (h : c.Chronicle client start)
    (ha : c.Advances client c') : c'.Chronicle client start := by
  obtain ⟨xs, events, hx, he, ⟨hfetches, hfailed, htrees, hrequested, hstarted⟩⟩ := ha
  obtain ⟨last, hlast, hok⟩ := h.lastUpdateSuccess
  have hf : c'.fetches = c.fetches ++ xs.filterMap Exchange.fetched? := by
    unfold fetches
    rw [hx.recorded, List.filterMap_append]
  have ht : treesOf xs = (xs.filterMap Exchange.fetched?).filterMap Except.toOption := rfl
  generalize xs.filterMap Exchange.fetched? = answers at hfetches hfailed hf ht
  refine ⟨?_, ?_, ?_, ?_, ?_, ?_⟩
  · rw [hx.recorded]
    exact h.answered.append hx.answered
  · rw [hx.recorded]
    cases hfetches with
    | none hs hl => rw [lastTree?_append ht, h.snapshot, hs]
    | @ok device hs hl => rw [lastTree?, treesOf_append, ht, hs]; exact List.getLast?_concat
    | error hs hl => rw [lastTree?_append ht, h.snapshot, hs]
  · rw [Current, hf]
    cases hfetches with
    | none hs hl => rw [List.append_nil, hl]; exact h.lastUpdateSuccess
    | ok hs hl => exact ⟨_, List.getLast?_concat, hl⟩
    | error hs hl => exact ⟨_, List.getLast?_concat, hl⟩
  · rw [he, List.filterMap_append, h.refreshFailed, hfailed, hf]
    cases hfetches with
    | none hs hl => rw [List.append_nil]; simp
    | ok hs hl =>
      rw [onsets_concat _ hlast]
      cases last <;> simp [onset?, failure?]
    | error hs hl =>
      rw [onsets_concat _ hlast, onset?_error, ← hok]
      rfl
  · rw [hx.recorded, List.any_append, hrequested, h.reauthRequested]
  · rw [he, List.filterMap_append, h.reauthStarted, hstarted, hx.recorded, h.reauthRequested,
      List.any_append]
    cases hold : c.exchanges.any Exchange.rejected with
    | true => rw [beforeRejection_append_of_any xs hold]; simp
    | false =>
      cases hnew : xs.any Exchange.rejected with
      | false => rfl
      | true =>
        rw [beforeRejection_append_of_none xs hold,
          lastTree?_append (treesOf_beforeRejection (htrees hnew)), h.snapshot]
        rfl

end Connection

/-! ### Runs -/

/-- Whether all that a step reacts to was answered by the client. -/
def Step.isOperation : Step σ → Bool
  | startReauth | finish .. | alter _ => false
  | _ => true

namespace Session

theorem step_advances (extras : Extras) (s : Session σ) {step : Step σ}
    (h : step.isOperation = true) :
    s.connection.Advances client (s.step client extras step).2.connection := by
  cases step with
  | startReauth | finish | alter => cases h
  | setUp =>
    simp only [Session.step]
    split
    · rename_i hs
      exact Connection.log_advances (setUp_ofEntities hs) _
    · exact .refl _
  | bind binding =>
    simp only [Session.step]
    split
    · exact Connection.log_advances (EntityCategory.ofEntities_events _) _
    · exact .refl _
  | refresh => exact Connection.refresh_advances _
  | update index =>
    simp only [Session.step]
    split
    · exact .refl _
    · exact Connection.log_advances (Entity.ofEntities_update _ _) _
  | updateAll =>
    refine Connection.log_advances ?_ _
    rw [updateEntities_snd, OfEntities, List.filterMap_flatMap]
    exact List.flatMap_eq_nil_iff.mpr fun e _ => Entity.ofEntities_update _ e
  | act index action =>
    simp only [Session.step]
    split
    · exact .refl _
    · split
      · exact .refl _
      · rename_i hp
        exact Connection.perform_advances hp
  | write index func writes =>
    simp only [Session.step]
    split
    · exact .refl _
    · exact Connection.writeFeatures_advances _ _ _ _
  | rename =>
    simp only [Session.step]
    split <;> exact .refl _

theorem run_chronicle (extras : Extras) {start : σ} : ∀ {steps : List (Step σ)} {s : Session σ},
    s.connection.Chronicle client start → (∀ step ∈ steps, step.isOperation = true) →
      (s.run client extras steps).connection.Chronicle client start
  | [], _, h, _ => h
  | step :: steps, s, h, hs => by
    have hstep := h.advance (step_advances extras s (hs step List.mem_cons_self))
    rw [run_cons]
    exact run_chronicle extras hstep fun step' hmem => hs step' (List.mem_cons_of_mem step hmem)

theorem run_reauthRequested (extras : Extras) : ∀ {steps : List (Step σ)} {s : Session σ},
    (∀ step ∈ steps, step.isOperation = true) →
      s.connection.coordinator.reauthRequested = true →
        (s.run client extras steps).connection.coordinator.reauthRequested = true
  | [], _, _, h => h
  | step :: steps, s, hs, h => by
    obtain ⟨xs, events, -, -, ha⟩ :=
      @step_advances _ client extras s step (hs step List.mem_cons_self)
    have hstep : (s.step client extras step).2.connection.coordinator.reauthRequested = true := by
      rw [ha.reauthRequested, h, Bool.true_or]
    rw [run_cons]
    exact run_reauthRequested extras
      (fun step' hmem => hs step' (List.mem_cons_of_mem step hmem)) hstep

/-- **The connection over a whole run.** It can be told from the record of exchanges; with every
further step it advances by what the step exchanges; and once asked for, credentials remain asked
for. -/
theorem connection_over_run {start : σ} {s : Session σ} (h : connect client start = .ok s)
    (extras : Extras) {steps : List (Step σ)} (hs : ∀ step ∈ steps, step.isOperation = true) :
    (s.run client extras steps).connection.Chronicle client start ∧
      (∀ step : Step σ, step.isOperation = true →
        (s.run client extras steps).connection.Advances client
          (s.run client extras (steps ++ [step])).connection) ∧
      ∀ more : List (Step σ), (∀ step ∈ more, step.isOperation = true) →
        (s.run client extras steps).connection.coordinator.reauthRequested = true →
          (s.run client extras (steps ++ more)).connection.coordinator.reauthRequested = true := by
  have hstart : s.connection.Chronicle client start := by
    unfold connect at h
    cases hc : Connection.connect client start with
    | error => rw [hc] at h; cases h
    | ok c => rw [hc] at h; cases h; exact Connection.connect_chronicle hc
  refine ⟨run_chronicle extras hstart hs, fun step hstep => ?_, fun more hmore hr => ?_⟩
  · rw [run_append]
    exact step_advances extras _ hstep
  · rw [run_append]
    exact run_reauthRequested extras hmore hr

/-! ### A lamp that is hard to reach -/

/-- A client that counts what it is asked and fails every so often. -/
def fitful : Client Nat where
  fetch n :=
    (match n with
      | 1 | 5 => .error ⟨.timeout, "no answer"⟩
      | 2 => .error ⟨.authentication, "token expired"⟩
      | _ => .ok lamp, n + 1)
  write n _ _ _ :=
    (if n = 4 then .error ⟨.authentication, "token expired"⟩ else .ok (), n + 1)

/-- The session of the lamp when it was first reached. -/
def fitfulStart : Session Nat where
  connection := {
    client := 1
    coordinator := { snapshot := lamp }
    exchanges := [.fetch (.ok lamp)] }

/-- Twice the lamp is not reached, and a rejected write is between. -/
def fitfulSteps : List (Step Nat) :=
  [.setUp, .refresh, .refresh, .refresh, .act 0 .turnOn, .refresh]

theorem fitfulStart_over_run :
    ∃ c, connect fitful 0 = .ok fitfulStart ∧
      (∀ step ∈ fitfulSteps, step.isOperation = true) ∧
      (fitfulStart.run fitful {} fitfulSteps).connection = c ∧ c.client = 6 ∧
      c.exchanges = [.fetch (.ok lamp), .fetch (.error ⟨.timeout, "no answer"⟩),
        .fetch (.error ⟨.authentication, "token expired"⟩), .fetch (.ok lamp),
        .write "80067AC4" "state" (.bool true) (.error ⟨.authentication, "token expired"⟩),
        .fetch (.error ⟨.timeout, "no answer"⟩)] ∧
      c.events.filterMap Event.refreshFailed? =
        [⟨.timeout, "no answer"⟩, ⟨.timeout, "no answer"⟩] ∧
      c.events.filterMap Event.reauthStarted? = ["Lamp"] ∧
      c.Chronicle fitful 0 ∧
      c.Advances fitful (fitfulStart.run fitful {} (fitfulSteps ++ [.refresh])).connection := by
  have hconnect : connect fitful 0 = .ok fitfulStart := rfl
  have hsteps : ∀ step ∈ fitfulSteps, step.isOperation = true := by
    simp [fitfulSteps, Step.isOperation]
  obtain ⟨hchronicle, hadvances, -⟩ := connection_over_run hconnect {} hsteps
  exact ⟨_, hconnect, hsteps, rfl, rfl, rfl, rfl, rfl, hchronicle, hadvances .refresh rfl⟩

end Session

end HomeEntities
