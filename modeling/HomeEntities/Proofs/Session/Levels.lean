import HomeEntities.Cli
import HomeEntities.Proofs.Connection.Levels
import HomeEntities.Proofs.Connection.Operations
import HomeEntities.Proofs.Device.Presentation
import HomeEntities.Proofs.Entity.ReadBack
import HomeEntities.Proofs.Session.Reachable
import HomeEntities.Proofs.Setup.Records

/-! # The two levels of a tree in sessions

What lies below the children of a device is carried along in a session and never looked at: if the
trees that the client deals in are pruned, the session takes the same course step by step
(`Session.step_pruned`), hence in runs (`Session.run_pruned`), with the same outcomes
(`Session.outcomes_pruned`), and it looks like the session that it was (`Session.LooksLike`). No
step touches what is cut off, either (`Session.run_keeps`). With what is known of set-up,
`only_two_levels` puts this together. -/

namespace HomeEntities

variable {σ : Type}

/-! ### Steps -/

/-- A step, and what it is for a session in which the trees are pruned. -/
inductive Step.Alike (cut : σ → σ) : Step σ → Step σ → Prop
  | same {step : Step σ} (h : ∀ change, step ≠ .alter change) : Alike cut step step
  | bind {binding binding' : Binding} (h : binding.leaf = binding'.leaf) :
    Alike cut (.bind binding) (.bind binding')
  | alter {change change' : σ → σ} (h : ∀ c, cut (change c) = change' (cut c)) :
    Alike cut (.alter change) (.alter change')

namespace Session

variable {client : Client σ} {cut : σ → σ}

/-- The outcomes of the steps of a run, in order. -/
def outcomes (client : Client σ) (extras : Extras) (s : Session σ) : List (Step σ) → List Outcome
  | [] => []
  | step :: steps =>
    let (outcome, s) := s.step client extras step
    outcome :: outcomes client extras s steps

/-- The session as it would be if the trees had been pruned all along. -/
def pruned (cut : σ → σ) (s : Session σ) : Session σ :=
  { s with connection := s.connection.pruned cut }

theorem updateEntities_pruned (root : Device) :
    updateEntities root.pruned = updateEntities root := by
  funext entities
  induction entities with
  | nil => rfl
  | cons e entities ih => rw [updateEntities, updateEntities, Entity.update_pruned, ih]

section Prunes
variable (h : client.Prunes cut) (extras : Extras)
include h

theorem connect_pruned (start : σ) :
    connect client (cut start) = (connect client start).map (pruned cut) := by
  unfold connect
  rw [Connection.connect_pruned h]
  cases Connection.connect client start <;> rfl

/-- **One step** of a session in which the trees are pruned. -/
theorem step_pruned (s : Session σ) {step step' : Step σ} (ha : step.Alike cut step') :
    (s.pruned cut).step client extras step' =
      Prod.map id (pruned cut) (s.step client extras step) := by
  have hsnapshot : (s.pruned cut).connection.coordinator.snapshot =
      s.connection.coordinator.snapshot.pruned := rfl
  have hentities : (s.pruned cut).entities = s.entities := rfl
  have hconnection : (s.pruned cut).connection = s.connection.pruned cut := rfl
  cases ha with
  | @bind binding binding' hb =>
    -- an entity is made of the binding up to the children of its devices
    have hcreate : Entity.create Device.legacyId binding =
        Entity.create Device.legacyId binding' := by
      rw [← Binding.create_leaf, hb, Binding.create_leaf]
    have hevents : binding.events = binding'.events := by
      show binding.leaf.events = binding'.leaf.events
      rw [hb]
    simp only [step, hcreate, hevents]
    cases Entity.create Device.legacyId binding' <;> rfl
  | @alter change change' hc =>
    have hclient : change' (s.connection.pruned cut).client =
        cut (change s.connection.client) := (hc s.connection.client).symm
    simp only [step, hconnection, hclient]
    rfl
  | same hs =>
    cases step with
    | alter change => exact absurd rfl (hs change)
    | startReauth =>
      simp only [step, hconnection, Connection.startReauth_pruned]
      rfl
    | setUp =>
      simp only [step, hsnapshot, setUp_pruned]
      cases setUp s.connection.coordinator.snapshot extras <;> rfl
    | bind binding =>
      simp only [step]
      cases Entity.create Device.legacyId binding <;> rfl
    | refresh =>
      simp only [step, hconnection, Connection.refresh_pruned h]
      rfl
    | update index =>
      simp only [step, hsnapshot, hentities, Entity.update_pruned]
      cases s.entities[index]? <;> rfl
    | updateAll =>
      simp only [step, hsnapshot, hentities, updateEntities_pruned]
      rfl
    | act index action =>
      simp only [step, hentities, hconnection]
      cases s.entities[index]? with
      | none => rfl
      | some e =>
        simp only [Connection.perform_pruned h]
        cases s.connection.perform client e action <;> rfl
    | write index func writes =>
      simp only [step, hentities, hconnection]
      cases s.entities[index]? with
      | none => rfl
      | some e =>
        simp only [Connection.writeFeatures_pruned h]
        rfl
    | finish func answer =>
      simp only [step, hconnection, Connection.finish_pruned h]
      rfl
    | rename index entityId =>
      simp only [step, hentities]
      cases s.entities[index]? <;> rfl

/-- **A run** takes the same course. -/
theorem run_pruned {steps steps' : List (Step σ)} (ha : List.Forall₂ (Step.Alike cut) steps steps')
    (s : Session σ) : (s.pruned cut).run client extras steps' =
      (s.run client extras steps).pruned cut := by
  induction ha generalizing s with
  | nil => rfl
  | cons hstep _ ih =>
    rw [run_cons, run_cons, step_pruned h extras s hstep]
    exact ih _

theorem outcomes_pruned {steps steps' : List (Step σ)}
    (ha : List.Forall₂ (Step.Alike cut) steps steps') (s : Session σ) :
    outcomes client extras (s.pruned cut) steps' = outcomes client extras s steps := by
  induction ha generalizing s with
  | nil => rfl
  | cons hstep _ ih =>
    rw [outcomes, outcomes, step_pruned h extras s hstep]
    exact congrArg (_ :: ·) (ih _)

end Prunes

/-! ### What is seen of a session -/

/-- What is seen of two sessions is the same: the entities with their states, what was logged, what
was written and with what answer, how the fetches came out, and what the connection says of itself.
-/
structure LooksLike (s s' : Session σ) : Prop where
  entities : s.entities = s'.entities
  events : s.connection.events = s'.connection.events
  writes : s.connection.exchanges.filter (!·.isFetch) =
    s'.connection.exchanges.filter (!·.isFetch)
  fetches : s.connection.fetches.map (Except.map fun _ => ()) =
    s'.connection.fetches.map (Except.map fun _ => ())
  lastUpdateSuccess : s.connection.coordinator.lastUpdateSuccess =
    s'.connection.coordinator.lastUpdateSuccess
  reauthRequested : s.connection.coordinator.reauthRequested =
    s'.connection.coordinator.reauthRequested

theorem pruned_looksLike (cut : σ → σ) (s : Session σ) : (s.pruned cut).LooksLike s where
  entities := rfl
  events := rfl
  writes := by
    show (s.connection.exchanges.map Exchange.pruned).filter _ = _
    induction s.connection.exchanges with
    | nil => rfl
    | cons exchange exchanges ih =>
      cases exchange with
      | fetch => exact ih
      | write => exact congrArg (_ :: ·) ih
  fetches := by
    show ((s.connection.exchanges.map Exchange.pruned).filterMap _).map _ =
      (s.connection.exchanges.filterMap _).map _
    induction s.connection.exchanges with
    | nil => rfl
    | cons exchange exchanges ih =>
      cases exchange with
      | fetch answer =>
        refine List.cons_eq_cons.mpr ⟨?_, ih⟩
        cases answer <;> rfl
      | write => exact ih
  lastUpdateSuccess := rfl
  reauthRequested := rfl

/-! ### What sessions leave alone -/

section Keeps
variable {α : Type} {client : Client σ} {part : σ → α} (h : client.Keeps part)
include h

/-- **A step** leaves what is none of the client's concern, unless it changes the client itself. -/
theorem step_keeps (extras : Extras) (s : Session σ) {step : Step σ}
    (ha : ∀ change, step = .alter change → ∀ c, part (change c) = part c) :
    part (s.step client extras step).2.connection.client = part s.connection.client := by
  cases step with
  | alter change => exact ha change rfl _
  | refresh => exact Connection.refresh_keeps h _
  | finish func answer => exact Connection.finish_keeps h func answer _
  | updateAll => rfl
  | startReauth => exact congrArg part (Connection.startReauth_client _)
  | setUp | bind | update | rename =>
    simp only [step]
    split <;> rfl
  | act index action =>
    simp only [step]
    split
    · rfl
    · split
      · rfl
      · rename_i hp
        exact Connection.perform_keeps h hp
  | write index func writes =>
    simp only [step]
    split
    · rfl
    · exact Connection.writeFeatures_keeps h func _ writes _

theorem run_keeps (extras : Extras) : ∀ {steps : List (Step σ)} (s : Session σ),
    (∀ change, .alter change ∈ steps → ∀ c, part (change c) = part c) →
      part (s.run client extras steps).connection.client = part s.connection.client
  | [], _, _ => rfl
  | step :: steps, s, ha => by
    have hstep := step_keeps h extras s fun change heq =>
      ha change (heq ▸ List.mem_cons_self)
    rw [run_cons]
    exact (run_keeps extras _ fun change hmem =>
      ha change (List.mem_cons_of_mem step hmem)).trans hstep

end Keeps

end Session

/-! ### Plans -/

theorem Device.ofFile_of_ofJson? (path : String) {content : FileContent} {text : String}
    {value : Json} {device : Device} (htext : content.text = .ok text)
    (hvalue : Json.read? text = some value) (hn : value.nesting .device ≤ nestingLimit)
    (hdevice : Device.ofJson? value = some device) : Device.ofFile path content = .ok device := by
  unfold ofFile
  simp only [htext, read?_of_ofJson? hvalue hn hdevice]

/-- **A plan** is the same for the pruned tree. -/
theorem Command.run_pruned {command : Command} {files files' : String → FileContent}
    {root : Device} (h : Device.ofFile command.snapshot (files command.snapshot) = .ok root)
    (h' : Device.ofFile command.snapshot (files' command.snapshot) = .ok root.pruned)
    (hconfig : command.configuration files' = command.configuration files) :
    command.run files' = command.run files := by
  have hplan : ∀ config, command.plan config files' = command.plan config files := by
    intro config
    unfold plan
    rw [h, h']
    show (setUp root.pruned config.extras).mapError CommandError.setUp >>= _ = _
    rw [setUp_pruned]
    rfl
  unfold run
  rw [hconfig]
  simp only [hplan]

/-! ### All of it -/

/-- **Only two levels exist.** Pruning a tree changes nothing of its set-up and nothing of its plan.
If all trees that a client deals in are pruned, then whatever steps are taken in a session, where
changes of the device are pruned with it, all outcomes are the same, and so is all that is seen of
the session; the clients that keep a tree in memory allow for this. Entities are made of the root
and of its children only, and read from these and not from what is below; a write that succeeds is
addressed to the root or to a child, and over any run in which what is below is not changed from
outside it stays as it is. -/
theorem only_two_levels :
    (∀ root extras, setUp root.pruned extras = setUp root extras) ∧
    (∀ (command : Command) (files files' : String → FileContent) (root : Device),
      Device.ofFile command.snapshot (files command.snapshot) = .ok root →
      Device.ofFile command.snapshot (files' command.snapshot) = .ok root.pruned →
      command.configuration files' = command.configuration files →
      command.run files' = command.run files) ∧
    (Client.tree.Prunes Device.pruned ∧ Client.faulty.Prunes Client.Faulty.pruned) ∧
    (∀ {σ : Type} {client : Client σ} {cut : σ → σ}, client.Prunes cut → ∀ extras start,
      Session.connect client (cut start) =
        (Session.connect client start).map (Session.pruned cut) ∧
      ∀ s steps steps', Session.connect client start = .ok s →
        List.Forall₂ (Step.Alike cut) steps steps' →
        Session.outcomes client extras (s.pruned cut) steps' =
          Session.outcomes client extras s steps ∧
        ((s.pruned cut).run client extras steps').LooksLike (s.run client extras steps)) ∧
    (∀ root extras entities events, setUp root extras = .ok (entities, events) →
      ∀ e ∈ entities, ∃ source, e.MadeOf root extras source ∧ source.device ∈ root.nodes) ∧
    (∀ (tree : Device) (e : Entity), e.update tree.pruned = e.update tree ∧
      ∀ d f, e.source tree = .ok (d, f) → d ∈ tree.nodes) ∧
    (∀ (root root' : Device) deviceId featureId value,
      root.write deviceId featureId value = .ok root' →
      (∃ d ∈ root.nodes, d.id = deviceId ∧ (d.feature? featureId).isSome = true) ∧
        root'.lower = root.lower) ∧
    ∀ extras (s : Session Client.Faulty) steps,
      (∀ change, .alter change ∈ steps → ∀ c, (change c).root.lower = c.root.lower) →
      (s.run Client.faulty extras steps).connection.client.root.lower =
        s.connection.client.root.lower := by
  refine ⟨setUp_pruned, ?_, ⟨Client.tree_prunes, Client.faulty_prunes⟩, ?_, ?_, ?_, ?_, ?_⟩
  · intro command files files' root hroot hpruned hconfig
    exact Command.run_pruned hroot hpruned hconfig
  · intro σ client cut h extras start
    refine ⟨Session.connect_pruned h start, fun s steps steps' _ ha => ?_⟩
    refine ⟨Session.outcomes_pruned h extras ha s, ?_⟩
    rw [Session.run_pruned h extras ha s]
    exact Session.pruned_looksLike cut _
  · intro root extras entities events hok e he
    rw [eq_setUpEntities hok] at he
    obtain ⟨source, hsource, horigin⟩ := exists_source_of_mem he
    exact ⟨source, ⟨hsource, horigin⟩, (Platform.placed_of_mem_sources hsource).mem_nodes⟩
  · intro tree e
    refine ⟨e.update_pruned tree, fun d f h => ?_⟩
    obtain ⟨hd, -⟩ := Entity.source_eq_ok.mp h
    rw [Device.find?_eq_find?_nodes] at hd
    exact List.mem_of_find?_eq_some hd
  · intro root root' deviceId featureId value h
    exact root.of_write_eq_ok deviceId featureId value h
  · intro extras s steps ha
    exact Session.run_keeps Client.faulty_keeps_lower extras s ha

/-! ### A tower of lamps -/

/-- A hub with a lamp, below which there is another lamp of the same id. -/
def tower : Device where
  id := "8"
  name := "T"
  model := ""
  mac := ""
  type := .hub
  children := [{
    id := "9"
    name := "A"
    model := ""
    mac := ""
    type := .bulb
    features := [{ id := stateId, name := "", type := .switch, category := .primary
                   value := .bool false }]
    children := [{ id := "9", name := "B", model := "", mac := "", type := .bulb }] }]

def towerText : String :=
  "[\"8\",\"T\",\"\",\"\",\"hub\",\"smart\",[],[],[[\"9\",\"A\",\"\",\"\",\"bulb\",\"smart\",[],
    [[\"state\",\"\",\"switch\",\"primary\",false]],[[\"9\",\"B\",\"\",\"\",\"bulb\"]]]]]"

def prunedTowerText : String :=
  "[\"8\",\"T\",\"\",\"\",\"hub\",\"smart\",[],[],[[\"9\",\"A\",\"\",\"\",\"bulb\",\"smart\",[],
    [[\"state\",\"\",\"switch\",\"primary\",false]]]]]"

/-- The tower by the order of its members, with what is below the first lamp. -/
def towerJson (lower : List Json) : Json := .arr [
  .str "8", .str "T", .str "", .str "", .str "hub", .str "smart", .arr [], .arr [],
  .arr [.arr ([.str "9", .str "A", .str "", .str "", .str "bulb", .str "smart", .arr [],
    .arr [.arr [.str "state", .str "", .str "switch", .str "primary", .bool false]]] ++ lower)]]

/-- The other lamp, as the last member of the first. -/
def towerLower : List Json :=
  [.arr [.arr [.str "9", .str "B", .str "", .str "", .str "bulb"]]]

set_option maxRecDepth 20000 in
theorem read?_towerText : Json.read? towerText = some (towerJson towerLower) := by cbv

set_option maxRecDepth 20000 in
theorem read?_prunedTowerText : Json.read? prunedTowerText = some (towerJson []) := by cbv

theorem ofFile_towerText : Device.ofFile "tower.json" (.ok towerText.toUTF8) = .ok tower :=
  Device.ofFile_of_ofJson? "tower.json" (by decide +kernel) read?_towerText (by decide) rfl

theorem ofFile_prunedTowerText :
    Device.ofFile "tower.json" (.ok prunedTowerText.toUTF8) = .ok tower.pruned :=
  Device.ofFile_of_ofJson? "tower.json" (by decide +kernel) read?_prunedTowerText (by decide) rfl

/-- The lamp is switched on, cannot be reached for a while, and is switched off. -/
def towerSteps : List (Step Client.Faulty) := [
  .setUp, .act 0 .turnOn,
  .alter fun c => { c with fetchFault := some ⟨.timeout, "no answer"⟩ },
  .refresh, .updateAll, .act 0 .turnOff]

theorem only_two_levels_tower :
    let command : Command := ⟨"tower.json", none⟩
    let start : Client.Faulty := { root := tower }
    Device.ofFile command.snapshot (.ok towerText.toUTF8) = .ok tower ∧
      Device.ofFile command.snapshot (.ok prunedTowerText.toUTF8) = .ok tower.pruned ∧
      command.run (fun _ => .ok prunedTowerText.toUTF8) =
        command.run (fun _ => .ok towerText.toUTF8) ∧
      ∃ s, Session.connect Client.faulty start = .ok s ∧
        Session.outcomes Client.faulty {} (s.pruned Client.Faulty.pruned) towerSteps =
          Session.outcomes Client.faulty {} s towerSteps ∧
        ((s.pruned Client.Faulty.pruned).run Client.faulty {} towerSteps).LooksLike
          (s.run Client.faulty {} towerSteps) ∧
        (s.run Client.faulty {} towerSteps).connection.client.root.lower = tower.lower := by
  intro command start
  obtain ⟨-, hplan, ⟨-, hprunes⟩, hsession, -, -, -, hlower⟩ := only_two_levels
  have hconfig : ∀ files, command.configuration files = .ok {} := fun _ => rfl
  have hcommand := hplan command (fun _ => .ok towerText.toUTF8)
    (fun _ => .ok prunedTowerText.toUTF8) tower ofFile_towerText ofFile_prunedTowerText
    ((hconfig _).trans (hconfig _).symm)
  have halike : List.Forall₂ (Step.Alike Client.Faulty.pruned) towerSteps towerSteps :=
    .cons (.same (by simp)) (.cons (.same (by simp)) (.cons (.alter fun _ => rfl)
      (.cons (.same (by simp)) (.cons (.same (by simp)) (.cons (.same (by simp)) .nil)))))
  have hconnect : Session.connect Client.faulty start = .ok { connection := {
      client := start
      coordinator := { snapshot := tower }
      exchanges := [.fetch (.ok tower)] } } := rfl
  obtain ⟨-, hrun⟩ := hsession hprunes {} start
  obtain ⟨houtcomes, hlooks⟩ := hrun _ towerSteps towerSteps hconnect halike
  refine ⟨ofFile_towerText, ofFile_prunedTowerText, hcommand, _, hconnect, houtcomes, hlooks, ?_⟩
  refine hlower {} _ towerSteps fun change hmem c => ?_
  simp only [towerSteps, List.mem_cons, reduceCtorEq, false_or, Step.alter.injEq, List.not_mem_nil,
    or_false] at hmem
  rw [hmem]

end HomeEntities
