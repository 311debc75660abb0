import HomeEntities.Cli
import HomeEntities.Proofs.Session.Backed

/-! # What cannot fail

An identity is found for a request unless there is nothing to make a unique id of
(`Request.exists_resolve_iff`), and no platform makes such a request (`Platform.exists_resolve`). So
set-up succeeds on every tree, and with it the plan of every snapshot that can be read
(`Command.run_eq`). -/

namespace HomeEntities

/-! ### Identities -/

namespace Request

/-- What a unique id can be made of. -/
def HasUniqueId (r : Request) : Prop :=
  r.feature.isSome ∨ r.fixedId.isSome ∨ r.platform = .light ∨ r.key.isSome

variable (legacyId : Device → String) (r : Request)

theorem isOk_uniqueId_iff : (r.uniqueId legacyId).isOk = true ↔ r.HasUniqueId := by
  have hite : ∀ {p : Prop} [Decidable p] {a b : String},
      (if p then Except.ok a else .ok b : Except NoUniqueId String).isOk = true := by
    intro p _ a b; split <;> rfl
  unfold uniqueId HasUniqueId
  cases r.feature with
  | some feature => exact ⟨fun _ => Or.inl rfl, fun _ => hite⟩
  | none =>
    cases r.fixedId with
    | some id => exact ⟨fun _ => Or.inr (Or.inl rfl), fun _ => rfl⟩
    | none =>
      by_cases hl : r.platform = .light
      · simp [hl, hite]
      · cases r.key <;> simp [hl, Except.isOk, Except.toBool]

theorem exists_resolve_iff :
    (∃ identity, r.resolve legacyId = .ok identity) ↔ r.HasUniqueId := by
  rw [← isOk_uniqueId_iff legacyId]
  unfold resolve
  cases r.uniqueId legacyId with
  | ok id => exact ⟨fun _ => rfl, fun _ => ⟨_, rfl⟩⟩
  | error e =>
    constructor
    · rintro ⟨identity, h⟩; cases h
    · intro h; cases h

end Request

/-- **No platform asks for an identity in vain**, whatever devices were known by before. -/
theorem Platform.exists_resolve (legacyId : Device → String) {platform : Platform} {root : Device}
    (extras : Extras) {s : Source} (h : s ∈ platform.sources root) :
    ∃ identity, (platform.binding extras s).request.resolve legacyId = .ok identity := by
  refine (Request.exists_resolve_iff legacyId _).mpr ?_
  rcases platform.featureType?_cases with ⟨type, ht⟩ | rfl | rfl
  · left
    show s.feature.isSome = true
    rw [isSome_feature_of_mem_sources h, ht]
    rfl
  · exact Or.inr (Or.inr (Or.inl rfl))
  · exact Or.inr (Or.inl rfl)

/-! ### The plan -/

namespace Command

variable {command : Command} {files : String → FileContent} {device : Device}

theorem plan_eq (h : Device.ofFile command.snapshot (files command.snapshot) = .ok device)
    (config : Config) :
    ∃ entities events, setUp device config.extras = .ok (entities, events) ∧
      command.plan config files = .ok (renderPlan entities, events) := by
  obtain ⟨events, hsetUp, -⟩ := setUpWith_eq Platform.all device config.extras
  refine ⟨_, events, hsetUp, ?_⟩
  have hconnect : Connection.connect Client.tree device =
      .ok { client := device, coordinator := { snapshot := device },
            exchanges := [.fetch (.ok device)] } := rfl
  have hsetUp' : setUp device config.extras = .ok (_, events) := hsetUp
  simp only [plan, h, hconnect, hsetUp', Except.mapError, bind, Except.bind]
  rfl

theorem run_eq {config : Config} (hc : command.configuration files = .ok config)
    (h : Device.ofFile command.snapshot (files command.snapshot) = .ok device) :
    ∃ entities events, setUp device config.extras = .ok (entities, events) ∧
      command.run files = {
        status := 0
        output := renderPlan entities
        log := config.logging.lines
          ((command.config.map Event.configLoaded).toList ++ events) } := by
  obtain ⟨entities, events, hsetUp, hplan⟩ := plan_eq h config
  refine ⟨entities, events, hsetUp, ?_⟩
  unfold run
  simp only [hc, hplan]

end Command

/-- **Set-up cannot fail.** It succeeds on every tree; no platform asks for an identity in vain, in
whatever way devices were known by before; no action of an entity, whatever became of it since
set-up, is refused for want of a feature; and the command prints the plan of every snapshot that can
be read, under every configuration that can be read. -/
theorem setUp_cannot_fail {σ : Type} (client : Client σ) :
    (∀ root extras, ∃ entities events, setUp root extras = .ok (entities, events)) ∧
    (∀ (legacyId : Device → String) (platform : Platform) (root : Device) (extras : Extras),
      ∀ s ∈ platform.sources root,
        ∃ identity, (platform.binding extras s).request.resolve legacyId = .ok identity) ∧
    (∀ s : Session σ, s.Reachable client → ∀ e ∈ s.entities, ∀ action,
      e.writes action ≠ some (.error .notBacked)) ∧
    ∀ arguments files command config device,
      Command.parse arguments = some command →
      command.configuration files = .ok config →
      Device.ofFile command.snapshot (files command.snapshot) = .ok device →
      ∃ entities events, setUp device config.extras = .ok (entities, events) ∧
        runArguments arguments files = {
          status := 0
          output := renderPlan entities
          log := config.logging.lines
            ((command.config.map Event.configLoaded).toList ++ events) } := by
  refine ⟨fun root extras => ?_, ?_, fun s hs e he action => ?_, ?_⟩
  · obtain ⟨events, h, -⟩ := setUpWith_eq Platform.all root extras
    exact ⟨_, events, h⟩
  · intro legacyId platform root extras s hs
    exact Platform.exists_resolve legacyId extras hs
  · exact Entity.writes_ne_notBacked (hs.forall_entities Session.kept_backed e he) action
  · intro arguments files command config device hparse hconfig hdevice
    unfold runArguments
    rw [hparse]
    exact Command.run_eq hconfig hdevice

/-! ### The plan of a plug -/

/-- The files of a plug, with its members in order, and of a configuration that says nothing. -/
def deskFiles : String → FileContent
  | "desk.json" => .ok (String.toUTF8
      "[\"8012\", \"Desk\", \"HS100\", \"50:C7\", \"plug\", \"smart\", [],
        [[\"state\", \"State\", \"switch\", \"primary\", true]]]")
  | "desk.toml" => .ok (String.toUTF8 "# all as it comes\n")
  | _ => .error .missing

/-- The arguments that name both files. -/
def deskArguments : List String := ["plan", "desk.json", "--config", "desk.toml"]

/-- The line of the plug, and what is logged of it. -/
theorem runArguments_desk : runArguments deskArguments deskFiles = {
    status := 0
    output := "switch.desk_state unique_id=8012 device=\"Desk\" mac=50:C7 category=- enabled=true\n"
    log := ["INFO hearthd_tplink: Loaded config from: desk.toml",
      "INFO hearthd_tplink::platforms: Set up 1 entities for Desk"] } := by
  decide +kernel

theorem setUp_cannot_fail_desk :
    ∃ command config device entities events,
      Command.parse deskArguments = some command ∧
      command.configuration deskFiles = .ok config ∧
      Device.ofFile command.snapshot (deskFiles command.snapshot) = .ok device ∧
      setUp device config.extras = .ok (entities, events) ∧
      runArguments deskArguments deskFiles = {
        status := 0
        output := renderPlan entities
        log := config.logging.lines
          ((command.config.map Event.configLoaded).toList ++ events) } ∧
      renderPlan entities =
        "switch.desk_state unique_id=8012 device=\"Desk\" mac=50:C7 category=- enabled=true\n" := by
  have hparse : Command.parse deskArguments = some ⟨"desk.json", some "desk.toml"⟩ := by
    decide +kernel
  have hconfig : Command.configuration ⟨"desk.json", some "desk.toml"⟩ deskFiles = .ok {} := rfl
  have hsnapshot : (Device.ofFile "desk.json" (deskFiles "desk.json")).isOk = true := by
    decide +kernel
  cases hdevice : Device.ofFile "desk.json" (deskFiles "desk.json") with
  | error e => rw [hdevice] at hsnapshot; cases hsnapshot
  | ok device =>
    obtain ⟨-, -, -, hplan⟩ := setUp_cannot_fail Client.tree
    obtain ⟨entities, events, hsetUp, hrun⟩ :=
      hplan deskArguments deskFiles _ {} device hparse hconfig hdevice
    have houtput := congrArg Ending.output (hrun.symm.trans runArguments_desk)
    exact ⟨_, {}, device, entities, events, hparse, hconfig, hdevice, hsetUp, hrun, houtput⟩

end HomeEntities
