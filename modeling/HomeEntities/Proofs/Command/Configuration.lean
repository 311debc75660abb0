import HomeEntities.Proofs.Command.Plan
import HomeEntities.Proofs.Setup.Extras

/-! # What a configuration touches

A configuration says whether entities of debug features are enabled, and what is logged. Nothing
else depends on it: the entities under two configurations agree in all that the registry is told of
them (`Entity.AgreesWith`) and in their states, and the flag is a matter of the configuration only
if the entity was made of a debug feature (`Platform.newEntity_enabled`). The section on logging
chooses among the events of one and the same run (`Command.run_configured`). -/

namespace HomeEntities

/-- What the registry is told of two entities, apart from their flags and states, is the same. -/
structure Entity.AgreesWith (e e' : Entity) : Prop where
  entityId : e.entityId = e'.entityId
  uniqueId : e.uniqueId = e'.uniqueId
  identity : e.identity = e'.identity
  name : e.name = e'.name
  available : ∀ c : Coordinator, e.available c = e'.available c

theorem Entity.Counterparts.agreesWith {root : Device} {extras extras' : Extras} {e e' : Entity}
    (h : e.Counterparts root extras extras' e') : e.AgreesWith e' where
  entityId := h.entityId
  uniqueId := h.uniqueId
  identity := h.identity
  name := h.name
  available c := by rw [Entity.available, Entity.available, h.readable]

/-! ### Flags -/

/-- Whether a source is a debug feature. -/
def Source.isDebug (s : Source) : Bool := s.feature.any (·.category == .debug)

/-- Whether entities of a source are enabled under a configuration. -/
def Config.enables (c : Config) (s : Source) : Bool :=
  if s.isDebug then c.enableDebugEntities.getD false else true

theorem Description.enabled_ofFeature (f : Feature) (c : Config) (options : Option (List String)) :
    (Description.ofFeature f { c.extras with options }).enabled =
      if f.category == .debug then c.enableDebugEntities.getD false else true := by
  simp only [ofFeature, Config.extras, Option.getD_none, bne]
  cases f.category == .debug <;> rfl

/-- **The flag** of an entity depends on the configuration only for debug features. -/
theorem Platform.newEntity_enabled {platform : Platform} {root : Device} {s : Source}
    (h : s ∈ platform.sources root) (c : Config) :
    (platform.newEntity c.extras s).enabled = c.enables s := by
  have hfeature := isSome_feature_of_mem_sources h
  obtain ⟨device, feature, parent⟩ := s
  cases feature with
  | none => rfl
  | some f =>
    cases platform with
    | climate | light => cases hfeature
    | _ => exact Description.enabled_ofFeature f c _

theorem Entity.MadeOf.enabled {root : Device} {c : Config} {s : Source} {e : Entity}
    (h : e.MadeOf root c.extras s) : e.enabled = c.enables s := by
  have hd := congrArg (fun o : Origin => (o.description.map (·.enabled)).getD true) h.2
  exact hd.trans (Platform.newEntity_enabled h.1 c)

/-! ### What is logged -/

namespace Command

variable {command : Command} {files files' : String → FileContent} {c c' : Config}

theorem plan_congr (hc : c.enableDebugEntities = c'.enableDebugEntities)
    (hfiles : files command.snapshot = files' command.snapshot) :
    command.plan c files = command.plan c' files' := by
  have hextras : c.extras = c'.extras := by rw [Config.extras, Config.extras, hc]
  unfold plan
  rw [hextras, hfiles]

/-- **The section on logging** chooses what is logged of one and the same run. -/
theorem run_configured (h : command.configuration files = .ok c)
    (h' : command.configuration files' = .ok c')
    (hc : c.enableDebugEntities = c'.enableDebugEntities)
    (hfiles : files command.snapshot = files' command.snapshot) :
    ∃ (ending : Ending) (events : List Event),
      command.run files = { ending with log := c.logging.lines events } ∧
      command.run files' = { ending with log := c'.logging.lines events } := by
  simp only [run, h, h', plan_congr hc hfiles]
  cases command.plan c' files' with
  | ok result => exact ⟨{ status := 0, output := result.1 }, _, rfl, rfl⟩
  | error e => exact ⟨.failed (e.message command.snapshot), _, rfl, rfl⟩

end Command

/-- **A configuration touches only what it says.** Under any two configurations a tree is set up
with entities that agree position by position, in their states too, and with the same events; an
entity is enabled, unless it was made of a debug feature and the configuration does not enable
these. Under any extras whatever the entities agree, apart from flags and states. Two configurations
that differ in logging lead to the same set-up, and a command ends alike under both, with lines for
those of its events that each of them keeps. -/
theorem configuration_touches :
    (∀ (root : Device) (c c' : Config), ∃ entities entities' events,
      setUp root c.extras = .ok (entities, events) ∧
      setUp root c'.extras = .ok (entities', events) ∧
      List.Forall₂ (fun e e' => e.AgreesWith e' ∧ e.state = e'.state ∧
        ∃ s, e.MadeOf root c.extras s ∧ e'.MadeOf root c'.extras s ∧
          e.enabled = c.enables s ∧ e'.enabled = c'.enables s) entities entities') ∧
    (∀ (root : Device) (extras extras' : Extras), ∃ entities entities' events,
      setUp root extras = .ok (entities, events) ∧
      setUp root extras' = .ok (entities', events) ∧
      List.Forall₂ Entity.AgreesWith entities entities') ∧
    ∀ c c' : Config, c.enableDebugEntities = c'.enableDebugEntities →
      (∀ root, setUp root c.extras = setUp root c'.extras) ∧
      ∀ (command : Command) (files files' : String → FileContent),
        command.configuration files = .ok c → command.configuration files' = .ok c' →
        files command.snapshot = files' command.snapshot →
        ∃ (ending : Ending) (events : List Event),
          command.run files = { ending with log := c.logging.lines events } ∧
          command.run files' = { ending with log := c'.logging.lines events } := by
  refine ⟨fun root c c' => ?_, fun root extras extras' => ?_, fun c c' hc => ⟨fun root => ?_, ?_⟩⟩
  · obtain ⟨entities, entities', events, hok, hok', h⟩ := setUp_inStep root c.extras c'.extras
    refine ⟨entities, entities', events, hok, hok', h.imp fun e e' he => ?_⟩
    obtain ⟨s, hs, ho, ho'⟩ := he.made
    have hmade : e.MadeOf root c.extras s := ⟨hs, ho⟩
    have hmade' : e'.MadeOf root c'.extras s := by
      unfold Entity.MadeOf
      rw [← he.platform]
      exact ⟨hs, ho'⟩
    exact ⟨he.agreesWith, he.state rfl, s, hmade, hmade', hmade.enabled, hmade'.enabled⟩
  · obtain ⟨entities, entities', events, hok, hok', h⟩ := setUp_inStep root extras extras'
    exact ⟨entities, entities', events, hok, hok', h.imp fun _ _ he => he.agreesWith⟩
  · rw [Config.extras, Config.extras, hc]
  · intro command files files' h h' hfiles
    exact Command.run_configured h h' hc hfiles

/-! ### A configuration that logs less -/

/-- The files of the plug under a configuration that logs errors only, with the level given by the
header of a table. -/
def quietFiles : String → FileContent
  | "desk.toml" => .ok (String.toUTF8 "[logging.level.error]\n")
  | path => deskFiles path

theorem configuration_touches_desk :
    let command : Command := ⟨"desk.json", some "desk.toml"⟩
    let quiet : Config := { logging := { level := .error } }
    command.configuration deskFiles = .ok {} ∧ command.configuration quietFiles = .ok quiet ∧
      ({} : Config).enableDebugEntities = quiet.enableDebugEntities ∧
      deskFiles command.snapshot = quietFiles command.snapshot ∧
      ∃ (ending : Ending) (events : List Event),
        command.run deskFiles = { ending with log := LogFilter.lines {} events } ∧
        command.run quietFiles = { ending with log := quiet.logging.lines events } ∧
        ending.output = "switch.desk_state unique_id=8012 device=\"Desk\" " ++
          "mac=50:C7 category=- enabled=true\n" ∧
        LogFilter.lines {} events = ["INFO hearthd_tplink: Loaded config from: desk.toml",
          "INFO hearthd_tplink::platforms: Set up 1 entities for Desk"] ∧
        quiet.logging.lines events = [] := by
  intro command quiet
  have h : command.configuration deskFiles = .ok {} := rfl
  have h' : command.configuration quietFiles = .ok quiet := rfl
  obtain ⟨-, -, hlogging⟩ := configuration_touches
  obtain ⟨-, hrun⟩ := hlogging {} quiet rfl
  obtain ⟨ending, events, hdesk, hquiet⟩ := hrun command deskFiles quietFiles h h' rfl
  have hlines : (command.run quietFiles).log = [] := by decide +kernel
  rw [hquiet] at hlines
  have hending := hdesk.symm.trans runArguments_desk
  exact ⟨h, h', rfl, rfl, ending, events, hdesk, hquiet, congrArg Ending.output hending,
    congrArg Ending.log hending, hlines⟩

end HomeEntities
