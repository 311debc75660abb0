import HomeEntities.Proofs.Entity.Readings
import HomeEntities.Proofs.Session.HeldBounds
import HomeEntities.Proofs.Session.Reports

/-! # Lights

The hook of a light looks up its brightness twice, for the value, which may be any number whatever,
and for whether there is one; it finds the same feature both times (`LightState.run_update`). A
reading that succeeds gives a brightness of at most a hundred exactly if the device has the feature
(`LightState.IsReading`), and one that fails changes nothing. So after any updates the state of a
light is that of the last tree that it could be read from, or still empty (`Entity.light_after`),
and it is that tree, and not the last one, that decides whether a brightness can be set
(`light_keeps_brightness`). -/

namespace HomeEntities

open Decimal

/-! ### Readings -/

/-- The state of a light that was read from a device with a brightness or without. -/
structure LightState.IsReading (light : LightState) (bright : Bool) : Prop where
  isOn : light.isOn.isSome = true
  brightness : light.brightness.isSome = light.supportsBrightness
  brightness_le : ∀ b ∈ light.brightness, b ≤ 100
  supports : light.supportsBrightness = bright

theorem LightState.isReading_of_read {d : Device} {light : LightState}
    (h : LightState.read d = .ok light) : light.IsReading (d.feature? brightnessId).isSome := by
  obtain ⟨on, -, ⟨hnone, rfl⟩ | ⟨j, x, hj, -, rfl⟩⟩ := read_eq_ok.mp h
  · rw [Device.value?_eq_none.mp hnone]
    exact ⟨rfl, rfl, by simp, rfl⟩
  · obtain ⟨f, hf, -⟩ := Device.value?_eq_some.mp hj
    rw [hf]
    refine ⟨rfl, rfl, fun b hb => ?_, rfl⟩
    cases hb
    exact x.percent_le

/-- The state of a light after some updates: empty if none succeeded, and otherwise a reading, from
a device with a brightness or without. -/
def LightState.Follows (light : LightState) : Option Bool → Prop
  | none => light = {}
  | some bright => light.IsReading bright

/-! ### Updates -/

namespace Entity

/-- Whether a tree has a brightness for the light. -/
def seesBrightness (e : Entity) (tree : Device) : Bool :=
  ((tree.find? e.deviceId).bind (·.feature? LightState.brightnessId)).isSome

/-- The last of some trees that the entity could be read from. -/
def lastRead? (e : Entity) (history : List Device) : Option Device :=
  (history.filter fun tree => e.reads tree).getLast?

theorem lastRead?_concat (e : Entity) (history : List Device) (tree : Device) :
    e.lastRead? (history ++ [tree]) = if e.reads tree then some tree else e.lastRead? history := by
  unfold lastRead?
  rw [List.filter_append, List.filter_singleton]
  cases e.reads tree with
  | true => exact List.getLast?_concat
  | false => exact congrArg List.getLast? (List.append_nil _)

theorem isSome_lastRead? {e : Entity} {history : List Device} :
    (e.lastRead? history).isSome = true ↔ ∃ tree ∈ history, e.reads tree = true := by
  rw [lastRead?, List.getLast?_isSome, ne_eq, List.filter_eq_nil_iff]
  push Not
  rfl

/-- **An update** of a light: a reading takes the place of its state, and a failure leaves it. -/
theorem state_update_of_light {e : Entity} {old : LightState} (he : e.state = .light old)
    (tree : Device) : ∃ light, (e.update tree).1.state = .light light ∧
      if e.reads tree then light.IsReading (e.seesBrightness tree) else light = old := by
  cases h : e.read tree with
  | error error =>
    refine ⟨old, by rw [update_fst_of_error h]; exact he, ?_⟩
    rw [reads_of_error h]
    rfl
  | ok result =>
    obtain ⟨s', events⟩ := result
    obtain ⟨d, feature, hsource, hread⟩ := exists_source_of_read h
    obtain ⟨hd, -⟩ := source_eq_ok.mp hsource
    rw [he] at hread
    obtain ⟨light, hlight, hs⟩ := map_eq_ok.mp hread
    cases hs
    refine ⟨light, by rw [update_eq_of_ok h], ?_⟩
    rw [if_pos (reads_of_ok h), seesBrightness, hd, Option.bind_some]
    exact LightState.isReading_of_read hlight

/-- **Updates of a light** in turn: its state is that of the last tree that it could be read from,
by induction on the trees from the last one back. -/
theorem light_after {e : Entity} (he : e.state = .light {}) (history : List Device) :
    ∃ light, (e.after history).state = .light light ∧
      light.Follows ((e.lastRead? history).map e.seesBrightness) := by
  induction history using List.reverseRecOn with
  | nil => exact ⟨{}, he, rfl⟩
  | append_singleton history tree ih =>
    obtain ⟨old, hold, hfollows⟩ := ih
    obtain ⟨light, hlight, hstep⟩ := state_update_of_light hold tree
    have ho := e.after_origin history
    have hid : (e.after history).deviceId = e.deviceId := congrArg Origin.deviceId ho
    rw [reads_eq_of_origin ho, seesBrightness, hid] at hstep
    rw [after_concat, lastRead?_concat]
    refine ⟨light, hlight, ?_⟩
    split at hstep
    · rename_i h
      rw [if_pos h]
      exact hstep
    · rename_i h
      rw [if_neg h, hstep]
      exact hfollows

end Entity

theorem LightState.Follows.isSome_isOn {light : LightState} {last : Option Bool}
    (h : light.Follows last) : light.isOn.isSome = last.isSome := by
  cases last with
  | none => obtain rfl : light = {} := h; rfl
  | some bright =>
    have hread : light.IsReading bright := h
    exact hread.isOn

theorem LightState.Follows.brightness {light : LightState} {last : Option Bool}
    (h : light.Follows last) : light.brightness.isSome = light.supportsBrightness ∧
      (∀ b ∈ light.brightness, b ≤ 100) ∧
      (light.supportsBrightness = true ↔ last = some true) := by
  cases last with
  | none =>
    obtain rfl : light = {} := h
    exact ⟨rfl, by simp, by simp⟩
  | some bright =>
    have hread : light.IsReading bright := h
    exact ⟨hread.brightness, hread.brightness_le, by rw [hread.supports, Option.some.injEq]⟩

namespace Session

variable {σ : Type} {client : Client σ} {s : Session σ} {i : Nat} {e : Entity}

/-- **When a brightness is accepted**: if the light has one, and it is a percentage. -/
theorem step_turnOnAt_iff (extras : Extras) (he : s.entities[i]? = some e) {light : LightState}
    (hs : e.state = .light light) (b : Nat) :
    (∀ func reason, (s.step client extras (.act i (.turnOnAt b))).1 ≠
      .actionError (.invalidInput func reason)) ↔
      light.supportsBrightness = true ∧ b ≤ 100 := by
  rw [← @decide_eq_true_iff (b ≤ 100), ← Bool.and_eq_true]
  cases hb : light.supportsBrightness && decide (b ≤ 100) with
  | true =>
    have hw : e.writes (.turnOnAt b) =
        some (.ok [(LightState.brightnessId, .int b), (stateId, .bool true)]) := by
      simp only [Entity.writes, hs, hb, if_true]
    rw [step_act_of_writes extras he hw]
    refine iff_of_true (fun func reason => ?_) rfl
    split <;> exact fun h => by cases h
  | false =>
    have hw : e.writes (.turnOnAt b) = some (.error (.unsupportedBrightness b)) := by
      simp only [Entity.writes, hs, hb, Bool.false_eq_true, if_false]
    have hrefused : (s.step client extras (.act i (.turnOnAt b))).1 = .actionError
        (.invalidInput "turn_on" ((Refusal.unsupportedBrightness b).reason e.entityId)) := by
      simp only [step, he, Connection.perform, hw, Option.map_some]
      rfl
    exact iff_of_false (fun h => h _ _ hrefused) Bool.false_ne_true

/-- **Lights keep their brightness in order.** After any updates in turn, from trees with any values
whatever, a light has a brightness exactly if it says that it supports one, this is at most a
hundred, and whether it is on is known exactly if some update succeeded. So in any session a
brightness is accepted for it exactly if the last tree that it could be read from has one for it,
and what is asked for is at most a hundred. Every light of a reachable session is of this kind. -/
theorem light_keeps_brightness (client : Client σ) (extras : Extras) :
    (∀ (e : Entity) (history : List Device), e.state = .light {} →
      ∃ light, (e.after history).state = .light light ∧
        light.brightness.isSome = light.supportsBrightness ∧
        (∀ b ∈ light.brightness, b ≤ 100) ∧
        (light.isOn.isSome = true ↔ ∃ tree ∈ history, e.reads tree = true) ∧
        ∀ (s : Session σ) (i : Nat) (e' : Entity), s.entities[i]? = some e' →
          e'.state = .light light → ∀ b,
            (∀ func reason, (s.step client extras (.act i (.turnOnAt b))).1 ≠
              .actionError (.invalidInput func reason)) ↔
              (∃ tree, e.lastRead? history = some tree ∧ e.seesBrightness tree = true) ∧
                b ≤ 100) ∧
    ∀ s : Session σ, s.Reachable client → ∀ (i : Nat) (e' : Entity), s.entities[i]? = some e' →
      e'.platform = .light → ∃ (root : Device) (history : List Device) (e : Entity),
        ReadFrom client i root history s ∧ e.state = .light {} ∧ e.origin = e'.origin ∧
          e'.state = (e.after history).state := by
  constructor
  · intro e history he
    obtain ⟨light, hlight, hfollows⟩ := e.light_after he history
    obtain ⟨hsome, hle, hsupports⟩ := hfollows.brightness
    refine ⟨light, hlight, hsome, hle, ?_, fun s i e' he' hs b => ?_⟩
    · rw [hfollows.isSome_isOn, Option.isSome_map, Entity.isSome_lastRead?]
    · rw [step_turnOnAt_iff extras he' hs, hsupports, Option.map_eq_some_iff]
  · intro s hs i e' he' hp
    obtain ⟨root, history, hread⟩ := hs.exists_readFrom he'
    obtain ⟨extras', source, hmade, hstate⟩ := (hread.madeBy he').state
    have hfresh : (e'.platform.newEntity extras' source).state = .light {} := by
      rw [hp]
      rfl
    exact ⟨root, history, _, hread, hfresh, hmade.2.symm, hstate⟩

/-! ### A lantern with values out of range -/

/-- A lantern with this switch and this brightness. -/
def lantern (on brightness : Json) : Device where
  id := "8017"
  name := "Lantern"
  model := "KL110"
  mac := "50:C7:BF:00:00:17"
  type := .bulb
  features := [
    { id := stateId, name := "State", type := .switch, category := .primary, value := on },
    { id := LightState.brightnessId, name := "Brightness", type := .number, category := .primary,
      value := brightness }]

/-- The light of the lantern as it is made. -/
def lanternLight : Entity :=
  Platform.light.newEntity {} { device := lantern (.bool true) (.int 40) }

/-- A brightness far above a hundred, then one below zero that comes without a switch. -/
def lanternHistory : List Device :=
  [lantern (.bool true) (.int 18446744073709551615), lantern .null (.int (-40))]

/-- A session with the light after these updates. -/
def lanternSession : Session Device where
  connection := {
    client := lantern .null (.int (-40))
    coordinator := { snapshot := lantern .null (.int (-40)) } }
  entities := [lanternLight.after lanternHistory]

theorem light_keeps_brightness_lantern :
    ∃ light, (lanternLight.after lanternHistory).state = .light light ∧
      light.brightness.isSome = light.supportsBrightness ∧ (∀ b ∈ light.brightness, b ≤ 100) ∧
      light.isOn.isSome = true ∧
      (∀ func reason, (lanternSession.step Client.tree {} (.act 0 (.turnOnAt 100))).1 ≠
        .actionError (.invalidInput func reason)) ∧
      ¬ ∀ func reason, (lanternSession.step Client.tree {} (.act 0 (.turnOnAt 101))).1 ≠
        .actionError (.invalidInput func reason) := by
  obtain ⟨hlights, -⟩ := light_keeps_brightness Client.tree {}
  obtain ⟨light, hlight, hsome, hle, hon, haccepted⟩ := hlights lanternLight lanternHistory rfl
  have hlast : lanternLight.lastRead? lanternHistory =
      some (lantern (.bool true) (.int 18446744073709551615)) := rfl
  have hsees : lanternLight.seesBrightness
      (lantern (.bool true) (.int 18446744073709551615)) = true := rfl
  have haccepted := haccepted lanternSession 0 _ rfl hlight
  refine ⟨light, hlight, hsome, hle, hon.mpr ⟨_, List.mem_cons_self, rfl⟩, ?_, ?_⟩
  · exact (haccepted 100).mpr ⟨⟨_, hlast, hsees⟩, le_rfl⟩
  · rw [haccepted 101]
    omega

end Session

end HomeEntities
