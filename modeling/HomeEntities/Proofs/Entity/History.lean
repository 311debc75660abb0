import HomeEntities.Proofs.Entity.Update
import HomeEntities.Proofs.Setup.Candidates

/-! # Histories of an entity

An entity is updated again and again, from trees of any shape (`Entity.after`). What it shows then
is what it read last: a reading takes nothing from the state before it but the options of a choice
(`State.read_of_read`), and it gives the same once more (`State.read_self`). So a history leaves no
trace in the next reading (`Entity.digest_read_after`), save in the options, which are those that
were named last (`Entity.state_after_of_select`). `Entity.last_good_state` is the result. -/

namespace HomeEntities

/-- The last value that a list names, or else a default: the first element may replace the
default. -/
theorem getD_getLast?_filterMap_cons {α β : Type} (f : α → Option β) (a : α) (l : List α) (b : β) :
    ((a :: l).filterMap f).getLast?.getD b = (l.filterMap f).getLast?.getD ((f a).getD b) := by
  rw [List.filterMap_cons]
  cases f a with
  | none => rfl
  | some first => rw [List.getLast?_cons, Option.getD_some, Option.getD_some]

/-! ### What a reading takes from the state before it -/

namespace State

/-- Whether a state is read from the device as a whole. -/
def readsDevice : State → Bool
  | climate _ | light _ => true
  | _ => false

/-- The state without the options that a choice keeps from before. -/
def withoutOptions : State → State
  | select s => select { s with options := [] }
  | s => s

theorem withoutOptions_of_ne {s : State} (h : s.platform ≠ .select) : s.withoutOptions = s := by
  cases s with
  | select => exact absurd rfl h
  | _ => rfl

/-- What a reading gives, the options apart. -/
def digest (result : Except ReadError (State × List Event)) :
    Except ReadError (State × List Event) :=
  Prod.map withoutOptions id <$> result

variable {d d' : Device} {f f' : Option Feature} {feature feature' : Feature}
  {described : Option String} {s s' : State} {events : List Event}

theorem read_some (hs : s.readsDevice = false) :
    s.read d (some feature) described = (·, []) <$> s.readFeature feature described := by
  cases s with
  | climate | light => cases hs
  | _ => rfl

theorem read_none (hs : s.readsDevice = false) : s.read d none described = .ok (s, []) := by
  cases s with
  | climate | light => cases hs
  | _ => rfl

theorem readsDevice_of_readFeature (h : s.readFeature feature described = .ok s') :
    s'.readsDevice = s.readsDevice := by
  cases s with
  | button | climate | light | fixed => cases h; rfl
  | _ => obtain ⟨_, -, rfl⟩ := map_eq_ok.mp h; rfl

theorem readFeature_of_readFeature (h : s.readFeature feature' described = .ok s') :
    withoutOptions <$> s'.readFeature feature described =
      withoutOptions <$> s.readFeature feature described := by
  cases s with
  | select old =>
    obtain ⟨new, -, rfl⟩ := map_eq_ok.mp h
    simp only [readFeature, SelectState.read]
    cases feature.text <;> rfl
  | button | climate | light | fixed => cases h; rfl
  | _ => obtain ⟨_, -, rfl⟩ := map_eq_ok.mp h; rfl

/-- **A reading after a reading** is what it would have been without that, the options apart. -/
theorem read_of_read (hf : f.isSome = f'.isSome)
    (h : s.read d' f' described = .ok (s', events)) :
    digest (s'.read d f described) = digest (s.read d f described) := by
  cases hs : s.readsDevice with
  | true =>
    cases s with
    | climate | light => obtain ⟨_, -, he⟩ := map_eq_ok.mp h; cases he; rfl
    | _ => cases hs
  | false =>
    cases f' with
    | none =>
      rw [read_none hs] at h
      cases h
      rfl
    | some g' =>
      obtain ⟨g, rfl⟩ := Option.isSome_iff_exists.mp hf
      rw [read_some hs] at h
      obtain ⟨t, ht, he⟩ := map_eq_ok.mp h
      cases he
      have hsame : withoutOptions <$> s'.readFeature g described =
          withoutOptions <$> s.readFeature g described := readFeature_of_readFeature ht
      have hmap : ∀ x : Except ReadError State,
          digest ((·, []) <$> x) = (·, []) <$> withoutOptions <$> x := by
        intro x; cases x <;> rfl
      rw [read_some hs, read_some ((readsDevice_of_readFeature ht).trans hs), hmap, hmap, hsame]

/-- **A reading repeated** gives the same once more. -/
theorem read_self (h : s.read d f described = .ok (s', events)) :
    s'.read d f described = .ok (s', events) := by
  cases hs : s.readsDevice with
  | true =>
    cases s with
    | climate | light => obtain ⟨_, -, he⟩ := map_eq_ok.mp h; cases he; exact h
    | _ => cases hs
  | false =>
    cases f with
    | none => rw [read_none hs] at h; cases h; exact read_none hs
    | some g =>
      rw [read_some hs] at h
      obtain ⟨t, ht, he⟩ := map_eq_ok.mp h
      cases he
      rw [read_some ((readsDevice_of_readFeature ht).trans hs)]
      suffices hself : s'.readFeature g described = .ok s' by rw [hself]; rfl
      cases s with
      | select old =>
        obtain ⟨new, hnew, rfl⟩ := map_eq_ok.mp ht
        simp only [SelectState.read, readFeature] at hnew ⊢
        cases hg : g.text with
        | error => rw [hg] at hnew; cases hnew
        | ok current =>
          rw [hg] at hnew
          cases hnew
          cases g.choices <;> rfl
      | button | climate | light | fixed => cases ht; rfl
      | _ => obtain ⟨_, -, rfl⟩ := map_eq_ok.mp ht; exact ht

end State

/-! ### Histories -/

namespace Entity

/-- The entity after updates from some trees in turn. -/
def after (history : List Device) (e : Entity) : Entity :=
  history.foldl (fun e snapshot => (e.update snapshot).1) e

theorem after_concat (history : List Device) (snapshot : Device) (e : Entity) :
    e.after (history ++ [snapshot]) = ((e.after history).update snapshot).1 := by
  rw [after, List.foldl_append]; rfl

@[simp] theorem after_origin (history : List Device) (e : Entity) :
    (e.after history).origin = e.origin := by
  induction history generalizing e with
  | nil => rfl
  | cons snapshot history ih => exact (ih _).trans (e.update_origin snapshot)

theorem isSome_of_source {snapshot : Device} {e : Entity} {found : Device × Option Feature}
    (h : e.source snapshot = .ok found) : found.2.isSome = e.featureId.isSome := by
  unfold source at h
  split at h
  · cases h
  · split at h
    · rename_i hf; cases h; rw [hf]; rfl
    · rename_i hf
      split at h
      · cases h; rw [hf]; rfl
      · cases h

theorem digest_read_update (snapshot other : Device) (e : Entity) :
    State.digest ((e.update other).1.read snapshot) = State.digest (e.read snapshot) := by
  cases h : e.read other with
  | error => rw [update_fst_of_error h]; rfl
  | ok result =>
    obtain ⟨s, events⟩ := result
    obtain ⟨device, feature, hother, hread⟩ := exists_source_of_read h
    have hs : source snapshot { e with state := s, readable := true } = e.source snapshot := rfl
    rw [update_eq_of_ok h]
    unfold read
    rw [hs]
    cases hsource : e.source snapshot with
    | error => rfl
    | ok found =>
      exact State.read_of_read
        ((isSome_of_source hsource).trans (isSome_of_source hother).symm) hread

/-- **A history leaves no trace** in what is read next, the options apart. -/
theorem digest_read_after (history : List Device) (snapshot : Device) (e : Entity) :
    State.digest ((e.after history).read snapshot) = State.digest (e.read snapshot) := by
  induction history generalizing e with
  | nil => rfl
  | cons other history ih => exact (ih _).trans (e.digest_read_update snapshot other)

theorem withoutOptions_update_of_digest {snapshot : Device} {e e' : Entity}
    (h : State.digest (e'.read snapshot) = State.digest (e.read snapshot))
    (hr : e'.reads snapshot = true) :
    (e'.update snapshot).1.state.withoutOptions = (e.update snapshot).1.state.withoutOptions := by
  unfold reads at hr
  cases he' : e'.read snapshot with
  | error => rw [he'] at hr; cases hr
  | ok result' =>
    cases he : e.read snapshot with
    | error => rw [he', he] at h; cases h
    | ok result =>
      rw [he', he] at h
      rw [update_eq_of_ok he', update_eq_of_ok he]
      exact congrArg Prod.fst (Except.ok.inj h)

/-- **A failure** leaves the state. -/
theorem state_update_of_unreadable {snapshot : Device} {e : Entity}
    (h : (e.update snapshot).1.readable = false) : (e.update snapshot).1.state = e.state := by
  cases hr : e.read snapshot with
  | error => rw [update_fst_of_error hr]
  | ok result => rw [update_eq_of_ok hr] at h; cases h

/-- **A reading after an update** from the same tree gives the same once more. -/
theorem read_update_of_ok {snapshot : Device} {e : Entity} {s : State} {events : List Event}
    (h : e.read snapshot = .ok (s, events)) :
    (e.update snapshot).1.read snapshot = .ok (s, events) := by
  obtain ⟨device, feature, hsource, hread⟩ := exists_source_of_read h
  have hsource' : source snapshot { e with state := s, readable := true } =
      .ok (device, feature) := hsource
  rw [update_eq_of_ok h]
  unfold read
  rw [hsource']
  exact State.read_self hread

/-- **An update repeated** changes nothing and is not logged as a failure. -/
theorem update_update (snapshot : Device) (e : Entity) :
    ((e.update snapshot).1.update snapshot).1 = (e.update snapshot).1 ∧
      ((e.update snapshot).1.update snapshot).2.filterMap Event.unreadable? = [] := by
  constructor
  · cases h : e.read snapshot with
    | error error =>
      rw [update_fst_of_error h]
      have herror : read snapshot { e with readable := false } = .error error := h
      exact update_fst_of_error herror
    | ok result =>
      obtain ⟨s, events⟩ := result
      rw [update_eq_of_ok (read_update_of_ok h), update_eq_of_ok h]
  · rw [update_warnings, update_readable, update_reads, Bool.and_not_self]
    rfl

/-- What the entity shows, if it is readable, is what it reads from a tree. -/
def Shows (tree : Device) (e : Entity) : Prop :=
  e.readable = true → ∃ events, e.read tree = .ok (e.state, events)

theorem shows_update (tree : Device) (e : Entity) : (e.update tree).1.Shows tree := by
  cases h : e.read tree with
  | error error => rw [update_fst_of_error h]; exact fun hr => by cases hr
  | ok result =>
    obtain ⟨s, events⟩ := result
    refine fun _ => ⟨events, ?_⟩
    rw [read_update_of_ok h, update_eq_of_ok h]

/-! ### The options of a choice -/

/-- The choices that a tree names for the entity. A tree that it cannot be read from does not
count. -/
def choices? (e : Entity) (snapshot : Device) : Option (List String) :=
  if e.reads snapshot then
    match e.source snapshot with
    | .ok (_, some feature) => feature.choices
    | _ => none
  else none

theorem choices?_eq_of_origin {e e' : Entity} (h : e.origin = e'.origin) :
    e.choices? = e'.choices? := by
  funext snapshot
  unfold choices?
  rw [reads_eq_of_origin h, source_eq_of_origin h]

theorem state_update_of_select {e : Entity} {old : SelectState} (he : e.state = .select old)
    (snapshot : Device) : ∃ current, (e.update snapshot).1.state =
      .select { current, options := (e.choices? snapshot).getD old.options } := by
  cases hr : e.read snapshot with
  | error =>
    rw [update_fst_of_error hr, choices?, reads_of_error hr]
    exact ⟨old.current, he⟩
  | ok result =>
    obtain ⟨s, events⟩ := result
    obtain ⟨device, feature, hsource, hread⟩ := exists_source_of_read hr
    rw [update_eq_of_ok hr, choices?, if_pos (reads_of_ok hr), hsource]
    rw [he] at hread
    cases feature with
    | none => cases hread; exact ⟨old.current, rfl⟩
    | some feature =>
      obtain ⟨t, ht, hs⟩ := map_eq_ok.mp hread
      cases hs
      obtain ⟨new, hnew, rfl⟩ := map_eq_ok.mp ht
      unfold SelectState.read at hnew
      cases htext : feature.text with
      | error => rw [htext] at hnew; cases hnew
      | ok current =>
        rw [htext] at hnew
        cases hnew
        exact ⟨some current, rfl⟩

/-- **The options** are the choices named last, or those that the entity began with. -/
theorem state_after_of_select {history : List Device} : ∀ {e : Entity} {old : SelectState},
    e.state = .select old → ∃ current, (e.after history).state =
      .select { current, options := (history.filterMap e.choices?).getLast?.getD old.options } := by
  induction history with
  | nil => exact fun he => ⟨_, he⟩
  | cons snapshot history ih =>
    intro e old he
    obtain ⟨current, hstep⟩ := state_update_of_select he snapshot
    obtain ⟨current', hrest⟩ := ih hstep
    refine ⟨current', hrest.trans ?_⟩
    rw [choices?_eq_of_origin (e.update_origin snapshot), getD_getLast?_filterMap_cons]

/-- **The last good state.** Let an entity be made on a platform, and let it be updated from any
trees in turn, `snapshot` being the last. If that update fails, the state is as it was before. If it
succeeds, the state is what one update from `snapshot` makes of the entity as it was made, whatever
came between; only the options of a choice are those that were named last, or those of the feature
that the choice was made of if none were named since. A further update from `snapshot` changes
nothing and is not logged as a failure. -/
theorem last_good_state {e : Entity} {platform : Platform} {maker : Option Feature}
    (he : e.state = .initial platform maker) (history : List Device) (snapshot : Device) :
    let after := e.after (history ++ [snapshot])
    (after.readable = false → after.state = (e.after history).state) ∧
    (after.readable = true → platform ≠ .select → after.state = (e.update snapshot).1.state) ∧
    (platform = .select → ∃ current,
      after.state = .select {
        current
        options := ((history ++ [snapshot]).filterMap e.choices?).getLast?.getD
          ((maker.bind (·.choices)).getD []) } ∧
      (after.readable = true →
        ∃ options, (e.update snapshot).1.state = .select { current, options })) ∧
    (after.update snapshot).1 = after ∧
      (after.update snapshot).2.filterMap Event.unreadable? = [] := by
  intro after
  have hafter : after = ((e.after history).update snapshot).1 := e.after_concat history snapshot
  have hplatform : ∀ {e' : Entity}, e'.origin = e.origin → e'.state.platform = platform := by
    intro e' ho
    have hp : e'.state.platform = e.state.platform := congrArg Origin.platform ho
    rw [hp, he, State.initial_platform]
  have hforget : after.readable = true →
      after.state.withoutOptions = (e.update snapshot).1.state.withoutOptions := by
    rw [hafter, update_readable]
    exact withoutOptions_update_of_digest (e.digest_read_after history snapshot)
  refine ⟨?_, ?_, ?_, ?_⟩
  · rw [hafter]
    exact state_update_of_unreadable
  · intro hr hp
    have hafter' : after.state.platform = platform := hplatform (e.after_origin _)
    have hupdate : (e.update snapshot).1.state.platform = platform :=
      hplatform (e.update_origin snapshot)
    have hsame := hforget hr
    rwa [State.withoutOptions_of_ne (hafter' ▸ hp), State.withoutOptions_of_ne (hupdate ▸ hp)]
      at hsame
  · rintro rfl
    obtain ⟨current, hstate⟩ := @state_after_of_select (history ++ [snapshot]) _ _ he
    refine ⟨current, hstate, fun hr => ?_⟩
    obtain ⟨current', hupdate⟩ := state_update_of_select he snapshot
    have hsame := hforget hr
    rw [show after.state = _ from hstate, hupdate] at hsame
    obtain rfl : current = current' := by
      simpa [State.withoutOptions] using hsame
    exact ⟨_, hupdate⟩
  · rw [hafter]
    exact (e.after history).update_update snapshot

end Entity

/-! ### A light strip and its effects -/

/-- The effects of a light strip, with the one that is shown. -/
def effects (value : Json) (choices : Option (List String)) : Feature where
  id := "light_effect"
  name := "Light effect"
  type := .choice
  category := .config
  value := value
  choices := choices

/-- A light strip with some features. -/
def effectStrip (features : List Feature) : Device where
  id := "8009"
  name := "Shelf"
  model := "KL430"
  mac := "50:C7:BF:00:00:09"
  type := .lightStrip
  features := features

/-- The feature that the choice is made of. -/
def effectsAtFirst : Feature := effects (.str "Off") (some ["Off", "Aurora"])

/-- The choice between the effects, as it is made. -/
def effectChoice : Entity :=
  Platform.select.newEntity {} ⟨effectStrip [effectsAtFirst], some effectsAtFirst, none⟩

/-- An effect is added, a number takes the place of the effect, and the feature goes. -/
def effectHistory : List Device := [
  effectStrip [effects (.str "Aurora") (some ["Off", "Aurora", "Bubbling"])],
  effectStrip [effects (.int 7) (some ["Broken"])],
  effectStrip []]

/-- The feature is back and names no choices. -/
def effectSnapshot : Device := effectStrip [effects (.str "Off") none]

/-- The switch of the light strip. -/
def stripSwitch (value : Json) : Feature :=
  { id := stateId, name := "State", type := .switch, category := .primary, value := value }

/-- The light of the strip, as it is made. -/
def stripLight : Entity :=
  Platform.light.newEntity {} ⟨effectStrip [stripSwitch (.bool true)], none, none⟩

/-- The strip is switched off, and its brightness is no number. -/
def dimmedStrip : Device := effectStrip [stripSwitch (.bool false),
  { id := LightState.brightnessId, name := "Brightness", type := .number, category := .primary,
    value := .str "dim" }]

theorem Entity.last_good_state_effects :
    (stripLight.state = .initial .light none ∧
      (stripLight.after ([effectStrip [stripSwitch (.bool true)]] ++ [dimmedStrip])).readable =
        false ∧
      (stripLight.after ([effectStrip [stripSwitch (.bool true)]] ++ [dimmedStrip])).state =
        .light { isOn := some true }) ∧
    effectChoice.state = .initial .select (some effectsAtFirst) ∧
    (effectChoice.after (effectHistory ++ [effectSnapshot])).readable = true ∧
    ∃ current, (effectChoice.after (effectHistory ++ [effectSnapshot])).state =
        .select { current, options := ["Off", "Aurora", "Bubbling"] } ∧
      ∃ options, (effectChoice.update effectSnapshot).1.state = .select { current, options } := by
  have hlight : stripLight.state = .initial .light none := rfl
  obtain ⟨hfailed, -⟩ := last_good_state hlight [effectStrip [stripSwitch (.bool true)]] dimmedStrip
  have hstate : effectChoice.state = .initial .select (some effectsAtFirst) := rfl
  obtain ⟨-, -, hselect, -⟩ := last_good_state hstate effectHistory effectSnapshot
  obtain ⟨current, hafter, hcurrent⟩ := hselect rfl
  exact ⟨⟨hlight, rfl, hfailed rfl⟩, hstate, rfl, current, hafter, hcurrent rfl⟩

end HomeEntities
