import HomeEntities.Connection.Action
import HomeEntities.Proofs.Setup.Loop

/-! # What actions write

Which actions an entity takes is a matter of its platform (`isSome_writes`), as long as its state is
one of its platform's own, which is so for every entity of set-up (`isFixed_eq_false_of_mem`). The
entities that a device is switched by write the value of its switch (`writes_turn_switch`,
`writes_turn_light`). -/

namespace HomeEntities

/-- The actions of a platform. -/
def Platform.offers : Platform → Action → Bool
  | switch, .turnOn | switch, .turnOff => true
  | button, .press => true
  | select, .selectOption _ => true
  | number, .setNativeValue _ => true
  | light, .turnOn | light, .turnOnAt _ | light, .turnOff => true
  | climate, .setTemperature _ | climate, .setHvacMode _ => true
  | climate, .turnOn | climate, .turnOff => true
  | _, _ => false

/-! ### States of a platform -/

@[simp] theorem State.initial_isFixed (platform : Platform) (feature : Option Feature) :
    (State.initial platform feature).isFixed = false := by
  cases platform <;> rfl

/-- The entities of set-up are in states of their platforms' own. -/
theorem isFixed_eq_false_of_mem {table : List Platform} {root : Device} {extras : Extras}
    {e : Entity} (h : e ∈ setUpEntities table root extras) : e.state.isFixed = false := by
  obtain ⟨s, -, ho⟩ := exists_source_of_mem h
  have hfixed : e.state.isFixed = (e.platform.newEntity extras s).state.isFixed :=
    congrArg Origin.fixed ho
  rw [hfixed, Platform.newEntity_state, State.initial_isFixed]

namespace Entity

variable {e : Entity} (h : e.state.isFixed = false)
include h

/-- **Which actions an entity takes** depends on its platform only. -/
theorem isSome_writes (action : Action) : (e.writes action).isSome = e.platform.offers action := by
  unfold writes platform
  cases hs : e.state with
  | fixed => rw [hs] at h; cases h
  | _ => cases action <;> rfl

theorem writes_turn_switch (hp : e.platform = .switch) :
    e.writes .turnOn = some (e.ownWrite (.bool true)) ∧
      e.writes .turnOff = some (e.ownWrite (.bool false)) := by
  unfold writes
  unfold platform at hp
  cases hs : e.state with
  | switch => exact ⟨rfl, rfl⟩
  | fixed => rw [hs] at h; cases h
  | _ => rw [hs] at hp; cases hp

theorem writes_turn_light (hp : e.platform = .light) :
    e.writes .turnOn = some (.ok [(stateId, .bool true)]) ∧
      e.writes .turnOff = some (.ok [(stateId, .bool false)]) := by
  unfold writes
  unfold platform at hp
  cases hs : e.state with
  | light => exact ⟨rfl, rfl⟩
  | fixed => rw [hs] at h; cases h
  | _ => rw [hs] at hp; cases hp

end Entity

theorem Platform.offers_turnOn {platform : Platform} (h : platform.offers .turnOn = true) :
    platform = switch ∨ platform = light ∨ platform = climate := by
  cases platform with
  | switch => exact Or.inl rfl
  | light => exact Or.inr (Or.inl rfl)
  | climate => exact Or.inr (Or.inr rfl)
  | _ => cases h

/-- **What a check comes to**: an action writes to the feature behind its entity, or it does not
look for one. -/
theorem Entity.writes_cases {e : Entity} {action : Action}
    {checked : Except Refusal (List (String × Json))} (h : e.writes action = some checked) :
    (e.platform.featureType?.isSome = true ∧ ∃ value, checked = e.ownWrite value) ∨
      checked ≠ .error .notBacked := by
  unfold platform
  unfold writes at h
  split at h <;> cases h <;> rename_i hs <;> rw [hs]
  -- where the argument is checked, it may be refused on either side
  all_goals
    first
      | exact Or.inl ⟨rfl, _, rfl⟩
      | split <;> first | exact Or.inl ⟨rfl, _, rfl⟩ | exact Or.inr (by simp)
      | exact Or.inr (by simp)

theorem Entity.featureId_of_ownWrite {e : Entity} {value value' : Json} {id : String}
    (h : e.ownWrite value = .ok [(id, value')]) : e.featureId = some id := by
  unfold ownWrite at h
  cases hf : e.featureId with
  | none => rw [hf] at h; cases h
  | some id' => rw [hf] at h; cases h; rfl

end HomeEntities
