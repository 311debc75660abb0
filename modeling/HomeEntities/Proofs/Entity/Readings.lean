import HomeEntities.Proofs.Device.Store
import HomeEntities.Proofs.Entity.Update

/-! # What a reading takes and gives

A light and a thermostat are read from several features of their device, and only if all of these
are there and hold values of the right kind. `LightState.read_eq_ok` and `ClimateState.read_eq_ok`
say what has to be there and what the state is then; all other entities read the one feature behind
them (`boolean_eq_ok`, `number_eq_ok`, `text_eq_ok`). -/

namespace HomeEntities

theorem bind_eq_ok {ε α β : Type} {x : Except ε α} {f : α → Except ε β} {b : β} :
    (x >>= f) = .ok b ↔ ∃ a, x = .ok a ∧ f a = .ok b := by
  cases x <;> simp [bind, Except.bind]

namespace Feature

variable {f : Feature}

theorem typed_eq_ok {α : Type} {kind : ValueKind} {read : Json → Option α} {a : α} :
    f.typed kind read = .ok a ↔ read f.value = some a := by
  unfold typed
  cases read f.value <;> simp

theorem boolean_eq_ok {b : Bool} : f.boolean = .ok b ↔ f.value = .bool b := by
  refine typed_eq_ok.trans ?_
  cases f.value <;> simp [Json.asBool?]

theorem number_eq_ok {x : Decimal.Binary64} : f.number = .ok x ↔ f.value.asNumber? = some x :=
  typed_eq_ok

theorem text_eq_ok {s : String} : f.text = .ok s ↔ f.value = .str s := by
  refine typed_eq_ok.trans ?_
  cases f.value <;> simp [Json.asText?]

end Feature

namespace Device

variable {d : Device} {id : String}

theorem requiredFeature_eq_ok {f : Feature} :
    d.requiredFeature id = .ok f ↔ d.feature? id = some f := by
  unfold requiredFeature
  cases d.feature? id <;> simp

theorem value?_eq_some {j : Json} :
    d.value? id = some j ↔ ∃ f, d.feature? id = some f ∧ f.value = j :=
  Option.map_eq_some_iff

theorem value?_eq_none : d.value? id = none ↔ d.feature? id = none := Option.map_eq_none_iff

end Device

/-- **Lights** need a switch; a brightness, if there is one, has to be a number. -/
theorem LightState.read_eq_ok {d : Device} {s : LightState} : LightState.read d = .ok s ↔
    ∃ on, d.value? stateId = some (.bool on) ∧
      ((d.value? brightnessId = none ∧ s = { isOn := some on }) ∨
        ∃ j x, d.value? brightnessId = some j ∧ j.asNumber? = some x ∧ s =
          { isOn := some on, brightness := some x.percent, supportsBrightness := true }) := by
  unfold LightState.read
  simp only [bind_eq_ok, Device.requiredFeature_eq_ok, Feature.boolean_eq_ok,
    Device.value?_eq_some, Device.value?_eq_none]
  constructor
  · rintro ⟨f, hf, on, hon, h⟩
    refine ⟨on, ⟨f, hf, hon⟩, ?_⟩
    split at h
    · rename_i hb
      cases h
      exact Or.inl ⟨hb, rfl⟩
    · rename_i g hg
      obtain ⟨x, hx, h⟩ := bind_eq_ok.mp h
      cases h
      exact Or.inr ⟨_, x, ⟨g, hg, rfl⟩, Feature.number_eq_ok.mp hx, rfl⟩
  · rintro ⟨on, ⟨f, hf, hon⟩, ⟨hb, rfl⟩ | ⟨j, x, ⟨g, hg, rfl⟩, hx, rfl⟩⟩
    · refine ⟨f, hf, on, hon, ?_⟩
      rw [hb]
      rfl
    · refine ⟨f, hf, on, hon, ?_⟩
      rw [hg]
      exact bind_eq_ok.mpr ⟨x, Feature.number_eq_ok.mpr hx, rfl⟩

/-- **Thermostats** need all four of their features; the bounds are those of the target. -/
theorem ClimateState.read_eq_ok {d : Device} {s : ClimateState} {events : List Event} :
    ClimateState.read d = .ok (s, events) ↔
      ∃ target on mode j x y, d.feature? targetId = some target ∧
        d.value? stateId = some (.bool on) ∧ d.value? modeId = some (.str mode) ∧
        d.value? currentId = some j ∧ j.asNumber? = some x ∧ target.value.asNumber? = some y ∧
        s = { current := some x, target := some y, minimum := target.minimum,
              maximum := target.maximum, mode := some (.ofState on),
              action := some ((HvacAction.ofName? mode).getD .off) } ∧
        events =
          if (HvacAction.ofName? mode).isNone then [.unknownThermostatState mode] else [] := by
  unfold ClimateState.read
  simp only [bind_eq_ok, Device.requiredFeature_eq_ok, Feature.boolean_eq_ok, Feature.text_eq_ok,
    Feature.number_eq_ok, Device.value?_eq_some]
  constructor
  · rintro ⟨target, ht, f, hf, on, hon, g, hg, mode, hmode, k, hk, x, hx, y, hy, h⟩
    cases h
    exact ⟨target, on, mode, _, x, y, ht, ⟨f, hf, hon⟩, ⟨g, hg, hmode⟩, ⟨k, hk, rfl⟩, hx, hy, rfl,
      rfl⟩
  · rintro ⟨target, on, mode, j, x, y, ht, ⟨f, hf, hon⟩, ⟨g, hg, hmode⟩, ⟨k, hk, rfl⟩, hx, hy, rfl,
      rfl⟩
    exact ⟨target, ht, f, hf, on, hon, g, hg, mode, hmode, k, hk, x, hx, y, hy, rfl⟩

end HomeEntities
