import HomeEntities.Proofs.Connection.Writes
import HomeEntities.Proofs.Session.Reachable
import HomeEntities.Proofs.Setup.Features

/-! # Features behind entities

An entity on a platform of features has a feature behind it (`Entity.Backed`), in every reachable
session. So no action is refused for want of one (`Entity.writes_ne_notBacked`). -/

namespace HomeEntities

/-- An entity on a platform of features has a feature behind it. -/
def Entity.Backed (e : Entity) : Prop :=
  e.platform.featureType?.isSome = true → e.featureId.isSome = true

theorem Entity.Backed.of_origin {e e' : Entity} (h : e.Backed) (ho : e'.origin = e.origin) :
    e'.Backed := by
  have hp : e'.platform = e.platform := congrArg Origin.platform ho
  have hf : e'.featureId = e.featureId := congrArg Origin.featureId ho
  unfold Backed
  rwa [hp, hf]

theorem Session.kept_backed : Kept Entity.Backed where
  setUp root extras entities events h e he hp := by
    rw [eq_setUpEntities h] at he
    rwa [← isSome_featureType?_of_mem he]
  update snapshot e h := h.of_origin (e.update_origin snapshot)
  rename _ _ h := h

theorem Entity.ownWrite_ne_notBacked {e : Entity} (h : e.featureId.isSome = true) (value : Json) :
    e.ownWrite value ≠ .error .notBacked := by
  obtain ⟨id, hid⟩ := Option.isSome_iff_exists.mp h
  rw [ownWrite, hid]
  exact fun h => by cases h

/-- **No action is refused for want of a feature.** -/
theorem Entity.writes_ne_notBacked {e : Entity} (h : e.Backed) (action : Action) :
    e.writes action ≠ some (.error .notBacked) := by
  intro hw
  rcases writes_cases hw with ⟨hp, value, hown⟩ | hother
  · exact ownWrite_ne_notBacked (h hp) value hown.symm
  · exact hother rfl

end HomeEntities
