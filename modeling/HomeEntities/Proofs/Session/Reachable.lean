import HomeEntities.Proofs.Setup.Loop
import HomeEntities.Session

/-! # Reachable sessions

A session is reachable if it comes of a connection by steps in any order, where entities come from
set-up alone. What holds of every entity when it is set up, and is not lost when the entity is
updated or renamed, holds of all entities of a reachable session (`Reachable.forall_entities`); the
other steps do not touch them (`Kept.step`). -/

namespace HomeEntities

variable {σ : Type} {client : Client σ}

/-- Whether a step binds an entity by hand. -/
def Step.isBind : Step σ → Bool
  | bind _ => true
  | _ => false

namespace Session

/-- The sessions that come of a connection, whatever is done in them and in whatever order. -/
inductive Reachable (client : Client σ) : Session σ → Prop
  | connect {start : σ} {s : Session σ} (h : connect client start = .ok s) : Reachable client s
  | step {s : Session σ} (h : Reachable client s) (extras : Extras) (step : Step σ)
      (hb : step.isBind = false) : Reachable client (s.step client extras step).2

theorem run_cons (extras : Extras) (s : Session σ) (step : Step σ) (steps : List (Step σ)) :
    s.run client extras (step :: steps) = (s.step client extras step).2.run client extras steps :=
  rfl

theorem run_append (extras : Extras) (s : Session σ) (before after : List (Step σ)) :
    s.run client extras (before ++ after) = (s.run client extras before).run client extras after :=
  List.foldl_append

theorem Reachable.run (extras : Extras) : ∀ {steps : List (Step σ)} {s : Session σ},
    s.Reachable client → (∀ step ∈ steps, step.isBind = false) →
      (s.run client extras steps).Reachable client
  | [], _, h, _ => h
  | first :: steps, s, h, hb => by
    have hfirst := h.step extras first (hb first List.mem_cons_self)
    rw [run_cons]
    exact Reachable.run extras hfirst fun step hmem => hb step (List.mem_cons_of_mem first hmem)

theorem updateEntities_fst (snapshot : Device) (l : List Entity) :
    (updateEntities snapshot l).1 = l.map fun e => (e.update snapshot).1 := by
  induction l with
  | nil => rfl
  | cons e l ih => rw [List.map_cons, ← ih]; rfl

/-- A property of entities that set-up establishes and that updates and renaming keep. -/
structure Kept (I : Entity → Prop) : Prop where
  setUp : ∀ root extras entities events, HomeEntities.setUp root extras = .ok (entities, events) →
    ∀ e ∈ entities, I e
  update : ∀ snapshot e, I e → I (e.update snapshot).1
  rename : ∀ (e : Entity) entityId, I e → I { e with entityId }

theorem forall_mem_set {I : Entity → Prop} {l : List Entity} {i : Nat} {e : Entity}
    (h : ∀ e ∈ l, I e) (he : I e) : ∀ e' ∈ l.set i e, I e' := by
  intro e' hmem
  rcases List.mem_or_eq_of_mem_set hmem with hmem | rfl
  · exact h e' hmem
  · exact he

theorem Kept.step {I : Entity → Prop} (hI : Kept I) {s : Session σ} (hs : ∀ e ∈ s.entities, I e)
    (extras : Extras) {step : Step σ} (hb : step.isBind = false) :
    ∀ e ∈ (s.step client extras step).2.entities, I e := by
  cases step with
  | setUp =>
    simp only [Session.step]
    split
    · rename_i entities events h
      exact hI.setUp _ _ _ _ h
    · exact hs
  | bind => cases hb
  | refresh | startReauth | finish | alter => exact hs
  | update index =>
    simp only [Session.step]
    split
    · exact hs
    · rename_i e he
      exact forall_mem_set hs (hI.update _ e (hs e (List.mem_of_getElem? he)))
  | updateAll =>
    simp only [Session.step, updateEntities_fst]
    intro e he
    obtain ⟨e₀, he₀, rfl⟩ := List.mem_map.mp he
    exact hI.update _ e₀ (hs e₀ he₀)
  | act index action =>
    simp only [Session.step]
    split
    · exact hs
    · split <;> exact hs
  | write index func writes =>
    simp only [Session.step]
    split <;> exact hs
  | rename index entityId =>
    simp only [Session.step]
    split
    · exact hs
    · rename_i e he
      exact forall_mem_set hs (hI.rename e entityId (hs e (List.mem_of_getElem? he)))

/-- **What is kept holds of all entities of a reachable session.** -/
theorem Reachable.forall_entities {I : Entity → Prop} (hI : Kept I) {s : Session σ}
    (h : s.Reachable client) : ∀ e ∈ s.entities, I e := by
  induction h with
  | @connect start s h =>
    unfold Session.connect at h
    cases hc : Connection.connect client start with
    | error e => rw [hc] at h; cases h
    | ok c => rw [hc] at h; cases h; simp
  | step _ extras step hb ih => exact hI.step ih extras hb

end Session

end HomeEntities
