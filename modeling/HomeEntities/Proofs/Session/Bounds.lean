import HomeEntities.Proofs.Connection.Exchanges
import HomeEntities.Proofs.Decimal.Truncation
import HomeEntities.Proofs.Session.Backed

/-! # Bounds of numbers

Numbers and target temperatures are checked against the bounds that the entity holds, and then cut
down to whole numbers; what is written is not checked again. So it is within the bounds for every
number that is accepted if and only if truncation leads out of neither bound (`KeptByTruncation`,
`forall_inRange_iff`). Of a lower bound that is positive and no whole number, or too large for 64
bits, the number equal to it is accepted, and less than it is written. -/

namespace HomeEntities

open Decimal

/-- A whole number lies within bounds, where there are any. -/
structure Within (minimum maximum : Option Binary64) (i : Int) : Prop where
  minimum : ∀ m ∈ minimum, m.AtMost i
  maximum : ∀ m ∈ maximum, m.AtLeast i

/-- Truncation leads out of neither bound: the lower one is not positive or a whole number of 64
bits, and the upper one is not negative or such a number. -/
structure KeptByTruncation (minimum maximum : Option Binary64) : Prop where
  minimum : ∀ m ∈ minimum, m.AtMost 0 ∨ m.IsInt64
  maximum : ∀ m ∈ maximum, m.AtLeast 0 ∨ m.IsInt64

section Bounds
variable {x : Binary64} {minimum maximum : Option Binary64}

theorem inRange_iff : inRange x minimum maximum = true ↔ x.isFinite = true ∧
    (∀ m ∈ minimum, m.le x = true) ∧ ∀ m ∈ maximum, x.le m = true := by
  simp only [inRange, Bool.and_eq_true, Option.all_eq_true, Option.mem_def, and_assoc]

theorem not_within_of_minimum {m : Binary64} {i : Int} (h : ¬ m.AtMost i) :
    ¬ Within (some m) maximum i :=
  fun hw => h (hw.minimum m rfl)

theorem within_toInt64 (hk : KeptByTruncation minimum maximum)
    (h : inRange x minimum maximum = true) : Within minimum maximum x.toInt64 := by
  obtain ⟨-, hmin, hmax⟩ := inRange_iff.mp h
  constructor
  · intro m hm
    exact (m.atMost_toInt64_iff.mpr (hk.minimum m hm)).trans (Binary64.toInt64_mono (hmin m hm))
  · intro m hm
    exact (m.atLeast_toInt64_iff.mpr (hk.maximum m hm)).trans (Binary64.toInt64_mono (hmax m hm))

/-- A lower bound is itself accepted if anything is, unless it bounds nothing. -/
theorem inRange_minimum (h : inRange x minimum maximum = true) {m : Binary64} (hm : m ∈ minimum) :
    inRange m minimum maximum = true ∨ m = .infinite true := by
  obtain ⟨hx, hmin, hmax⟩ := inRange_iff.mp h
  refine (Binary64.isFinite_or_of_le hx (hmin m hm)).imp_left fun hfinite => ?_
  refine inRange_iff.mpr ⟨hfinite, fun m' hm' => ?_, fun m' hm' => ?_⟩
  · cases Option.mem_unique hm hm'
    exact Binary64.le_refl_of_isFinite hfinite
  · exact Binary64.le_trans (hmin m hm) (hmax m' hm')

theorem inRange_maximum (h : inRange x minimum maximum = true) {m : Binary64} (hm : m ∈ maximum) :
    inRange m minimum maximum = true ∨ m = .infinite false := by
  obtain ⟨hx, hmin, hmax⟩ := inRange_iff.mp h
  refine (Binary64.isFinite_or_of_ge hx (hmax m hm)).imp_left fun hfinite => ?_
  refine inRange_iff.mpr ⟨hfinite, fun m' hm' => ?_, fun m' hm' => ?_⟩
  · exact Binary64.le_trans (hmin m' hm') (hmax m hm)
  · cases Option.mem_unique hm hm'
    exact Binary64.le_refl_of_isFinite hfinite

/-- **When whole parts stay within bounds.** -/
theorem forall_inRange_iff :
    (∀ x, inRange x minimum maximum = true → Within minimum maximum x.toInt64) ↔
      ((∃ x, inRange x minimum maximum = true) → KeptByTruncation minimum maximum) := by
  constructor
  · rintro h ⟨x, hx⟩
    constructor
    · intro m hm
      rcases inRange_minimum hx hm with hself | rfl
      · exact m.atMost_toInt64_iff.mp ((h m hself).minimum m hm)
      · exact Or.inl rfl
    · intro m hm
      rcases inRange_maximum hx hm with hself | rfl
      · exact m.atLeast_toInt64_iff.mp ((h m hself).maximum m hm)
      · exact Or.inl rfl
  · intro h x hx
    exact within_toInt64 (h ⟨x, hx⟩) hx

end Bounds

/-! ### Actions that set a number -/

/-- The action that sets a number on an entity, and the bounds that the entity holds for it. -/
inductive Entity.Sets (e : Entity) :
    (Binary64 → Action) → Option Binary64 → Option Binary64 → Prop
  | number {state : NumberState} (h : e.state = .number state) :
      Sets e .setNativeValue state.minimum state.maximum
  | climate {state : ClimateState} (h : e.state = .climate state) :
      Sets e .setTemperature state.minimum state.maximum

section Sets
variable {e : Entity} {set : Binary64 → Action} {minimum maximum : Option Binary64} {x : Binary64}

theorem Entity.Sets.writes_of_inRange (h : e.Sets set minimum maximum) (hb : e.Backed)
    (hx : inRange x minimum maximum = true) :
    ∃ id, e.writes (set x) = some (.ok [(id, .int x.toInt64)]) := by
  cases h with
  | number hs =>
    have hp : e.platform = .number := congrArg State.platform hs
    have hfeature : e.featureId.isSome = true := hb (by rw [hp]; rfl)
    obtain ⟨id, hid⟩ := Option.isSome_iff_exists.mp hfeature
    refine ⟨id, ?_⟩
    simp only [writes, hs, hx, if_true, ownWrite, hid]
  | climate hs => exact ⟨ClimateState.targetId, by simp only [writes, hs, hx, if_true]⟩

theorem Entity.Sets.writes_of_outOfRange (h : e.Sets set minimum maximum)
    (hx : inRange x minimum maximum = false) :
    e.writes (set x) = some (.error (.outOfRange x)) := by
  cases h with
  | number hs | climate hs =>
    simp only [writes, hs, hx, Bool.false_eq_true, if_false]

end Sets

variable {σ : Type} {client : Client σ}

theorem Connection.writeFeatures_single {func deviceId id : String} {value : Json}
    {c c' : Connection σ} {answer : Except ActionError Unit}
    (h : c.writeFeatures client func deviceId [(id, value)] = (answer, c')) :
    (∀ func reason, answer ≠ .error (.invalidInput func reason)) ∧
      ∃ written fetches, c'.exchanges =
        c.exchanges ++ .write deviceId id value written :: fetches ∧
        ∀ x ∈ fetches, x.isFetch = true := by
  cases writeFeatures_cases h with
  | @ok _ fetched hx =>
    refine ⟨fun _ _ => by simp, .ok (), [.fetch fetched], hx.recorded, ?_⟩
    intro x hmem
    rw [List.mem_singleton.mp hmem]
    rfl
  | @error _ done rest last e hsplit hx hc =>
    refine ⟨fun _ _ => by simp, .error e, [], ?_, by simp⟩
    -- the write that failed is the only one
    cases done with
    | nil =>
      obtain ⟨rfl, -⟩ := List.cons.inj hsplit
      exact hx.recorded
    | cons w done => cases done <;> cases hsplit

namespace Session

/-- An action on an entity writes a whole number. -/
def WritesInt (client : Client σ) (extras : Extras) (s : Session σ) (i : Nat) (action : Action)
    (n : Int) : Prop :=
  ∃ exchanged deviceId id answer, (s.step client extras (.act i action)).2.connection.exchanges =
    s.connection.exchanges ++ exchanged ∧ .write deviceId id (.int n) answer ∈ exchanged

variable {s : Session σ} {i : Nat} {e : Entity} {set : Binary64 → Action}
  {minimum maximum : Option Binary64}

theorem step_of_outOfRange (he : s.entities[i]? = some e) (h : e.Sets set minimum maximum)
    (extras : Extras) {x : Binary64} (hx : inRange x minimum maximum = false) :
    s.step client extras (.act i (set x)) = (.actionError
      (.invalidInput (set x).func ((Refusal.outOfRange x).reason e.entityId)), s) := by
  simp only [step, he, Connection.perform, h.writes_of_outOfRange hx, Option.map_some]
  rfl

/-- **A number in range** is written as its whole part, and is not refused. -/
theorem Reachable.step_of_inRange (hs : s.Reachable client) (he : s.entities[i]? = some e)
    (h : e.Sets set minimum maximum) (extras : Extras) {x : Binary64}
    (hx : inRange x minimum maximum = true) :
    (∀ func reason, (s.step client extras (.act i (set x))).1 ≠
      .actionError (.invalidInput func reason)) ∧
      ∀ n, s.WritesInt client extras i (set x) n ↔ n = x.toInt64 := by
  have hb := hs.forall_entities kept_backed e (List.mem_of_getElem? he)
  obtain ⟨id, hw⟩ := h.writes_of_inRange hb hx
  cases hf : s.connection.writeFeatures client (set x).func e.deviceId
      [(id, .int x.toInt64)] with
  | mk answer c =>
    obtain ⟨hanswer, written, fetches, hrecord, hfetches⟩ := Connection.writeFeatures_single hf
    have hstep : s.step client extras (.act i (set x)) =
        (.ofExcept .actionError answer, { s with connection := c }) := by
      simp only [Session.step, he, Connection.perform, hw, Option.map_some, hf]
    unfold WritesInt
    rw [hstep]
    refine ⟨fun func reason heq => ?_, fun n => ?_⟩
    · cases answer with
      | ok => cases heq
      | error error =>
        cases heq
        exact hanswer func reason rfl
    · constructor
      · rintro ⟨exchanged, deviceId, id', answer', heq, hmem⟩
        rw [← List.append_cancel_left (hrecord.symm.trans heq)] at hmem
        rcases List.mem_cons.mp hmem with hfirst | hrest
        · cases hfirst; rfl
        · cases hfetches _ hrest
      · rintro rfl
        exact ⟨_, e.deviceId, id, written, hrecord, List.mem_cons_self⟩

/-- **What is written of numbers.** In a reachable session an entity with a number to be set refuses
the numbers out of range and writes the whole parts, within 64 bits, of all others. All that it can
so write is within the bounds it holds if and only if truncation leads out of neither of them, or
there is no number between them: a lower bound is to be negative, zero or a whole number of 64 bits,
and an upper bound positive, zero or such a number. -/
theorem Reachable.numbers_written (hs : s.Reachable client) (he : s.entities[i]? = some e)
    (h : e.Sets set minimum maximum) (extras : Extras) :
    (∀ x, inRange x minimum maximum = false → s.step client extras (.act i (set x)) =
      (.actionError (.invalidInput (set x).func ((Refusal.outOfRange x).reason e.entityId)), s)) ∧
    (∀ x, inRange x minimum maximum = true →
      (∀ func reason, (s.step client extras (.act i (set x))).1 ≠
        .actionError (.invalidInput func reason)) ∧
      ∀ n, s.WritesInt client extras i (set x) n ↔ n = x.toInt64) ∧
    ((∀ x n, s.WritesInt client extras i (set x) n → Within minimum maximum n) ↔
      ((∃ x, inRange x minimum maximum = true) → KeptByTruncation minimum maximum)) := by
  refine ⟨fun x => step_of_outOfRange he h extras, fun x => hs.step_of_inRange he h extras, ?_⟩
  rw [← forall_inRange_iff]
  constructor
  · intro hall x hx
    exact hall x _ ((hs.step_of_inRange he h extras hx).2 _ |>.mpr rfl)
  · intro hall x n hn
    cases hx : inRange x minimum maximum with
    | true =>
      rw [(hs.step_of_inRange he h extras hx).2] at hn
      exact hn ▸ hall x hx
    | false =>
      obtain ⟨exchanged, deviceId, id, answer, heq, hmem⟩ := hn
      rw [step_of_outOfRange he h extras hx] at heq
      rw [List.append_right_eq_self.mp heq.symm] at hmem
      cases hmem

/-! ### A dripper with bounds below one -/

def quarter : Binary64 := .ofRatio false 1 4
def half : Binary64 := .ofRatio false 1 2
def threeQuarters : Binary64 := .ofRatio false 3 4

/-- A dripper whose flow lies between a quarter and three quarters. -/
def dripper : Device where
  id := "8013"
  name := "Dripper"
  model := "S500"
  mac := "50:C7:BF:00:00:13"
  type := .wallSwitch
  features := [
    { id := "flow", name := "Flow", type := .number, category := .config
      value := .float half
      minimum := some quarter
      maximum := some threeQuarters }]

/-- The session of the dripper after set-up. -/
def dripperSession : Session Device :=
  (Session.step Client.tree {} { connection := {
    client := dripper
    coordinator := { snapshot := dripper }
    exchanges := [.fetch (.ok dripper)] } } .setUp).2

theorem dripperSession_reachable : dripperSession.Reachable Client.tree :=
  .step (@Reachable.connect _ _ dripper _ rfl) {} .setUp rfl

theorem dripperSession_flow : ∃ e, dripperSession.entities[0]? = some e ∧
    e.Sets .setNativeValue (some quarter) (some threeQuarters) := by
  have hstate : (dripperSession.entities[0]?).map (·.state) =
      some (.number ⟨some half, some quarter, some threeQuarters⟩) := rfl
  obtain ⟨e, he, hs⟩ := Option.map_eq_some_iff.mp hstate
  exact ⟨e, he, .number hs⟩

theorem half_inRange : inRange half (some quarter) (some threeQuarters) = true := by
  decide +kernel

theorem half_toInt64 : half.toInt64 = 0 := by decide +kernel

theorem quarter_not_atMost : ¬ quarter.AtMost 0 := by decide +kernel

theorem numbers_written_dripper :
    dripperSession.Reachable Client.tree ∧ ∃ e, dripperSession.entities[0]? = some e ∧
      e.Sets .setNativeValue (some quarter) (some threeQuarters) ∧
      inRange half (some quarter) (some threeQuarters) = true ∧
      dripperSession.WritesInt Client.tree {} 0 (.setNativeValue half) 0 ∧
      ((∀ x n, dripperSession.WritesInt Client.tree {} 0 (.setNativeValue x) n →
          Within (some quarter) (some threeQuarters) n) ↔
        ((∃ x, inRange x (some quarter) (some threeQuarters) = true) →
          KeptByTruncation (some quarter) (some threeQuarters))) := by
  obtain ⟨e, he, h⟩ := dripperSession_flow
  obtain ⟨-, hwritten, hall⟩ := dripperSession_reachable.numbers_written he h {}
  obtain ⟨-, hhalf⟩ := hwritten half half_inRange
  exact ⟨dripperSession_reachable, e, he, h, half_inRange, (hhalf 0).mpr half_toInt64.symm, hall⟩

/-- **A number below its bounds** is written though the argument is within them. -/
theorem dripperSession_writes_below :
    dripperSession.Reachable Client.tree ∧ ∃ e, dripperSession.entities[0]? = some e ∧
      e.Sets .setNativeValue (some quarter) (some threeQuarters) ∧
      quarter.isFinite = true ∧ threeQuarters.isFinite = true ∧
      (∀ func reason, (dripperSession.step Client.tree {} (.act 0 (.setNativeValue half))).1 ≠
        .actionError (.invalidInput func reason)) ∧
      dripperSession.WritesInt Client.tree {} 0 (.setNativeValue half) 0 ∧
      ¬ Within (some quarter) (some threeQuarters) 0 := by
  obtain ⟨e, he, h⟩ := dripperSession_flow
  obtain ⟨haccepted, hwritten⟩ := dripperSession_reachable.step_of_inRange he h {} half_inRange
  refine ⟨dripperSession_reachable, e, he, h, by decide +kernel, by decide +kernel, haccepted,
    (hwritten 0).mpr half_toInt64.symm, not_within_of_minimum quarter_not_atMost⟩

end Session

end HomeEntities
