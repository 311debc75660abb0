import HomeEntities.Log.Level
import Mathlib.Data.List.Induction
import Mathlib.Data.List.Nodup
import Mathlib.Data.Nat.Basic

/-! # Overrides of log levels

Overrides have distinct keys but no order of their own: a filter is built from them one by one, in
whatever order they come. What decides for a target (`LogFilter.Decides`) is said of the overrides
as a set, and there is one decider only (`Decides.unique`), since two keys of one length that begin
one target are equal. A filter may be built by any library that keeps what it is given
(`FilterLibrary`). Its directives are then the overrides, whatever the order
(`directive_targets_iff`), so the answers are those of the decider. -/

namespace HomeEntities

namespace LogFilter

/-- What decides for a target: an override that begins it, none of the others that do being longer;
or, as `none`, the default, no override beginning it. -/
inductive Decides (filter : LogFilter) (target : String) : Option (String × Level) → Prop
  | override {o : String × Level} (hmem : o ∈ filter.overrides)
      (hbegins : o.1.toList <+: target.toList)
      (hlongest : ∀ o' ∈ filter.overrides, o'.1.toList <+: target.toList →
        o'.1.length ≤ o.1.length) : Decides filter target (some o)
  | default (hnone : ∀ o ∈ filter.overrides, ¬ o.1.toList <+: target.toList) :
      Decides filter target none

/-- The filter with its overrides in another order. -/
def reorder (filter : LogFilter) (order : List (String × Level))
    (h : order.Perm filter.overrides) : LogFilter where
  level := filter.level
  overrides := order
  distinct := (h.map Prod.fst).nodup_iff.mpr filter.distinct

/-- The level of an override, or the default level. -/
def levelOf (filter : LogFilter) (decider : Option (String × Level)) : Level :=
  decider.elim filter.level Prod.snd

variable {filter : LogFilter} {target : String} {overrides order : List (String × Level)}

/-! ### The search for the longest override -/

theorem override?_eq_none_iff :
    override? target overrides = none ↔ ∀ o ∈ overrides, ¬ o.1.toList <+: target.toList := by
  induction overrides with
  | nil => simp [override?]
  | cons o rest ih =>
    unfold override?
    by_cases h : o.1.toList <+: target.toList
    · rw [if_pos (List.isPrefixOf_iff_prefix.mpr h)]
      constructor
      · intro hnone
        split at hnone
        · split_ifs at hnone
        · cases hnone
      · intro hnone
        exact absurd h (hnone o List.mem_cons_self)
    · rw [if_neg (fun hp => h (List.isPrefixOf_iff_prefix.mp hp)), ih, List.forall_mem_cons]
      exact ⟨fun hrest => ⟨h, hrest⟩, fun hall => hall.2⟩

theorem of_override?_eq_some {best : String × Level} (h : override? target overrides = some best) :
    best ∈ overrides ∧ best.1.toList <+: target.toList ∧
      ∀ o ∈ overrides, o.1.toList <+: target.toList → o.1.length ≤ best.1.length := by
  induction overrides generalizing best with
  | nil => cases h
  | cons o rest ih =>
    rw [List.forall_mem_cons]
    unfold override? at h
    split_ifs at h with hbegins
    · have hprefix := List.isPrefixOf_iff_prefix.mp hbegins
      cases hrest : override? target rest with
      | none =>
        rw [hrest] at h
        cases h
        have hnone := override?_eq_none_iff.mp hrest
        exact ⟨List.mem_cons_self, hprefix, fun _ => le_rfl,
          fun o' ho' hb => absurd hb (hnone o' ho')⟩
      | some best' =>
        obtain ⟨hmem, hprefix', hlongest⟩ := ih hrest
        simp only [hrest] at h
        split_ifs at h with hshorter
        · cases h
          exact ⟨List.mem_cons_self, hprefix, fun _ => le_rfl,
            fun o' ho' hb => le_trans (hlongest o' ho' hb) (Nat.le_of_lt hshorter)⟩
        · cases h
          exact ⟨List.mem_cons_of_mem _ hmem, hprefix', fun _ => not_lt.mp hshorter, hlongest⟩
    · obtain ⟨hmem, hprefix', hlongest⟩ := ih h
      exact ⟨List.mem_cons_of_mem _ hmem, hprefix',
        fun hb => absurd (List.isPrefixOf_iff_prefix.mpr hb) hbegins, hlongest⟩

/-- **The search finds what decides.** -/
theorem decides_override? (filter : LogFilter) (target : String) :
    filter.Decides target (override? target filter.overrides) := by
  cases h : override? target filter.overrides with
  | none => exact .default (override?_eq_none_iff.mp h)
  | some o =>
    obtain ⟨hmem, hbegins, hlongest⟩ := of_override?_eq_some h
    exact .override hmem hbegins hlongest

theorem wouldEnable_eq (filter : LogFilter) (target : String) (level : Level) :
    filter.wouldEnable target level =
      decide ((filter.levelOf (override? target filter.overrides)).rank ≤ level.rank) := by
  unfold wouldEnable levelFor levelOf
  cases override? target filter.overrides <;> rfl

namespace Decides

variable {decider decider' : Option (String × Level)}

/-- **One decider only.** -/
theorem unique (h : filter.Decides target decider) (h' : filter.Decides target decider') :
    decider = decider' := by
  cases h with
  | default hnone =>
    cases h' with
    | default => rfl
    | override hmem hbegins => exact absurd hbegins (hnone _ hmem)
  | override hmem hbegins hlongest =>
    cases h' with
    | default hnone => exact absurd hbegins (hnone _ hmem)
    | override hmem' hbegins' hlongest' =>
      have hlength := le_antisymm (hlongest' _ hmem hbegins) (hlongest _ hmem' hbegins')
      rw [← String.length_toList, ← String.length_toList] at hlength
      have hkey := List.prefix_of_prefix_length_le hbegins hbegins' (Nat.le_of_eq hlength)
      have heq := String.toList_inj.mp (hkey.eq_of_length hlength)
      rw [List.inj_on_of_nodup_map filter.distinct hmem hmem' heq]

theorem of_reorder (h : order.Perm filter.overrides)
    (hd : (filter.reorder order h).Decides target decider) : filter.Decides target decider := by
  cases hd with
  | default hnone => exact .default fun o ho => hnone o (h.mem_iff.mpr ho)
  | override hmem hbegins hlongest =>
    exact .override (h.mem_iff.mp hmem) hbegins fun o ho => hlongest o (h.mem_iff.mpr ho)

theorem eq_none_iff (h : filter.Decides target decider) :
    decider = none ↔ ∀ o ∈ filter.overrides, ¬ o.1.toList <+: target.toList := by
  cases h with
  | default hnone => exact ⟨fun _ => hnone, fun _ => rfl⟩
  | override hmem hbegins =>
    constructor
    · intro hnone
      cases hnone
    · intro hnone
      exact absurd hbegins (hnone _ hmem)

end Decides

end LogFilter

/-! ### Filters built one override at a time -/

/-- A library of log filters. A filter begins with a default level and takes directives one by one,
each a level for the targets that its key begins. -/
structure FilterLibrary (T : Type) where
  withDefault : Level → T
  withTarget : T → String → Level → T
  wouldEnable : T → String → Level → Bool
  /-- The default level that a filter keeps. -/
  default : T → Level
  /-- The directives that a filter keeps. -/
  Directive : T → String → Level → Prop
  default_withDefault : ∀ level, default (withDefault level) = level
  not_directive_withDefault : ∀ level key least, ¬ Directive (withDefault level) key least
  default_withTarget : ∀ t key level, default (withTarget t key level) = default t
  /-- A key has one directive, the one that came last. -/
  directive_withTarget : ∀ t key level key' least, Directive (withTarget t key level) key' least ↔
    (key' = key ∧ least = level) ∨ (key' ≠ key ∧ Directive t key' least)
  /-- The most specific directive wins. -/
  wouldEnable_of_directive : ∀ {t key least target}, Directive t key least →
    key.toList <+: target.toList →
    (∀ key' least', Directive t key' least' → key'.toList <+: target.toList →
      key'.length ≤ key.length) →
    ∀ level, wouldEnable t target level = decide (least.rank ≤ level.rank)
  wouldEnable_of_none : ∀ {t target},
    (∀ key least, Directive t key least → ¬ key.toList <+: target.toList) →
    ∀ level, wouldEnable t target level = decide ((default t).rank ≤ level.rank)

namespace FilterLibrary

variable {T : Type} (lib : FilterLibrary T)

/-- The filter of a default level and overrides, which come in some order. -/
def targets (level : Level) (order : List (String × Level)) : T :=
  order.foldl (fun t o => lib.withTarget t o.1 o.2) (lib.withDefault level)

theorem targets_concat (level : Level) (order : List (String × Level)) (o : String × Level) :
    lib.targets level (order ++ [o]) = lib.withTarget (lib.targets level order) o.1 o.2 :=
  List.foldl_concat ..

theorem default_targets (level : Level) (order : List (String × Level)) :
    lib.default (lib.targets level order) = level := by
  induction order using List.reverseRecOn with
  | nil => exact lib.default_withDefault level
  | append_singleton order o ih => rw [targets_concat, default_withTarget, ih]

/-- **The directives of a filter are its overrides**, if their keys are distinct. -/
theorem directive_targets_iff {level least : Level} {key : String}
    {order : List (String × Level)} (hkeys : (order.map Prod.fst).Nodup) :
    lib.Directive (lib.targets level order) key least ↔ (key, least) ∈ order := by
  induction order using List.reverseRecOn with
  | nil => exact iff_of_false (lib.not_directive_withDefault level key least) List.not_mem_nil
  | append_singleton order o ih =>
    rw [List.map_append, List.nodup_append] at hkeys
    obtain ⟨horder, -, hdisjoint⟩ := hkeys
    rw [targets_concat, directive_withTarget, ih horder, List.mem_append, List.mem_singleton,
      Prod.ext_iff]
    constructor
    · rintro (hnew | ⟨-, hold⟩)
      · exact Or.inr hnew
      · exact Or.inl hold
    · rintro (hold | hnew)
      · have hne := hdisjoint key (List.mem_map_of_mem hold) o.1 (by simp)
        exact Or.inr ⟨hne, hold⟩
      · exact Or.inl hnew

theorem wouldEnable_targets {filter : LogFilter} {order : List (String × Level)}
    (horder : order.Perm filter.overrides) {target : String} {decider : Option (String × Level)}
    (h : filter.Decides target decider) (level : Level) :
    lib.wouldEnable (lib.targets filter.level order) target level =
      decide ((filter.levelOf decider).rank ≤ level.rank) := by
  have hmem : ∀ key least, lib.Directive (lib.targets filter.level order) key least ↔
      (key, least) ∈ filter.overrides := by
    intro key least
    have hkeys : (order.map Prod.fst).Nodup := (filter.reorder order horder).distinct
    rw [lib.directive_targets_iff hkeys, horder.mem_iff]
  cases h with
  | default hnone =>
    rw [lib.wouldEnable_of_none fun key least hd => hnone _ ((hmem key least).mp hd),
      default_targets]
    rfl
  | @override o ho hbegins hlongest =>
    exact lib.wouldEnable_of_directive ((hmem o.1 o.2).mpr ho) hbegins
      (fun key least hd => hlongest _ ((hmem key least).mp hd)) level

/-- **The order of overrides does not matter.** A filter built from its overrides, in whatever order
they come, has one decider for each target: the override with the longest key that begins the
target, or the default level, exactly if no key does. Its level is what the filter answers by. -/
theorem answers_of_any_order {filter : LogFilter} {order order' : List (String × Level)}
    (horder : order.Perm filter.overrides) (horder' : order'.Perm filter.overrides)
    (target : String) :
    ∃ decider, filter.Decides target decider ∧
      (∀ other, filter.Decides target other → other = decider) ∧
      (decider = none ↔ ∀ o ∈ filter.overrides, ¬ o.1.toList <+: target.toList) ∧
      ∀ level,
        lib.wouldEnable (lib.targets filter.level order) target level =
          lib.wouldEnable (lib.targets filter.level order') target level ∧
        lib.wouldEnable (lib.targets filter.level order) target level =
          decide ((filter.levelOf decider).rank ≤ level.rank) ∧
        (filter.reorder order horder).wouldEnable target level =
          decide ((filter.levelOf decider).rank ≤ level.rank) := by
  have hdecides := filter.decides_override? target
  have hfound : filter.Decides target (LogFilter.override? target order) :=
    ((filter.reorder order horder).decides_override? target).of_reorder horder
  refine ⟨_, hdecides, fun other hother => hother.unique hdecides, hdecides.eq_none_iff,
    fun level => ⟨?_, lib.wouldEnable_targets horder hdecides level, ?_⟩⟩
  · rw [lib.wouldEnable_targets horder hdecides, lib.wouldEnable_targets horder' hdecides]
  · have hsame : LogFilter.override? target (filter.reorder order horder).overrides = _ :=
      hfound.unique hdecides
    rw [LogFilter.wouldEnable_eq, hsame]
    rfl

end FilterLibrary

/-! ### The filters themselves as a library -/

namespace LogFilter

theorem mem_withOverride {filter : LogFilter} {key key' : String} {level least : Level} :
    (key', least) ∈ (filter.withOverride key level).overrides ↔
      (key' = key ∧ least = level) ∨ (key' ≠ key ∧ (key', least) ∈ filter.overrides) := by
  simp [withOverride, and_comm, or_comm]

/-- The filters of the program are a library of filters. -/
def library : FilterLibrary LogFilter where
  withDefault level := { level }
  withTarget := withOverride
  wouldEnable := wouldEnable
  default := level
  Directive t key level := (key, level) ∈ t.overrides
  default_withDefault _ := rfl
  not_directive_withDefault _ _ _ := List.not_mem_nil
  default_withTarget _ _ _ := rfl
  directive_withTarget _ _ _ _ _ := mem_withOverride
  wouldEnable_of_directive {t key least target} hmem hbegins hlongest level := by
    have hdecides : t.Decides target (some (key, least)) :=
      .override hmem hbegins fun o ho => hlongest o.1 o.2 ho
    rw [wouldEnable_eq, (decides_override? t target).unique hdecides]
    rfl
  wouldEnable_of_none {t target} hnone level := by
    have hdecides : t.Decides target none := .default fun o ho => hnone o.1 o.2 ho
    rw [wouldEnable_eq, (decides_override? t target).unique hdecides]
    rfl

/-- **A filter built again** from its overrides, in whatever order they come, answers as before. -/
theorem wouldEnable_ofOverrides {filter : LogFilter} {order : List (String × Level)}
    (h : order.Perm filter.overrides) (target : String) (level : Level) :
    (ofOverrides filter.level order).wouldEnable target level =
      filter.wouldEnable target level := by
  rw [wouldEnable_eq filter]
  exact library.wouldEnable_targets h (filter.decides_override? target) level

/-- Overrides whose keys begin one another, the empty one being the shortest. -/
def nested : LogFilter where
  level := .info
  overrides := [("", .warn), ("hearthd_tplink", .error), ("hearthd_tplink::entity", .trace)]
  distinct := by decide

theorem answers_of_any_order_nested :
    nested.overrides.reverse.Perm nested.overrides ∧
    nested.Decides "hearthd_tplink::entity::coordinated"
      (some ("hearthd_tplink::entity", .trace)) ∧
    library.wouldEnable (library.targets .info nested.overrides.reverse)
      "hearthd_tplink::entity::coordinated" .trace = true ∧
    library.wouldEnable (library.targets .info nested.overrides)
      "hearthd_tplink::entity::coordinated" .trace = true := by
  have horder : nested.overrides.reverse.Perm nested.overrides := List.reverse_perm _
  have hentity : nested.Decides "hearthd_tplink::entity::coordinated"
      (some ("hearthd_tplink::entity", .trace)) :=
    nested.decides_override? "hearthd_tplink::entity::coordinated"
  obtain ⟨decider, -, honly, -, hanswers⟩ := library.answers_of_any_order horder
    (List.Perm.refl _) "hearthd_tplink::entity::coordinated"
  rw [← honly _ hentity] at hanswers
  obtain ⟨hsame, hanswer, -⟩ := hanswers .trace
  exact ⟨horder, hentity, hanswer, hsame ▸ hanswer⟩

end LogFilter

end HomeEntities
