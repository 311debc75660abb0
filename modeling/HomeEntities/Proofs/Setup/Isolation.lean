import HomeEntities.Proofs.Setup.Features
import HomeEntities.Proofs.Setup.FreeId

/-! # Platforms by themselves

All platforms share one set of keys and one set of entity ids. They do not get in each other's way:
keys carry the platform, and an entity id begins with the name of its platform and a dot
(`Platform.Owns`), as do all the numbered ids that may be tried for it. No id belongs to two
platforms (`Platform.Owns.unique`), so what entities settle on depends only on the ids taken that
belong to their own platforms (`settle_congr`). Hence the shared loop makes of a table what it makes
of the platforms one by one (`setUpEntities_eq_flatMap`), and the order of the table is only the
order of the result (`setUp_platforms_apart`). -/

namespace HomeEntities

/-! ### Ids of platforms -/

namespace Platform

/-- The id begins with the name of the platform and a dot. -/
def Owns (platform : Platform) (id : String) : Prop := ∃ rest, id = platform.name ++ "." ++ rest

theorem dot_notMem_name (platform : Platform) : '.' ∉ platform.name.toList := by
  cases platform <;> decide

theorem ofName?_name (platform : Platform) : ofName? platform.name = some platform := by
  cases platform <;> decide

theorem name_inj {p p' : Platform} (h : p.name = p'.name) : p = p' := by
  have hread := ofName?_name p
  rw [h, ofName?_name p'] at hread
  exact (Option.some.inj hread).symm

variable {platform p p' : Platform} {id : String}

/-- **No id belongs to two platforms**: the first dot ends the name. -/
theorem Owns.unique (h : p.Owns id) (h' : p'.Owns id) : p = p' := by
  obtain ⟨rest, rfl⟩ := h
  obtain ⟨rest', he⟩ := h'
  have hl := congrArg String.toList he
  simp only [String.toList_append, List.append_assoc] at hl
  have hcut := (Device.append_cons_inj_of_first p.dot_notMem_name p'.dot_notMem_name).mp hl
  exact name_inj (String.toList_inj.mp hcut.1)

theorem Owns.numbered (h : platform.Owns id) (n : Nat) :
    platform.Owns (HomeEntities.numbered id n) := by
  obtain ⟨rest, rfl⟩ := h
  refine ⟨rest ++ ("_" ++ toString n), ?_⟩
  rw [HomeEntities.numbered, String.append_assoc, String.append_assoc]

theorem Owns.freeId (h : platform.Owns id) (taken : List String) :
    platform.Owns (HomeEntities.freeId id taken) := by
  generalize hid : HomeEntities.freeId id taken = found
  cases hid ▸ freeId_cases id taken with
  | base => exact h
  | numbered => exact h.numbered _

end Platform

/-- The entity id begins with the name of the entity's platform. -/
def Entity.HasOwnId (e : Entity) : Prop := e.platform.Owns e.entityId

theorem hasOwnId_of_mem_candidatesOf {table : List Platform} {root : Device} {extras : Extras}
    {c : Entity} (h : c ∈ candidatesOf table root extras) : c.HasOwnId := by
  obtain ⟨platform, -, s, -, rfl⟩ := mem_candidatesOf.mp h
  unfold Entity.HasOwnId
  rw [Platform.newEntity_platform]
  exact ⟨_, rfl⟩

theorem hasOwnId_of_mem_settle {root : Device} {e : Entity} : ∀ {l : List Entity}
    {taken : List String}, (∀ c ∈ l, c.HasOwnId) → e ∈ settle root taken l → e.HasOwnId
  | [], _, _, he => absurd he List.not_mem_nil
  | c :: l, taken, hl, he => by
    rw [settle] at he
    rcases List.mem_cons.mp he with rfl | he
    · let c' : Entity := { c with entityId := freeId c.entityId taken }
      have hp : (c'.update root).1.platform = c.platform :=
        congrArg Origin.platform (c'.update_origin root)
      show (c'.update root).1.platform.Owns (c'.update root).1.entityId
      rw [hp, Entity.update_entityId]
      exact (hl c List.mem_cons_self).freeId taken
    · exact hasOwnId_of_mem_settle (fun c' h => hl c' (List.mem_cons_of_mem c h)) he

/-! ### Settling apart -/

/-- Two lists of ids agree on the ids of a platform. -/
def AgreeOn (platform : Platform) (taken taken' : List String) : Prop :=
  ∀ id, platform.Owns id → (id ∈ taken ↔ id ∈ taken')

theorem AgreeOn.cons {platform : Platform} {taken taken' : List String}
    (h : AgreeOn platform taken taken') (id : String) :
    AgreeOn platform (id :: taken) (id :: taken') := by
  intro id' hid'
  rw [List.mem_cons, List.mem_cons, h id' hid']

theorem AgreeOn.freeId_eq {platform : Platform} {taken taken' : List String}
    (h : AgreeOn platform taken taken') {base : String} (hb : platform.Owns base) :
    freeId base taken = freeId base taken' :=
  freeId_congr (h base hb) fun n => h _ (hb.numbered n)

/-- **What entities settle on** depends only on the ids taken on their own platforms. -/
theorem settle_congr (root : Device) : ∀ {l : List Entity} {taken taken' : List String},
    (∀ c ∈ l, c.HasOwnId) → (∀ c ∈ l, AgreeOn c.platform taken taken') →
      settle root taken l = settle root taken' l
  | [], _, _, _, _ => rfl
  | c :: l, taken, taken', hid, hagree => by
    have hfree := (hagree c List.mem_cons_self).freeId_eq (hid c List.mem_cons_self)
    rw [settle, settle, ← hfree]
    refine congrArg _ (settle_congr root (fun c' h => hid c' (List.mem_cons_of_mem c h)) ?_)
    exact fun c' h => (hagree c' (List.mem_cons_of_mem c h)).cons _

/-! ### A table platform by platform -/

section Table
variable {table : List Platform} {platform : Platform} (root : Device) (extras : Extras)

theorem platform_mem_of_mem_candidatesOf {c : Entity} (h : c ∈ candidatesOf table root extras) :
    c.platform ∈ table := by
  obtain ⟨p, hp, s, -, rfl⟩ := mem_candidatesOf.mp h
  rwa [Platform.newEntity_platform]

theorem platform_mem_of_mem_setUpEntities {e : Entity} (h : e ∈ setUpEntities table root extras) :
    e.platform ∈ table := by
  obtain ⟨c, hc, ho⟩ := exists_of_mem_settle h
  have hp : c.platform = e.platform := congrArg Origin.platform ho
  exact hp ▸ platform_mem_of_mem_candidatesOf root extras (mem_of_mem_firsts _ hc)

/-- **The first platform of a table** neither takes from the others nor gets in their way. -/
theorem setUpEntities_cons (h : platform ∉ table) :
    setUpEntities (platform :: table) root extras =
      setUpEntities [platform] root extras ++ setUpEntities table root extras := by
  have hsplit : candidatesOf (platform :: table) root extras =
      candidatesOf [platform] root extras ++ candidatesOf table root extras := by
    simp only [candidatesOf, List.flatMap_cons, List.flatMap_nil, List.append_nil]
  have hapart : ∀ a ∈ candidatesOf [platform] root extras,
      ∀ b ∈ candidatesOf table root extras, b.key ≠ a.key := by
    intro a ha b hb hk
    have hp : b.platform = a.platform := congrArg Prod.fst hk
    rw [List.mem_singleton.mp (platform_mem_of_mem_candidatesOf root extras ha)] at hp
    exact h (hp ▸ platform_mem_of_mem_candidatesOf root extras hb)
  have hown : ∀ {table : List Platform}, ∀ c ∈ firsts Entity.key (candidatesOf table root extras),
      c.HasOwnId := fun c hc => hasOwnId_of_mem_candidatesOf (mem_of_mem_firsts _ hc)
  unfold setUpEntities
  rw [hsplit, firsts_append Entity.key hapart, settle_append, List.append_nil]
  refine congrArg _ (settle_congr root hown fun c hc id hid => ?_)
  -- no id that is taken belongs to a platform of the rest
  refine ⟨fun htaken => ?_, fun hnone => absurd hnone List.not_mem_nil⟩
  obtain ⟨e, he, rfl⟩ := List.mem_map.mp (List.mem_reverse.mp htaken)
  have hp := (hasOwnId_of_mem_settle hown he).unique hid
  rw [List.mem_singleton.mp (platform_mem_of_mem_setUpEntities root extras he)] at hp
  exact absurd (hp ▸ platform_mem_of_mem_candidatesOf root extras (mem_of_mem_firsts _ hc)) h

/-- **A table** is set up platform by platform. -/
theorem setUpEntities_eq_flatMap : ∀ {table : List Platform}, table.Nodup →
    setUpEntities table root extras =
      table.flatMap fun platform => setUpEntities [platform] root extras
  | [], _ => rfl
  | platform :: table, h => by
    rw [List.nodup_cons] at h
    rw [setUpEntities_cons root extras h.1, List.flatMap_cons, setUpEntities_eq_flatMap h.2]

theorem filter_setUpEntities_of_notMem (h : platform ∉ table) :
    (setUpEntities table root extras).filter (fun e => e.platform = platform) = [] := by
  refine List.filter_eq_nil_iff.mpr fun e he hp => h ?_
  exact of_decide_eq_true hp ▸ platform_mem_of_mem_setUpEntities root extras he

theorem filter_setUpEntities : ∀ {table : List Platform}, table.Nodup → platform ∈ table →
    (setUpEntities table root extras).filter (fun e => e.platform = platform) =
      setUpEntities [platform] root extras
  | p :: table, hn, hmem => by
    rw [List.nodup_cons] at hn
    rw [setUpEntities_cons root extras hn.1, List.filter_append]
    rcases List.mem_cons.mp hmem with rfl | hmem
    · rw [filter_setUpEntities_of_notMem root extras hn.1, List.append_nil, List.filter_eq_self]
      intro e he
      exact decide_eq_true
        (List.mem_singleton.mp (platform_mem_of_mem_setUpEntities root extras he))
    · have hne : platform ∉ [p] := fun h => hn.1 (List.mem_singleton.mp h ▸ hmem)
      rw [filter_setUpEntities_of_notMem root extras hne, List.nil_append]
      exact filter_setUpEntities hn.2 hmem

end Table

/-- **Platforms do not interfere.** On every tree the entities of one platform, with their ids,
identities and states and in their order, are those of a set-up for this platform alone. In whatever
order platforms are set up, the entities of each are the same, and they follow each other in that
order. -/
theorem setUp_platforms_apart (root : Device) (extras : Extras) :
    ∃ entities events, setUp root extras = .ok (entities, events) ∧
      (∀ platform : Platform, ∃ events', setUpWith [platform] root extras =
        .ok (entities.filter (fun e => e.platform = platform), events')) ∧
      ∀ table : List Platform, table.Perm Platform.all → ∃ reordered events',
        setUpWith table root extras = .ok (reordered, events') ∧
        reordered = (table.flatMap fun platform =>
          entities.filter (fun e => e.platform = platform)) ∧
        reordered.Perm entities := by
  obtain ⟨events, hok, -⟩ := setUpWith_eq Platform.all root extras
  have halone : ∀ platform : Platform,
      (setUpEntities Platform.all root extras).filter (fun e => e.platform = platform) =
        setUpEntities [platform] root extras := fun platform =>
    filter_setUpEntities root extras Platform.nodup_all platform.mem_all
  refine ⟨_, events, hok, fun platform => ?_, fun table hperm => ?_⟩
  · obtain ⟨events', hok', -⟩ := setUpWith_eq [platform] root extras
    exact ⟨events', halone platform ▸ hok'⟩
  · obtain ⟨events', hok', -⟩ := setUpWith_eq table root extras
    have htable := setUpEntities_eq_flatMap root extras (hperm.nodup_iff.mpr Platform.nodup_all)
    refine ⟨_, events', hok', ?_, ?_⟩
    · simp only [halone, htable]
    · rw [htable, setUpEntities_eq_flatMap root extras Platform.nodup_all]
      exact hperm.flatMap_right _

/-! ### A fan whose entities share a name -/

/-- A fan with features of several types, which all have one name. -/
def fan : Device where
  id := "8014"
  name := "Attic"
  model := "KS240"
  mac := "50:C7:BF:00:00:14"
  type := .fan
  features := [
    { id := "fan_rpm", name := "Fan", type := .sensor, category := .info, value := .int 900 },
    { id := "fan_load", name := "Fan", type := .sensor, category := .info, value := .int 40 },
    { id := "fan_level", name := "Fan", type := .number, category := .config, value := .int 2 },
    { id := "fan", name := "Fan", type := .switch, category := .config, value := .bool true }]

theorem setUp_platforms_apart_fan :
    ∃ entities events, setUp fan {} = .ok (entities, events) ∧
      entities.map (·.entityId) =
        ["number.attic_fan", "sensor.attic_fan", "sensor.attic_fan_2", "switch.attic_fan"] ∧
      (∃ events', setUpWith [.sensor] fan {} =
        .ok (entities.filter (fun e => e.platform = .sensor), events')) ∧
      Platform.all.reverse.Perm Platform.all ∧ ∃ reordered events',
        setUpWith Platform.all.reverse fan {} = .ok (reordered, events') ∧
        reordered = (Platform.all.reverse.flatMap fun platform =>
          entities.filter (fun e => e.platform = platform)) ∧
        reordered.Perm entities := by
  obtain ⟨entities, events, hok, halone, htable⟩ := setUp_platforms_apart fan {}
  have hreverse : Platform.all.reverse.Perm Platform.all := List.reverse_perm _
  refine ⟨entities, events, hok, ?_, halone .sensor, hreverse, htable _ hreverse⟩
  rw [eq_setUpEntities hok]
  decide +kernel

end HomeEntities
