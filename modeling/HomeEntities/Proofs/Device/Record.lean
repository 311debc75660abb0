import HomeEntities.Device.Decode
import Mathlib.Data.List.Nodup
import Mathlib.Data.List.Perm.Basic

/-! # Presentations of a record

A record can be written in many ways: as an object with its members in any order, with others in
between and without those that hold their defaults, or as the array of its members. What is written
is given by fields, one for each member (`Record.Field`), and `Record.PresentedBy` says what the
ways are. Reading leads to the same members in all of them (`Record.PresentedBy.members?`), so that
each member is read as its field says (`required_of_foundIn`, `defaulted_of_foundIn`).

Values of features are kept as they are, if they are normal (`Json.normal?_of_normal`). -/

namespace HomeEntities

open Decimal

/-! ### Values that are normal -/

namespace Json

theorem Members.insert_of_forall_lt {name : String} (value : Json) {sorted : Members}
    (h : ∀ m ∈ sorted, m.1 < name) :
    Members.insert name value sorted = sorted ++ [(name, value)] := by
  induction sorted with
  | nil => rfl
  | cons m sorted ih =>
    obtain ⟨n, v⟩ := m
    have hlt : n < name := h (n, v) List.mem_cons_self
    have hnot : ¬ name < n := fun h' => String.lt_irrefl _ (String.lt_trans hlt h')
    have hne : name ≠ n := fun h' => String.lt_irrefl _ (h' ▸ hlt)
    rw [Members.insert, if_neg hnot, if_neg hne, ih fun m hm => h m (List.mem_cons_of_mem _ hm)]
    rfl

mutual

/-- **A normal value is its own normal form.** -/
theorem normal?_of_normal : ∀ {value : Json}, value.Normal → value.normal? = some value
  | null, _ | bool _, _ | int _, _ | float _, _ | str _, _ => rfl
  | arr items, h => by
    rw [normal?, normalItems?_of_normal h]
    rfl
  | obj members, h => by
    rw [normal?, normalMembers?_of_normal h (by simp)]
    rfl
  | unreadable, h => h.elim

theorem normalItems?_of_normal : ∀ {items : List Json}, NormalItems items →
    normalItems? items = some items
  | [], _ => rfl
  | item :: items, h => by
    rw [normalItems?, normal?_of_normal h.1, normalItems?_of_normal h.2]

/-- Members that ascend are appended to those before them one by one. -/
theorem normalMembers?_of_normal : ∀ {members sorted : Members} {above : Option String},
    NormalMembers above members → (∀ m ∈ sorted, ∃ a, above = some a ∧ (m.1 < a ∨ m.1 = a)) →
      normalMembers? sorted members = some (sorted ++ members)
  | [], sorted, _, _, _ => by rw [normalMembers?, List.append_nil]
  | (name, value) :: members, sorted, above, ⟨habove, hvalue, hrest⟩, hs => by
    have hlt : ∀ m ∈ sorted, m.1 < name := by
      intro m hm
      obtain ⟨a, ha, h | h⟩ := hs m hm
      · exact String.lt_trans h (habove a ha)
      · exact h ▸ habove a ha
    have hsorted : ∀ m ∈ sorted ++ [(name, value)],
        ∃ a, some name = some a ∧ (m.1 < a ∨ m.1 = a) := by
      intro m hm
      rcases List.mem_append.mp hm with hm | hm
      · exact ⟨name, rfl, Or.inl (hlt m hm)⟩
      · rw [List.mem_singleton.mp hm]
        exact ⟨name, rfl, Or.inr rfl⟩
    simp only [normalMembers?, normal?_of_normal hvalue, Members.insert_of_forall_lt value hlt]
    rw [normalMembers?_of_normal hrest hsorted, List.append_assoc]
    rfl

end

end Json

/-! ### Looking up members -/

section Lookup
variable {α : Type} {l l' : List (String × α)} {name : String}

theorem lookup_filter {known : String → Bool} (h : known name = true) (l : List (String × α)) :
    (l.filter fun m => known m.1).lookup name = l.lookup name := by
  induction l with
  | nil => rfl
  | cons m l ih =>
    obtain ⟨n, a⟩ := m
    by_cases hn : name = n
    · subst hn
      simp [h]
    · have hbeq : (name == n) = false := beq_false_of_ne hn
      rw [List.filter_cons]
      split
      · rw [List.lookup_cons, List.lookup_cons, hbeq, ih]
      · rw [List.lookup_cons, hbeq, ih]

/-- The order of members of distinct names does not matter. -/
theorem lookup_eq_of_perm (hp : l.Perm l') (hn : (l.map Prod.fst).Nodup) :
    l.lookup name = l'.lookup name := by
  induction hp with
  | nil => rfl
  | cons m _ ih =>
    rw [List.map_cons, List.nodup_cons] at hn
    rw [List.lookup_cons, List.lookup_cons, ih hn.2]
  | swap m m' l =>
    have hne : m'.1 ≠ m.1 := by
      rw [List.map_cons, List.map_cons, List.nodup_cons] at hn
      exact fun h => hn.1 (h ▸ List.mem_cons_self)
    rw [List.lookup_cons, List.lookup_cons, List.lookup_cons, List.lookup_cons]
    by_cases hm : name = m.1
    · have hm' : (name == m'.1) = false := beq_false_of_ne fun h => hne (h.symm.trans hm)
      rw [hm']
    · rw [beq_false_of_ne hm]
  | trans h₁ _ ih₁ ih₂ =>
    exact (ih₁ hn).trans (ih₂ ((h₁.map Prod.fst).nodup_iff.mp hn))

end Lookup

/-! ### Records -/

namespace Record

/-- A member of a record that is to be written: its name, whether it may be left out, and what shows
the value that it holds. -/
structure Field where
  name : String
  optional : Prop
  shows : Json → Prop

/-- A member that is always written, as one value. -/
def Field.always (name : String) (value : Json) : Field := ⟨name, False, (· = value)⟩

/-- A member that may be left out if it holds its default, and else is written as one value. -/
def Field.unless (default : Prop) (name : String) (value : Json) : Field :=
  ⟨name, default, (· = value)⟩

/-- Members that are written for fields, in their order. -/
inductive Written : List Field → Json.Members → Prop
  | nil : Written [] []
  | write {field : Field} {fields : List Field} {value : Json} {members : Json.Members}
      (hv : field.shows value) (h : Written fields members) :
      Written (field :: fields) ((field.name, value) :: members)
  | skip {field : Field} {fields : List Field} {members : Json.Members} (ho : field.optional)
      (h : Written fields members) : Written (field :: fields) members

/-- **The presentations of a record**: an object whose known members are those written, in whatever
order, or an array of all members in the order of the fields. -/
inductive PresentedBy (fields : List Field) : Json → Prop
  | object {members written : Json.Members} (h : Written fields written)
      (hp : (members.filter fun m => (fields.map (·.name)).contains m.1).Perm written) :
      PresentedBy fields (.obj members)
  | array {items : List Json} (h : List.Forall₂ (fun field item => field.shows item) fields items) :
      PresentedBy fields (.arr items)

/-- What is found of a field among members: a value that shows it, or nothing if it can be left
out. -/
def Field.FoundIn (members : Json.Members) (field : Field) : Prop :=
  match members.find? field.name with
  | some value => field.shows value
  | none => field.optional

theorem Field.foundIn_congr {members members' : Json.Members} {field : Field}
    (h : members.lookup field.name = members'.lookup field.name) :
    field.FoundIn members ↔ field.FoundIn members' := by
  unfold FoundIn Json.Members.find?
  rw [h]

section Written
variable {fields : List Field} {members : Json.Members}

theorem Written.names_sublist (h : Written fields members) :
    (members.map Prod.fst).Sublist (fields.map (·.name)) := by
  induction h with
  | nil => exact .slnil
  | write _ _ ih => exact ih.cons_cons _
  | skip _ _ ih => exact ih.cons _

theorem Written.foundIn (h : Written fields members) (hn : (fields.map (·.name)).Nodup) :
    ∀ field ∈ fields, field.FoundIn members := by
  induction h with
  | nil => simp
  | @write first fields value members hv h ih =>
    rw [List.map_cons, List.nodup_cons] at hn
    intro field hf
    rcases List.mem_cons.mp hf with rfl | hf
    · simpa [Field.FoundIn, Json.Members.find?, List.lookup_cons] using hv
    · have hne : field.name ≠ first.name := fun h => hn.1 (h ▸ List.mem_map_of_mem hf)
      refine (Field.foundIn_congr ?_).mp (ih hn.2 field hf)
      rw [List.lookup_cons, (beq_false_of_ne hne : (field.name == first.name) = false)]
  | @skip first fields members ho h ih =>
    rw [List.map_cons, List.nodup_cons] at hn
    intro field hf
    rcases List.mem_cons.mp hf with rfl | hf
    · have hnone : members.lookup field.name = none := by
        refine List.lookup_eq_none_iff.mpr fun m hm => ?_
        exact bne_iff_ne.mpr fun h' =>
          hn.1 (h.names_sublist.subset (h' ▸ List.mem_map_of_mem hm))
      simpa [Field.FoundIn, Json.Members.find?, hnone] using ho
    · exact ih hn.2 field hf

theorem written_zip {items : List Json}
    (h : List.Forall₂ (fun field item => field.shows item) fields items) :
    Written fields ((fields.map (·.name)).zip items) := by
  induction h with
  | nil => exact .nil
  | cons hv _ ih => exact .write hv ih

theorem Written.presentedBy (h : Written fields members) : PresentedBy fields (.obj members) := by
  refine .object h ?_
  rw [List.filter_eq_self.mpr fun m hm => ?_]
  rw [List.contains_iff_mem]
  exact h.names_sublist.subset (List.mem_map_of_mem hm)

/-- Members of distinct names do not repeat any, and other members do not matter. -/
theorem length_filter_le_one {written : Json.Members} {known : List String} (hn : known.Nodup)
    (hw : (written.map Prod.fst).Sublist known)
    (hp : (members.filter fun m => known.contains m.1).Perm written) {name : String}
    (h : name ∈ known) : (members.filter (·.1 == name)).length ≤ 1 := by
  have hcount : ∀ l : Json.Members,
      (l.filter (·.1 == name)).length = (l.map Prod.fst).count name := by
    intro l
    rw [List.count_eq_countP, List.countP_map, List.countP_eq_length_filter]
    rfl
  have hknown : (members.filter fun m => known.contains m.1).filter (·.1 == name) =
      members.filter (·.1 == name) := by
    rw [List.filter_filter]
    refine List.filter_congr fun m _ => ?_
    by_cases hm : m.1 = name
    · simp [hm, h]
    · simp [hm]
  rw [← hknown, hcount, (hp.map Prod.fst).count_eq]
  exact List.nodup_iff_count_le_one.mp (hw.nodup hn) name

end Written

/-- **Reading the members of a record**: whatever way it is written in, what it holds is found. -/
theorem PresentedBy.members? {fields : List Field} {value : Json} (h : PresentedBy fields value)
    {known : List String} (hk : fields.map (·.name) = known) (hn : known.Nodup) :
    ∃ members, Record.members? known value = some members ∧
      ∀ field ∈ fields, field.FoundIn members := by
  subst hk
  cases h with
  | @object members written hw hp =>
    have hnames := hw.names_sublist
    refine ⟨members, if_pos (List.all_eq_true.mpr fun name hname => ?_), fun field hf => ?_⟩
    · exact decide_eq_true (length_filter_le_one hn hnames hp hname)
    · have hknown : (fields.map (·.name)).contains field.name = true := by
        rw [List.contains_iff_mem]
        exact List.mem_map_of_mem hf
      have hnodup := (hp.map Prod.fst).nodup_iff.mpr (hnames.nodup hn)
      refine (Field.foundIn_congr ?_).mpr (hw.foundIn hn field hf)
      rw [← lookup_filter hknown, lookup_eq_of_perm hp hnodup]
  | @array items h =>
    have hlength : items.length ≤ (fields.map (·.name)).length := by
      rw [List.length_map]
      exact Nat.le_of_eq h.length_eq.symm
    exact ⟨_, if_pos hlength, (written_zip h).foundIn hn⟩

theorem eq_of_members?_obj {known : List String} {all members : Json.Members}
    (h : members? known (.obj all) = some members) : members = all := by
  simp only [Record.members?] at h
  split at h
  · exact (Option.some.inj h).symm
  · cases h

theorem eq_of_members?_arr {known : List String} {items : List Json} {members : Json.Members}
    (h : members? known (.arr items) = some members) : members = known.zip items := by
  simp only [Record.members?] at h
  split at h
  · exact (Option.some.inj h).symm
  · cases h

section Read
variable {α : Type} {members : Json.Members} {read : Json → Option α} {a : α} {name : String}

theorem required_of_foundIn {value : Json} (h : (Field.always name value).FoundIn members)
    (hr : read value = some a) : required members name read = some a := by
  unfold Field.FoundIn at h
  unfold required
  cases hm : members.find? (Field.always name value).name with
  | none => rw [hm] at h; exact h.elim
  | some v =>
    rw [hm] at h
    obtain rfl : v = value := h
    have hm' : members.find? name = some v := hm
    rw [hm']
    exact hr

theorem defaulted_of_foundIn {field : Field} {default : α} (h : field.FoundIn members)
    (ho : field.optional → default = a) (hr : ∀ v, field.shows v → read v = some a) :
    defaulted members field.name default read = some a := by
  unfold Field.FoundIn at h
  unfold defaulted
  cases hm : members.find? field.name with
  | none =>
    rw [hm] at h
    exact congrArg some (ho h)
  | some v =>
    rw [hm] at h
    exact hr v h

theorem unless_of_foundIn {holds : Prop} {value : Json} {default : α}
    (h : (Field.unless holds name value).FoundIn members) (ho : holds → default = a)
    (hr : read value = some a) : defaulted members name default read = some a :=
  defaulted_of_foundIn h ho fun v (hv : v = value) => hv ▸ hr

end Read

/-! ### Values that may be absent -/

theorem texts?_ofTexts (texts : List String) : texts? (Json.ofTexts texts) = some texts := by
  unfold texts? Json.ofTexts
  simp only [Json.asItems?, Option.bind_some]
  induction texts with
  | nil => rfl
  | cons s texts ih =>
    rw [List.map_cons, List.mapM_cons, ih]
    rfl

theorem nullable_ofTexts? (texts : Option (List String)) :
    nullable texts? (Json.ofTexts? texts) = some texts := by
  cases texts with
  | none => rfl
  | some texts => exact congrArg (Option.map some) (texts?_ofTexts texts)

theorem nullable_ofText? (text : Option String) :
    nullable Json.asText? (Json.ofText? text) = some text := by
  cases text <;> rfl

theorem nullable_ofNumber? {x : Option Binary64} (h : ∀ y ∈ x, y.isFinite = true) :
    nullable Json.asNumber? (Json.ofNumber? x) = some x := by
  cases x with
  | none => rfl
  | some y =>
    rw [Json.ofNumber?, if_pos (h y rfl)]
    rfl

end Record

end HomeEntities
