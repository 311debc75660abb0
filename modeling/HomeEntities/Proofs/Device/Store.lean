import HomeEntities.Device.Store
import Mathlib.Data.List.Basic

/-! # A device tree as a store

Values stand at *positions* of a tree: a device, counted from the root through its children, and a
feature of that device. A device id and a feature id address at most one position (`address?`), the
one that look-ups find; a write changes the value there and at no other position
(`valueAt?_modify`), and all of the tree that is no value stays (`skeleton_modify`). A look-up after
a write finds the device with the value put in place (`find?_modify`, `value?_setFeature`). What a
write puts in the place that it found is such a change (`write_eq`).

`Device.setAll` makes several writes to one device; `onlyWritten_setAll` is what holds of them
together. -/

namespace HomeEntities

/-! ### Changing the first element that satisfies a test -/

theorem beq_eq_false_of_beq {id id' other : String} (h : other ≠ id') (hid : (id == id') = true) :
    (id == other) = false := by
  rw [beq_iff_eq.mp hid]
  exact beq_false_of_ne h.symm

section UpdateFirst
variable {α β : Type _} {test test' : α → Bool} {f g : α → α}

theorem find?_updateFirst (hf : ∀ a, test (f a) = test a) (l : List α) :
    (updateFirst test f l).find? test = (l.find? test).map f := by
  induction l with
  | nil => rfl
  | cons a l ih =>
    unfold updateFirst
    cases ha : test a with
    | true => simp [ha, hf]
    | false => simp [ha, ih]

theorem find?_updateFirst_of_disjoint (hf : ∀ a, test' (f a) = test' a)
    (h : ∀ a, test a = true → test' a = false) (l : List α) :
    (updateFirst test f l).find? test' = l.find? test' := by
  induction l with
  | nil => rfl
  | cons a l ih =>
    unfold updateFirst
    cases ha : test a with
    | true => simp [hf, h a ha]
    | false => cases ha' : test' a <;> simp [ha', ih]

theorem getElem?_updateFirst (l : List α) (i : Nat) :
    (updateFirst test f l)[i]? =
      if l.findIdx? test = some i then (l[i]?).map f else l[i]? := by
  induction l generalizing i with
  | nil => simp [updateFirst]
  | cons a l ih =>
    unfold updateFirst
    cases ha : test a with
    | true => cases i <;> simp [List.findIdx?_cons, ha]
    | false =>
      cases i with
      | zero => simp [List.findIdx?_cons, ha]
      | succ i => simp [List.findIdx?_cons, ha, ih]

theorem map_updateFirst {φ : α → β} (hf : ∀ a, φ (f a) = φ a) (l : List α) :
    (updateFirst test f l).map φ = l.map φ := by
  induction l with
  | nil => rfl
  | cons a l ih =>
    unfold updateFirst
    split
    · rw [List.map_cons, List.map_cons, hf]
    · rw [List.map_cons, List.map_cons, ih]

theorem updateFirst_map {test' : β → Bool} {f' : β → β} {φ : α → β}
    (ht : ∀ a, test' (φ a) = test a) (hf : ∀ a, φ (f a) = f' (φ a)) (l : List α) :
    updateFirst test' f' (l.map φ) = (updateFirst test f l).map φ := by
  induction l with
  | nil => rfl
  | cons a l ih =>
    simp only [updateFirst, List.map_cons, ht]
    split
    · rw [List.map_cons, hf]
    · rw [List.map_cons, ih]

theorem updateFirst_updateFirst (hf : ∀ a, test (f a) = test a) (l : List α) :
    updateFirst test g (updateFirst test f l) = updateFirst test (g ∘ f) l := by
  induction l with
  | nil => rfl
  | cons a l ih =>
    cases ha : test a with
    | true => simp [updateFirst, ha, hf]
    | false => simp [updateFirst, ha, ih]

theorem updateFirst_eq_self {l : List α} (h : ∀ a, l.find? test = some a → f a = a) :
    updateFirst test f l = l := by
  induction l with
  | nil => rfl
  | cons a l ih =>
    cases ha : test a with
    | true => simp [updateFirst, ha, h a (List.find?_cons_of_pos ha)]
    | false =>
      have hrest := ih fun b hb => h b ((List.find?_cons_of_neg (by simp [ha])).trans hb)
      simp [updateFirst, ha, hrest]

theorem updateFirst_comm (hf : ∀ a, test' (f a) = test' a) (hg : ∀ a, test (g a) = test a)
    (h : ∀ a, test a = true → test' a = false) (l : List α) :
    updateFirst test f (updateFirst test' g l) = updateFirst test' g (updateFirst test f l) := by
  induction l with
  | nil => rfl
  | cons a l ih =>
    cases ha : test a with
    | true => simp [updateFirst, ha, h a ha, hf]
    | false => cases ha' : test' a <;> simp [updateFirst, ha, ha', hg, ih]

theorem updateFirst_congr {l : List α} {a : α} (h : l.find? test = some a) (hfg : f a = g a) :
    updateFirst test f l = updateFirst test g l := by
  induction l with
  | nil => rfl
  | cons b l ih =>
    unfold updateFirst
    cases hb : test b with
    | true =>
      obtain rfl : b = a := by simpa [hb] using h
      simp [hfg]
    | false =>
      have hrest := ih (by simpa [hb] using h)
      simp [hrest]

/-- **The place of the element found**: what is put there takes its place in the list. -/
theorem firstMut_eq (l : List α) : firstMut test l =
    (l.find? test).map fun a => (a, fun a' => updateFirst test (fun _ => a') l) := by
  induction l with
  | nil => rfl
  | cons a l ih =>
    unfold firstMut
    cases ha : test a with
    | true => simp [updateFirst, ha]
    | false =>
      rw [ih]
      simp [updateFirst, ha, Function.comp_def]

end UpdateFirst

namespace Device

/-- The device with the value of its first feature of an id replaced. -/
def setFeature (featureId : String) (value : Json) (device : Device) : Device :=
  { device with
    features := updateFirst (·.id == featureId) (fun f => { f with value }) device.features }

variable (root d : Device) (deviceId featureId : String) (value : Json)

/-! ### Look-ups after writes -/

theorem setFeature_id : (d.setFeature featureId value).id = d.id := rfl

theorem feature?_setFeature : (d.setFeature featureId value).feature? featureId =
    (d.feature? featureId).map fun f => { f with value } :=
  @find?_updateFirst Feature (·.id == featureId) (fun f => { f with value }) (fun _ => rfl)
    d.features

theorem feature?_setFeature_of_ne {id : String} (h : id ≠ featureId) :
    (d.setFeature featureId value).feature? id = d.feature? id := by
  have hne : ∀ f : Feature, (f.id == featureId) = true → (f.id == id) = false :=
    fun _ => beq_eq_false_of_beq h
  exact @find?_updateFirst_of_disjoint Feature (·.id == featureId) (·.id == id)
    (fun f => { f with value }) (fun _ => rfl) hne d.features

/-- The value of the first feature of an id. -/
def value? (id : String) : Option Json := (d.feature? id).map (·.value)

/-- **A look-up after a write.** -/
theorem value?_setFeature (id : String) : (d.setFeature featureId value).value? id =
    if id = featureId then (d.value? id).map fun _ => value else d.value? id := by
  unfold value?
  split
  · rename_i h
    rw [h, feature?_setFeature, Option.map_map, Option.map_map]
    rfl
  · rename_i h
    rw [feature?_setFeature_of_ne d featureId value h]

theorem isSome_feature?_setFeature (id : String) :
    ((d.setFeature featureId value).feature? id).isSome = (d.feature? id).isSome := by
  by_cases h : id = featureId
  · rw [h, feature?_setFeature, Option.isSome_map]
  · rw [feature?_setFeature_of_ne d featureId value h]

theorem find?_modify {f : Device → Device} (hf : ∀ d, (f d).id = d.id) :
    (root.modify deviceId f).find? deviceId = (root.find? deviceId).map f := by
  unfold modify find?
  by_cases hr : (root.id == deviceId) = true
  · simp [hr, hf]
  · simp only [hr, if_false, Bool.false_eq_true]
    exact find?_updateFirst (fun c => by rw [hf]) root.children

theorem modify_modify {f g : Device → Device} (hf : ∀ d, (f d).id = d.id) :
    (root.modify deviceId f).modify deviceId g = root.modify deviceId (g ∘ f) := by
  unfold modify
  by_cases hr : (root.id == deviceId) = true
  · simp [hr, hf]
  · simp only [hr, if_false, Bool.false_eq_true]
    rw [updateFirst_updateFirst fun c => by rw [hf]]

/-- The device with several values replaced in turn. -/
def setAll (writes : List (String × Json)) (d : Device) : Device :=
  writes.foldl (fun d w => d.setFeature w.1 w.2) d

theorem setAll_id (writes : List (String × Json)) : (d.setAll writes).id = d.id := by
  induction writes generalizing d with
  | nil => rfl
  | cons w writes ih => exact ih (d.setFeature w.1 w.2)

theorem isSome_feature?_setAll (writes : List (String × Json)) (id : String) :
    ((d.setAll writes).feature? id).isSome = (d.feature? id).isSome := by
  induction writes generalizing d with
  | nil => rfl
  | cons w writes ih => exact (ih _).trans (isSome_feature?_setFeature d w.1 w.2 id)

/-! ### Positions -/

/-- The place of the first device of an id: the root comes first, then its children. -/
def place? : Option Nat :=
  if root.id == deviceId then some 0
  else (root.children.findIdx? (·.id == deviceId)).map (· + 1)

/-- The features of the device in a place. -/
def featuresAt (root : Device) : Nat → List Feature
  | 0 => root.features
  | i + 1 => ((root.children[i]?).map (·.features)).getD []

/-- The position that a device id and a feature id address. -/
def address? : Option (Nat × Nat) :=
  (root.place? deviceId).bind fun i =>
    ((root.featuresAt i).findIdx? (·.id == featureId)).map (i, ·)

/-- The value at a position. -/
def valueAt? (position : Nat × Nat) : Option Json :=
  ((root.featuresAt position.1)[position.2]?).map (·.value)

/-- The device without the values of its features. -/
def blank : Device :=
  { d with features := d.features.map fun f => { f with value := .null } }

/-- What there is of a tree besides the values that look-ups find. -/
def skeleton : Device := { root.blank with children := root.children.map blank }

/-! ### One write -/

theorem featuresAt_modify (i : Nat) :
    (root.modify deviceId (setFeature featureId value)).featuresAt i =
      if root.place? deviceId = some i then
        updateFirst (·.id == featureId) (fun f => { f with value }) (root.featuresAt i)
      else root.featuresAt i := by
  unfold modify place?
  split
  · cases i with
    | zero => rfl
    | succ i => rw [if_neg (by simp)]; rfl
  · cases i with
    | zero => rw [if_neg (by simp)]; rfl
    | succ i =>
      simp only [featuresAt, getElem?_updateFirst]
      by_cases h : root.children.findIdx? (·.id == deviceId) = some i
      · obtain ⟨hi, -⟩ := List.findIdx?_eq_some_iff_getElem.mp h
        simp [h, hi, setFeature]
      · simp [h]

/-- **A value after a write.** -/
theorem valueAt?_modify (p : Nat × Nat) :
    (root.modify deviceId (setFeature featureId value)).valueAt? p =
      if root.address? deviceId featureId = some p then some value else root.valueAt? p := by
  obtain ⟨i, j⟩ := p
  unfold valueAt? address?
  rw [featuresAt_modify]
  by_cases hi : root.place? deviceId = some i
  · rw [if_pos hi, getElem?_updateFirst, hi]
    by_cases hj : (root.featuresAt i).findIdx? (·.id == featureId) = some j
    · obtain ⟨hlt, -⟩ := List.findIdx?_eq_some_iff_getElem.mp hj
      simp [hj, hlt]
    · simp [hj]
  · rw [if_neg hi, if_neg]
    intro h
    obtain ⟨i', hi', h⟩ := Option.bind_eq_some_iff.mp h
    obtain ⟨j', -, h⟩ := Option.map_eq_some_iff.mp h
    cases h
    exact hi hi'

theorem blank_setFeature : (d.setFeature featureId value).blank = d.blank := by
  have hsame : ∀ f : Feature, ({ f with value := .null } : Feature) =
      { { f with value := value } with value := .null } := fun _ => rfl
  unfold blank setFeature
  rw [map_updateFirst fun f => (hsame f).symm]

/-- **A write** leaves all that is no value. -/
theorem skeleton_modify :
    (root.modify deviceId (setFeature featureId value)).skeleton = root.skeleton := by
  unfold modify skeleton
  split
  · rw [blank_setFeature]; rfl
  · rw [map_updateFirst fun c => blank_setFeature c featureId value]; rfl

theorem address?_skeleton : root.skeleton.address? deviceId featureId =
    root.address? deviceId featureId := by
  have hplace : root.skeleton.place? deviceId = root.place? deviceId := by
    unfold place? skeleton
    simp only [List.findIdx?_map]
    rfl
  have hids : ∀ i, (root.skeleton.featuresAt i).findIdx? (·.id == featureId) =
      (root.featuresAt i).findIdx? (·.id == featureId) := by
    intro i
    cases i with
    | zero => exact List.findIdx?_map ..
    | succ i =>
      unfold featuresAt skeleton
      simp only [List.getElem?_map]
      cases root.children[i]? with
      | none => rfl
      | some c => exact List.findIdx?_map ..
  unfold address?
  rw [hplace]
  simp only [hids]

/-! ### Several writes to one device -/

variable (writes : List (String × Json))

theorem modify_setAll_cons (w : String × Json) :
    root.modify deviceId (setAll (w :: writes)) =
      (root.modify deviceId (setFeature w.1 w.2)).modify deviceId (setAll writes) := by
  rw [modify_modify root deviceId fun d => d.setFeature_id w.1 w.2]
  rfl

theorem modify_setAll_nil : root.modify deviceId (setAll []) = root := by
  unfold modify
  split
  · rfl
  · have hchildren : updateFirst (·.id == deviceId) (setAll []) root.children = root.children :=
      updateFirst_eq_self fun c _ => (rfl : setAll [] c = c)
    rw [hchildren]
    cases root
    rfl

theorem skeleton_modify_setAll :
    (root.modify deviceId (setAll writes)).skeleton = root.skeleton := by
  induction writes generalizing root with
  | nil => rw [modify_setAll_nil]
  | cons w writes ih => rw [modify_setAll_cons, ih, skeleton_modify]

theorem valueAt?_modify_setAll {p : Nat × Nat}
    (h : ∀ w ∈ writes, root.address? deviceId w.1 ≠ some p) :
    (root.modify deviceId (setAll writes)).valueAt? p = root.valueAt? p := by
  induction writes generalizing root with
  | nil => rw [modify_setAll_nil]
  | cons w writes ih =>
    have hw := h w List.mem_cons_self
    have hrest : ∀ w' ∈ writes,
        (root.modify deviceId (setFeature w.1 w.2)).address? deviceId w'.1 ≠ some p := by
      intro w' hmem
      rw [← address?_skeleton, skeleton_modify, address?_skeleton]
      exact h w' (List.mem_cons_of_mem w hmem)
    rw [modify_setAll_cons, ih _ hrest, valueAt?_modify, if_neg hw]

/-- From one tree to another nothing changes but values that were written to a device. -/
structure OnlyWritten (deviceId : String) (writes : List (String × Json)) (tree tree' : Device) :
    Prop where
  skeleton : tree'.skeleton = tree.skeleton
  values : ∀ p, (∀ w ∈ writes, tree.address? deviceId w.1 ≠ some p) →
    tree'.valueAt? p = tree.valueAt? p

/-- **What is not written** stays as it was. -/
theorem onlyWritten_setAll :
    OnlyWritten deviceId writes root (root.modify deviceId (setAll writes)) :=
  ⟨skeleton_modify_setAll root deviceId writes,
    fun _ h => valueAt?_modify_setAll root deviceId writes h⟩

/-! ### Writes -/

theorem findMut_eq : root.findMut deviceId =
    (root.find? deviceId).map fun d => (d, fun d' => root.modify deviceId fun _ => d') := by
  unfold findMut find? modify
  split
  · rfl
  · rw [firstMut_eq, Option.map_map]
    rfl

theorem featureMut_eq : d.featureMut featureId = (d.feature? featureId).map fun f =>
    (f, fun f' => { d with
      features := updateFirst (·.id == featureId) (fun _ => f') d.features }) := by
  unfold featureMut feature?
  rw [firstMut_eq, Option.map_map]
  rfl

variable {root d deviceId} in
theorem modify_congr {f g : Device → Device} (hd : root.find? deviceId = some d)
    (hfg : f d = g d) : root.modify deviceId f = root.modify deviceId g := by
  unfold modify find? at *
  split_ifs with h
  · rw [if_pos h] at hd
    cases hd
    exact hfg
  · rw [if_neg h] at hd
    rw [updateFirst_congr hd hfg]

/-- **A write** looks up what a reading looks up, and changes the value there and nothing else. -/
theorem write_eq : root.write deviceId featureId value =
    match root.find? deviceId with
    | none => .error (.unknownDevice deviceId)
    | some device =>
      match device.feature? featureId with
      | none => .error (.unknownFeature deviceId featureId)
      | some _ => .ok (root.modify deviceId (setFeature featureId value)) := by
  unfold write
  rw [findMut_eq]
  cases hd : root.find? deviceId with
  | none => rfl
  | some d =>
    simp only [Option.map_some, featureMut_eq]
    cases hf : d.feature? featureId with
    | none => rfl
    | some f =>
      have hset : updateFirst (·.id == featureId) (fun _ => { f with value }) d.features =
          (d.setFeature featureId value).features := updateFirst_congr hf rfl
      have hmodify : root.modify deviceId (fun _ => { d with features := _ }) =
          root.modify deviceId (setFeature featureId value) :=
        modify_congr hd (congrArg (fun features => { d with features }) hset)
      exact congrArg Except.ok hmodify

theorem write_eq_ok {root d : Device} {deviceId featureId : String} (value : Json)
    (hd : root.find? deviceId = some d) (hf : (d.feature? featureId).isSome = true) :
    root.write deviceId featureId value =
      .ok (root.modify deviceId (setFeature featureId value)) := by
  obtain ⟨f, hf⟩ := Option.isSome_iff_exists.mp hf
  rw [write_eq, hd]
  simp only [hf]

end Device

end HomeEntities
