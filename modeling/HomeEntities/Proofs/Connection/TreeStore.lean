import HomeEntities.Connection.Client
import HomeEntities.Proofs.Device.Store

/-! # A tree in memory as a store

The client that keeps a device tree in memory is a store with the pairs of a device id and a feature
id as its keys. A look-up by a key (`Device.lookup`) finds what stands at the address of the key
(`lookup_eq`), with the value of the last write to it that succeeded (`lookup_put`), whatever else
in the tree has the same ids; writes to different keys can be made in either order (`put_comm`). All
this is said of one write first and follows for any number of them, made in turn
(`Client.writeEach`). -/

namespace HomeEntities

/-- A value to be written to a feature of a device. -/
structure Write where
  deviceId : String
  featureId : String
  value : Json

/-- What a write is addressed to. -/
def Write.key (w : Write) : String × String := (w.deviceId, w.featureId)

/-- Make writes in turn, whether or not those before succeeded, and note the answers. -/
def Client.writeEach {σ : Type} (client : Client σ) : List Write → σ →
    List (Write × Except DeviceError Unit) × σ
  | [], s => ([], s)
  | w :: writes, s =>
    let (answer, s) := client.write s w.deviceId w.featureId w.value
    let (calls, s) := writeEach client writes s
    ((w, answer) :: calls, s)

namespace Device

/-- The feature that is found under a key. -/
def lookup (root : Device) (key : String × String) : Option Feature :=
  (root.find? key.1).bind (·.feature? key.2)

/-- The tree with a value put under a key. -/
def put (w : Write) (root : Device) : Device :=
  root.modify w.deviceId (setFeature w.featureId w.value)

variable (root : Device) (w : Write)

/-! ### One write -/

/-- A look-up finds what stands at the address of its key. -/
theorem lookup_eq (key : String × String) : root.lookup key =
    (root.address? key.1 key.2).bind fun p => (root.featuresAt p.1)[p.2]? := by
  have hfeature : ∀ d : Device, d.feature? key.2 =
      (d.features.findIdx? (·.id == key.2)).bind (d.features[·]?) := fun d =>
    List.find?_eq_bind_findIdx?_getElem?
  unfold lookup address? find? place?
  split
  · simp only [hfeature, Option.bind_some, Option.bind_map]
    rfl
  · rw [List.find?_eq_bind_findIdx?_getElem?]
    cases h : root.children.findIdx? (·.id == key.1) with
    | none => rfl
    | some i =>
      obtain ⟨hi, -, -⟩ := List.findIdx?_eq_some_iff_getElem.mp h
      have hat : root.featuresAt (i + 1) = root.children[i].features := by simp [featuresAt, hi]
      simp only [Option.bind_some, Option.map_some, List.getElem?_eq_getElem hi, hfeature, hat,
        Option.bind_map, Function.comp_def]

theorem find?_put_of_ne {id : String} (h : id ≠ w.deviceId) :
    ((root.put w).find? id).map (·.features) = (root.find? id).map (·.features) := by
  have hdisjoint : ∀ c : Device, (c.id == w.deviceId) = true → (c.id == id) = false :=
    fun _ => beq_eq_false_of_beq h
  unfold put modify find?
  split
  · rename_i hroot
    have hid : (root.id == id) = false := hdisjoint root hroot
    have hid' : ((root.setFeature w.featureId w.value).id == id) = false := hid
    rw [hid, hid']
    rfl
  · have hchildren := @find?_updateFirst_of_disjoint Device (·.id == w.deviceId) (·.id == id)
      (setFeature w.featureId w.value) (fun _ => rfl) hdisjoint root.children
    simp only [hchildren]
    split <;> rfl

/-- **A look-up after a write.** -/
theorem lookup_put (key : String × String) : (root.put w).lookup key =
    if key = w.key then (root.lookup key).map fun f => { f with value := w.value }
    else root.lookup key := by
  obtain ⟨deviceId, featureId⟩ := key
  by_cases hd : deviceId = w.deviceId
  · -- the device that was written to is the one that is found
    subst hd
    have hfind := root.find?_modify w.deviceId fun d => d.setFeature_id w.featureId w.value
    unfold lookup put
    rw [hfind]
    cases root.find? w.deviceId with
    | none => simp
    | some d =>
      by_cases hf : featureId = w.featureId
      · subst hf
        simp [Write.key, feature?_setFeature]
      · simp [Write.key, hf, feature?_setFeature_of_ne]
  · have hkey : (deviceId, featureId) ≠ w.key := fun h => hd (congrArg Prod.fst h)
    rw [if_neg hkey]
    have hfeatures := congrArg
      (Option.bind · fun fs : List Feature => fs.find? (·.id == featureId))
      (root.find?_put_of_ne w hd)
    simp only [Option.bind_map] at hfeatures
    exact hfeatures

theorem isSome_lookup_put (key : String × String) :
    ((root.put w).lookup key).isSome = (root.lookup key).isSome := by
  rw [lookup_put]
  split
  · exact Option.isSome_map
  · rfl

theorem setFeature_eq_self {d : Device} {featureId : String} (h : d.feature? featureId = none)
    (value : Json) : d.setFeature featureId value = d := by
  have hnone : ∀ f, d.features.find? (·.id == featureId) = some f →
      ({ f with value } : Feature) = f :=
    fun f hf => absurd (hf.symm.trans h) (Option.some_ne_none f)
  unfold setFeature
  rw [updateFirst_eq_self hnone]
  cases d
  rfl

theorem put_eq_self (h : root.lookup w.key = none) : root.put w = root := by
  unfold lookup find? at h
  unfold put modify
  split
  · rename_i hroot
    exact setFeature_eq_self (by simpa [hroot, Write.key] using h) w.value
  · rename_i hroot
    have hchildren : ∀ c, root.children.find? (·.id == w.deviceId) = some c →
        c.setFeature w.featureId w.value = c :=
      fun c hc => setFeature_eq_self (by simpa [hroot, Write.key, hc] using h) w.value
    rw [updateFirst_eq_self hchildren]
    cases root
    rfl

theorem setFeature_comm {f f' : String} (h : f ≠ f') (v v' : Json) (d : Device) :
    (d.setFeature f v).setFeature f' v' = (d.setFeature f' v').setFeature f v := by
  have hdisjoint : ∀ g : Feature, (g.id == f') = true → (g.id == f) = false :=
    fun _ => beq_eq_false_of_beq h
  have hid : ∀ (id : String) (v : Json) (g : Feature),
      (({ g with value := v } : Feature).id == id) = (g.id == id) := fun _ _ _ => rfl
  have hfeatures : updateFirst (·.id == f') (fun g : Feature => { g with value := v' })
      (updateFirst (·.id == f) (fun g => { g with value := v }) d.features) =
      updateFirst (·.id == f) (fun g => { g with value := v })
        (updateFirst (·.id == f') (fun g => { g with value := v' }) d.features) :=
    updateFirst_comm (hid f v') (hid f' v) hdisjoint d.features
  exact congrArg (fun features => { d with features }) hfeatures

theorem modify_comm {id id' : String} (h : id ≠ id') (f f' : String) (v v' : Json)
    (root : Device) : (root.modify id (setFeature f v)).modify id' (setFeature f' v') =
      (root.modify id' (setFeature f' v')).modify id (setFeature f v) := by
  have hdisjoint : ∀ c : Device, (c.id == id') = true → (c.id == id) = false :=
    fun _ => beq_eq_false_of_beq h
  have hid : ∀ (id f : String) (v : Json) (d : Device),
      ((d.setFeature f v).id == id) = (d.id == id) := fun _ _ _ _ => rfl
  have hchildren : updateFirst (·.id == id') (setFeature f' v')
      (updateFirst (·.id == id) (setFeature f v) root.children) =
      updateFirst (·.id == id) (setFeature f v)
        (updateFirst (·.id == id') (setFeature f' v') root.children) :=
    updateFirst_comm (hid id f' v') (hid id' f v) hdisjoint root.children
  unfold modify
  cases hr : root.id == id with
  | true =>
    have hr' : (root.id == id') = false := beq_false_of_ne (beq_iff_eq.mp hr ▸ h)
    simp only [hid, hr, hr', if_true, Bool.false_eq_true, if_false]
    rfl
  | false =>
    cases hr' : root.id == id' with
    | true =>
      simp only [hid, hr, hr', if_true, Bool.false_eq_true, if_false]
      rfl
    | false => simp only [hr, hr', Bool.false_eq_true, if_false, hchildren]

/-- **Writes to different keys** can be made in either order. -/
theorem put_comm {w w' : Write} (h : w.key ≠ w'.key) (root : Device) :
    (root.put w).put w' = (root.put w').put w := by
  by_cases hd : w.deviceId = w'.deviceId
  · have hf : w.featureId ≠ w'.featureId := fun hf => h (Prod.ext hd hf)
    unfold put
    rw [hd, modify_modify _ _ fun d => d.setFeature_id _ _,
      modify_modify _ _ fun d => d.setFeature_id _ _]
    exact congrArg (root.modify w'.deviceId) (funext (setFeature_comm hf w.value w'.value))
  · exact modify_comm hd _ _ _ _ root

theorem skeleton_put : (root.put w).skeleton = root.skeleton :=
  root.skeleton_modify w.deviceId w.featureId w.value

theorem valueAt?_put_of_ne {p : Nat × Nat} (h : root.address? w.deviceId w.featureId ≠ some p) :
    (root.put w).valueAt? p = root.valueAt? p := by
  unfold put
  rw [valueAt?_modify, if_neg h]

theorem address?_put (deviceId featureId : String) :
    (root.put w).address? deviceId featureId = root.address? deviceId featureId := by
  rw [← address?_skeleton, skeleton_put, address?_skeleton]

end Device

namespace Client

/-- **One call**: it succeeds if its key is found, and does nothing if it is not. -/
theorem write_tree (root : Device) (w : Write) : ∃ answer : Except DeviceError Unit,
    tree.write root w.deviceId w.featureId w.value = (answer, root.put w) ∧
      answer.isOk = (root.lookup w.key).isSome := by
  have hself := root.put_eq_self w
  unfold Device.lookup Write.key at hself ⊢
  simp only [tree, Device.write_eq]
  cases hd : root.find? w.deviceId with
  | none => exact ⟨_, by rw [hself (by rw [hd]; rfl)], rfl⟩
  | some d =>
    simp only [hd, Option.bind_some] at hself ⊢
    cases hf : d.feature? w.featureId with
    | none => exact ⟨_, by rw [hself hf], rfl⟩
    | some f => exact ⟨.ok (), rfl, rfl⟩

/-! ### Calls in turn -/

theorem writeEach_map_fst {σ : Type} (client : Client σ) (writes : List Write) (s : σ) :
    (client.writeEach writes s).1.map Prod.fst = writes := by
  induction writes generalizing s with
  | nil => rfl
  | cons w writes ih => exact congrArg (w :: ·) (ih _)

theorem writeEach_tree_cons (root : Device) (w : Write) (writes : List Write) :
    ∃ answer : Except DeviceError Unit, answer.isOk = (root.lookup w.key).isSome ∧
      tree.writeEach (w :: writes) root =
        ((w, answer) :: (tree.writeEach writes (root.put w)).1,
          (tree.writeEach writes (root.put w)).2) := by
  obtain ⟨answer, hw, hok⟩ := write_tree root w
  refine ⟨answer, hok, ?_⟩
  rw [writeEach, hw]

theorem writeEach_tree_snd (writes : List Write) (root : Device) :
    (tree.writeEach writes root).2 = writes.foldl (fun root w => root.put w) root := by
  induction writes generalizing root with
  | nil => rfl
  | cons w writes ih =>
    obtain ⟨answer, -, h⟩ := writeEach_tree_cons root w writes
    rw [h, List.foldl_cons, ← ih]

/-- **Which calls succeed** is settled by the first tree. -/
theorem isOk_of_mem_writeEach {writes : List Write} {root : Device}
    {call : Write × Except DeviceError Unit} (h : call ∈ (tree.writeEach writes root).1) :
    call.2.isOk = (root.lookup call.1.key).isSome := by
  induction writes generalizing root with
  | nil => cases h
  | cons w writes ih =>
    obtain ⟨answer, hok, hcons⟩ := writeEach_tree_cons root w writes
    rw [hcons] at h
    rcases List.mem_cons.mp h with rfl | h
    · exact hok
    · rw [ih h, Device.isSome_lookup_put]

/-- The value of the last call to a key that succeeded. -/
def lastWritten (key : String × String) (calls : List (Write × Except DeviceError Unit)) :
    Option Json :=
  (calls.reverse.find? fun call => call.1.key == key && call.2.isOk).map (·.1.value)

theorem lastWritten_cons (key : String × String) (w : Write) (answer : Except DeviceError Unit)
    (calls : List (Write × Except DeviceError Unit)) :
    lastWritten key ((w, answer) :: calls) =
      (lastWritten key calls <|> if w.key = key ∧ answer.isOk then some w.value else none) := by
  unfold lastWritten
  rw [List.reverse_cons, List.find?_append]
  cases calls.reverse.find? fun call => call.1.key == key && call.2.isOk with
  | some call => rfl
  | none =>
    by_cases h : w.key = key ∧ answer.isOk
    · simp [h]
    · simp [h]

/-- **A look-up after calls in turn.** -/
theorem lookup_writeEach (key : String × String) (writes : List Write) (root : Device) :
    (tree.writeEach writes root).2.lookup key = (root.lookup key).map fun f =>
      { f with value := (lastWritten key (tree.writeEach writes root).1).getD f.value } := by
  induction writes generalizing root with
  | nil => cases h : root.lookup key <;> simp [writeEach, lastWritten, h]
  | cons w writes ih =>
    obtain ⟨answer, hok, hcons⟩ := writeEach_tree_cons root w writes
    rw [hcons, ih, lastWritten_cons, Device.lookup_put]
    cases hf : root.lookup key with
    | none => simp
    | some f =>
      by_cases hk : w.key = key
      · have hanswer : answer.isOk = true := by rw [hok, hk, hf]; rfl
        cases lastWritten key (tree.writeEach writes (root.put w)).1 <;>
          simp [hk, hanswer]
      · have hk' : key ≠ w.key := Ne.symm hk
        cases lastWritten key (tree.writeEach writes (root.put w)).1 <;> simp [hk, hk']

theorem skeleton_writeEach (writes : List Write) (root : Device) :
    (tree.writeEach writes root).2.skeleton = root.skeleton := by
  induction writes generalizing root with
  | nil => rfl
  | cons w writes ih =>
    obtain ⟨answer, -, hcons⟩ := writeEach_tree_cons root w writes
    rw [hcons, ih, Device.skeleton_put]

theorem valueAt?_writeEach {p : Nat × Nat} {writes : List Write} {root : Device}
    (h : ∀ w ∈ writes, root.address? w.deviceId w.featureId ≠ some p) :
    (tree.writeEach writes root).2.valueAt? p = root.valueAt? p := by
  induction writes generalizing root with
  | nil => rfl
  | cons w writes ih =>
    obtain ⟨answer, -, hcons⟩ := writeEach_tree_cons root w writes
    have hrest : ∀ w' ∈ writes, (root.put w).address? w'.deviceId w'.featureId ≠ some p := by
      intro w' hw'
      rw [Device.address?_put]
      exact h w' (List.mem_cons_of_mem w hw')
    rw [hcons, ih hrest, Device.valueAt?_put_of_ne root w (h w List.mem_cons_self)]

/-- **Adjacent calls** to different keys can be swapped. -/
theorem writeEach_swap {w w' : Write} (h : w.key ≠ w'.key) (before after : List Write)
    (root : Device) : (tree.writeEach (before ++ w' :: w :: after) root).2 =
      (tree.writeEach (before ++ w :: w' :: after) root).2 := by
  simp only [writeEach_tree_snd, List.foldl_append, List.foldl_cons, Device.put_comm h]

/-- **A tree in memory is a store.** Of calls made in turn on any tree, those succeed whose device
and feature are found in the first tree; a call that fails leaves the tree it was made on. What is
fetched afterwards is the first tree with other values, none of them changed unless a call was
addressed to it; under each key the value of the last call to it that succeeded is found, else the
one that was there. Adjacent calls to different keys can be swapped. -/
theorem tree_isStore (root : Device) (writes : List Write) :
    ∃ calls root', tree.writeEach writes root = (calls, root') ∧
      calls.map Prod.fst = writes ∧
      (∀ call ∈ calls, call.2.isOk = true ↔ ∃ d f, root.find? call.1.deviceId = some d ∧
        d.feature? call.1.featureId = some f) ∧
      (∀ (w : Write) e s, tree.write root' w.deviceId w.featureId w.value = (.error e, s) →
        s = root') ∧
      tree.fetch root' = (.ok root', root') ∧
      root'.skeleton = root.skeleton ∧
      (∀ p, root'.valueAt? p = root.valueAt? p ∨
        ∃ w ∈ writes, root.address? w.deviceId w.featureId = some p) ∧
      (∀ key, root'.lookup key = (root.lookup key).map fun f =>
        { f with value := (lastWritten key calls).getD f.value }) ∧
      ∀ before w w' after, writes = before ++ w :: w' :: after → w.key ≠ w'.key →
        (tree.writeEach (before ++ w' :: w :: after) root).2 = root' := by
  refine ⟨_, _, rfl, writeEach_map_fst tree writes root, fun call hcall => ?_, fun w e s hw => ?_,
    rfl, skeleton_writeEach writes root, fun p => ?_, fun key => lookup_writeEach key writes root,
    fun before w w' after hsplit hkeys => ?_⟩
  · rw [isOk_of_mem_writeEach hcall, Device.lookup, Option.isSome_iff_exists]
    constructor
    · rintro ⟨f, hf⟩
      obtain ⟨d, hd, hf⟩ := Option.bind_eq_some_iff.mp hf
      exact ⟨d, f, hd, hf⟩
    · rintro ⟨d, f, hd, hf⟩
      exact ⟨f, Option.bind_eq_some_iff.mpr ⟨d, hd, hf⟩⟩
  · obtain ⟨answer, hput, hok⟩ := write_tree (tree.writeEach writes root).2 w
    obtain ⟨ha, hs⟩ := Prod.mk.inj (hput.symm.trans hw)
    rw [ha] at hok
    have hnone := Option.isNone_iff_eq_none.mp (Option.isSome_eq_false_iff.mp hok.symm)
    rw [← hs, Device.put_eq_self _ w hnone]
  · by_cases h : ∃ w ∈ writes, root.address? w.deviceId w.featureId = some p
    · exact Or.inr h
    · exact Or.inl (valueAt?_writeEach fun w hw hp => h ⟨w, hw, hp⟩)
  · rw [hsplit]
    exact writeEach_swap hkeys before after root

/-! ### Twins in one tree -/

/-- A strip with two sockets of one id, of which one has two features of one id. -/
def twinStrip : Device where
  id := "8016"
  name := "Bench"
  model := "HS300"
  mac := "50:C7:BF:00:00:16"
  type := .strip
  features := [
    { id := "led", name := "LED", type := .switch, category := .config, value := .bool false }]
  children := [
    { id := "8016_01", name := "Left", model := "HS300", mac := "50:C7:BF:00:00:16"
      type := .stripSocket
      features := [
        { id := "state", name := "State", type := .switch, category := .primary
          value := .bool false },
        { id := "state", name := "State", type := .sensor, category := .info
          value := .bool false }] },
    { id := "8016_01", name := "Right", model := "HS300", mac := "50:C7:BF:00:00:16"
      type := .stripSocket
      features := [
        { id := "state", name := "State", type := .switch, category := .primary
          value := .bool false }] }]

theorem tree_isStore_twinStrip :
    let led : Write := ⟨"8016", "led", .bool true⟩
    let state : Write := ⟨"8016_01", "state", .bool true⟩
    let missing : Write := ⟨"8016_01", "led", .bool true⟩
    led.key ≠ state.key ∧ ∃ calls root',
      tree.writeEach [led, state, missing] twinStrip = (calls, root') ∧
      calls.map (·.2.isOk) = [true, true, false] ∧
      (root'.lookup state.key).map (·.value) = some (.bool true) ∧
      root'.valueAt? (1, 1) = some (.bool false) ∧
      (tree.writeEach [state, led, missing] twinStrip).2 = root' := by
  intro led state missing
  have hkeys : led.key ≠ state.key := by decide
  obtain ⟨calls, root', heq, -, -, -, -, -, -, hlookup, hswap⟩ :=
    tree_isStore twinStrip [led, state, missing]
  have hcalls : (tree.writeEach [led, state, missing] twinStrip).1 = calls := congrArg Prod.fst heq
  have hroot : (tree.writeEach [led, state, missing] twinStrip).2 = root' := congrArg Prod.snd heq
  refine ⟨hkeys, calls, root', heq, ?_, ?_, ?_, hswap [] led state [missing] rfl hkeys⟩
  · rw [← hcalls]; rfl
  · rw [hlookup, ← hcalls]; rfl
  · rw [← hroot]; rfl

end Client

end HomeEntities
