import HomeEntities.Device.Encode
import HomeEntities.Proofs.Device.Record

/-! # Presentations of a device

A device is a record whose versions, features and children are records in turn. Each of them, at any
depth, may be written in a way of its own (`Device.PresentedBy`); the object with all members is one
of these ways (`Device.presentedBy_toJson`). Whatever way is chosen, the device is read back
(`Device.read_back_of_presentation`), provided that it is one that can be written at all: the values
of its features are normal and their bounds finite (`Device.Regular`). -/

namespace HomeEntities

open Decimal

/-! ### Versions -/

namespace Versions

def fields (v : Versions) : List Record.Field := [
  .unless (v.software = "") "sw_ver" (.str v.software),
  .unless (v.hardware = "") "hw_ver" (.str v.hardware)]

/-- The ways to write versions. -/
def PresentedBy (v : Versions) (value : Json) : Prop := Record.PresentedBy v.fields value

theorem presentedBy_toJson (v : Versions) : v.PresentedBy v.toJson :=
  Record.Written.presentedBy (.write rfl (.write rfl .nil))

theorem ofJson?_of_presentedBy {v : Versions} {value : Json} (h : v.PresentedBy value) :
    ofJson? value = some v := by
  have hk : v.fields.map (·.name) = memberNames := rfl
  obtain ⟨members, hm, hf⟩ := Record.PresentedBy.members? h hk (by decide)
  simp only [fields, List.forall_mem_cons] at hf
  obtain ⟨hsoftware, hhardware, -⟩ := hf
  have hs := Record.unless_of_foundIn hsoftware Eq.symm (rfl : Json.asText? _ = _)
  have hh := Record.unless_of_foundIn hhardware Eq.symm (rfl : Json.asText? _ = _)
  simp only [ofJson?, hm, hs, hh, Option.bind_eq_bind, Option.bind_some, Option.pure_def]

end Versions

/-! ### Features -/

theorem FeatureType.ofName_name (type : FeatureType) : ofName type.name = type := by
  cases type <;> decide

theorem FeatureCategory.ofName_name (category : FeatureCategory) :
    ofName category.name = category := by
  cases category <;> decide

namespace Feature

/-- A feature that a tree can hold: its value is normal, and its bounds are finite. -/
structure Regular (f : Feature) : Prop where
  value : f.value.Normal
  minimum : ∀ x ∈ f.minimum, x.isFinite = true
  maximum : ∀ x ∈ f.maximum, x.isFinite = true

def fields (f : Feature) : List Record.Field := [
  .always "id" (.str f.id),
  .always "name" (.str f.name),
  .always "type" (.str f.type.name),
  .always "category" (.str f.category.name),
  .unless (f.value = .null) "value" f.value,
  .unless (f.choices = none) "choices" (Json.ofTexts? f.choices),
  .unless (f.minimum = none) "minimum_value" (Json.ofNumber? f.minimum),
  .unless (f.maximum = none) "maximum_value" (Json.ofNumber? f.maximum),
  .unless (f.unit = none) "unit" (Json.ofText? f.unit)]

/-- The ways to write a feature. -/
def PresentedBy (f : Feature) (value : Json) : Prop := Record.PresentedBy f.fields value

theorem presentedBy_toJson (f : Feature) : f.PresentedBy f.toJson :=
  Record.Written.presentedBy (.write rfl (.write rfl (.write rfl (.write rfl (.write rfl
    (.write rfl (.write rfl (.write rfl (.write rfl .nil)))))))))

theorem forall₂_presentedBy_toJson (features : List Feature) :
    List.Forall₂ PresentedBy features (features.map toJson) := by
  induction features with
  | nil => exact .nil
  | cons f features ih => exact .cons f.presentedBy_toJson ih

theorem ofJson?_of_presentedBy {f : Feature} (hr : f.Regular) {value : Json}
    (h : f.PresentedBy value) : ofJson? value = some f := by
  have hk : f.fields.map (·.name) = memberNames := rfl
  obtain ⟨members, hm, hf⟩ := Record.PresentedBy.members? h hk (by decide)
  simp only [fields, List.forall_mem_cons] at hf
  obtain ⟨hid, hname, htype, hcategory, hvalue, hchoices, hminimum, hmaximum, hunit, -⟩ := hf
  have h₁ := Record.required_of_foundIn hid (rfl : Json.asText? _ = _)
  have h₂ := Record.required_of_foundIn hname (rfl : Json.asText? _ = _)
  have h₃ := Record.required_of_foundIn htype (rfl : Record.name? _ = _)
  have h₄ := Record.required_of_foundIn hcategory (rfl : Record.name? _ = _)
  have h₅ := Record.unless_of_foundIn hvalue Eq.symm (Json.normal?_of_normal hr.value)
  have h₆ := Record.unless_of_foundIn hchoices Eq.symm (Record.nullable_ofTexts? _)
  have h₇ := Record.unless_of_foundIn hminimum Eq.symm (Record.nullable_ofNumber? hr.minimum)
  have h₈ := Record.unless_of_foundIn hmaximum Eq.symm (Record.nullable_ofNumber? hr.maximum)
  have h₉ := Record.unless_of_foundIn hunit Eq.symm (Record.nullable_ofText? _)
  simp only [ofJson?, hm, ofMembers?, h₁, h₂, h₃, h₄, h₅, h₆, h₇, h₈, h₉,
    FeatureType.ofName_name, FeatureCategory.ofName_name, Option.bind_eq_bind, Option.bind_some,
    Option.pure_def]

theorem mapM_ofJson?_of_presentedBy {features : List Feature} (hr : ∀ f ∈ features, f.Regular)
    {items : List Json} (h : List.Forall₂ PresentedBy features items) :
    items.mapM ofJson? = some features := by
  induction h with
  | nil => rfl
  | @cons f item features items hf h ih =>
    rw [List.mapM_cons, ofJson?_of_presentedBy (hr f List.mem_cons_self) hf,
      ih fun f' hf' => hr f' (List.mem_cons_of_mem f hf')]
    rfl

end Feature

/-! ### Devices -/

theorem DeviceType.ofName_name (type : DeviceType) : ofName type.name = type := by
  cases type <;> decide

theorem Family.ofName?_name (family : Family) : ofName? family.name = some family := by
  cases family <;> decide

namespace Device

mutual

/-- All features of the tree, at any depth, are such as a tree can hold. -/
def Regular : Device → Prop
  | ⟨_, _, _, _, _, _, _, features, children⟩ =>
    (∀ f ∈ features, f.Regular) ∧ AllRegular children

def AllRegular : List Device → Prop
  | [] => True
  | device :: rest => device.Regular ∧ AllRegular rest

end

/-- The members of a device, with what shows its children. -/
def fields (d : Device) (children : List Json → Prop) : List Record.Field := [
  .always "device_id" (.str d.id),
  .always "alias" (.str d.name),
  .always "model" (.str d.model),
  .always "mac" (.str d.mac),
  .always "device_type" (.str d.type.name),
  .unless (d.family = .smart) "family" (.str d.family.name),
  { name := "hw_info", optional := d.versions = {}, shows := d.versions.PresentedBy },
  { name := "features", optional := d.features = []
    shows := fun v => ∃ items, v = .arr items ∧
      List.Forall₂ Feature.PresentedBy d.features items },
  { name := "children", optional := d.children = []
    shows := fun v => ∃ items, v = .arr items ∧ children items }]

mutual

/-- **The ways to write a device**: each record in it, at any depth, is written in a way of its
own. -/
def PresentedBy : Device → Json → Prop
  | ⟨id, name, model, mac, type, family, versions, features, children⟩, value =>
    Record.PresentedBy (fields ⟨id, name, model, mac, type, family, versions, features, children⟩
      (AllPresentedBy children)) value

def AllPresentedBy : List Device → List Json → Prop
  | [], items => items = []
  | device :: rest, items => ∃ first others, items = first :: others ∧
      device.PresentedBy first ∧ AllPresentedBy rest others

end

/-! ### Reading devices -/

theorem childrenMember?_eq (members : Json.Members) :
    childrenMember? members = Record.defaulted members "children" [] listOfJson? := by
  induction members with
  | nil => rw [childrenMember?]; rfl
  | cons m members ih =>
    obtain ⟨name, value⟩ := m
    rw [childrenMember?]
    unfold Record.defaulted Json.Members.find?
    by_cases h : name = "children"
    · subst h
      rfl
    · have hbeq : ("children" == name) = false := beq_false_of_ne (Ne.symm h)
      rw [List.lookup_cons, hbeq, if_neg (by simpa using h), ih]
      rfl

theorem childrenItem?_eq : ∀ {names : List String} (items : List Json), "children" ∉ names →
    childrenItem? names.length items =
      Record.defaulted ((names ++ ["children"]).zip items) "children" [] listOfJson?
  | names, [], _ => by
    rw [List.zip_nil_right]
    cases names <;> rw [List.length, childrenItem?] <;> rfl
  | [], item :: items, _ => by
    rw [List.length_nil, childrenItem?]
    rfl
  | name :: names, item :: items, h => by
    rw [List.mem_cons, not_or] at h
    have hbeq : ("children" == name) = false := beq_false_of_ne h.1
    rw [List.length_cons, childrenItem?, childrenItem?_eq items h.2]
    unfold Record.defaulted Json.Members.find?
    rw [List.cons_append, List.zip_cons_cons, List.lookup_cons, hbeq]

/-- **Reading a device**: its members are found, and the children among them are read. -/
theorem ofJson?_eq (value : Json) : ofJson? value =
    (Record.members? memberNames value).bind fun members =>
      (Record.defaulted members "children" [] listOfJson?).bind (ofMembers? members) := by
  cases value with
  | obj all =>
    rw [ofJson?, childrenMember?_eq]
    cases hm : Record.members? memberNames (.obj all) with
    | none => rfl
    | some members =>
      rw [← Record.eq_of_members?_obj hm, Option.bind_some]
      cases Record.defaulted members "children" [] listOfJson? <;> rfl
  | arr items =>
    have hchildren : childrenItem? 8 items =
        Record.defaulted (memberNames.zip items) "children" [] listOfJson? :=
      @childrenItem?_eq (memberNames.take 8) items (by decide)
    rw [ofJson?, hchildren]
    cases hm : Record.members? memberNames (.arr items) with
    | none => rfl
    | some members =>
      rw [← Record.eq_of_members?_arr hm, Option.bind_some]
      cases Record.defaulted members "children" [] listOfJson? <;> rfl
  | _ => rw [ofJson?] <;> first | rfl | simp

theorem ofJson?_of_fields {d : Device} {children : List Json → Prop} {value : Json}
    (hr : ∀ f ∈ d.features, f.Regular)
    (hc : ∀ items, children items → listOfItems? items = some d.children)
    (h : Record.PresentedBy (d.fields children) value) : ofJson? value = some d := by
  have hk : (d.fields children).map (·.name) = memberNames := rfl
  obtain ⟨members, hm, hf⟩ := h.members? hk (by decide)
  simp only [fields, List.forall_mem_cons] at hf
  obtain ⟨hid, hname, hmodel, hmac, htype, hfamily, hversions, hfeatures, hchildren, -⟩ := hf
  -- each member is found by its name and read as its field says
  have h₁ := Record.required_of_foundIn hid (rfl : Json.asText? _ = _)
  have h₂ := Record.required_of_foundIn hname (rfl : Json.asText? _ = _)
  have h₃ := Record.required_of_foundIn hmodel (rfl : Json.asText? _ = _)
  have h₄ := Record.required_of_foundIn hmac (rfl : Json.asText? _ = _)
  have h₅ := Record.required_of_foundIn htype (rfl : Record.name? _ = _)
  have h₆ : Record.defaulted members "family" .smart
      (fun v => (Record.name? v).bind Family.ofName?) = some d.family :=
    Record.unless_of_foundIn hfamily Eq.symm d.family.ofName?_name
  have h₇ : Record.defaulted members "hw_info" {} Versions.ofJson? = some d.versions :=
    Record.defaulted_of_foundIn hversions Eq.symm fun v => Versions.ofJson?_of_presentedBy
  have h₈ : Record.defaulted members "features" [] features? = some d.features := by
    refine Record.defaulted_of_foundIn hfeatures Eq.symm ?_
    rintro v ⟨items, rfl, hitems⟩
    exact Feature.mapM_ofJson?_of_presentedBy hr hitems
  have h₉ : Record.defaulted members "children" [] listOfJson? = some d.children := by
    refine Record.defaulted_of_foundIn hchildren Eq.symm ?_
    rintro v ⟨items, rfl, hitems⟩
    rw [listOfJson?]
    exact hc items hitems
  simp only [ofJson?_eq, hm, h₉, ofMembers?, h₁, h₂, h₃, h₄, h₅, h₆, h₇, h₈,
    DeviceType.ofName_name, Option.bind_eq_bind, Option.bind_some, Option.pure_def]
  cases d
  rfl

mutual

/-- The induction is on the tree of devices, whatever the values are that show it. -/
theorem ofJson?_of_presentedBy : ∀ {d : Device} {value : Json}, d.Regular → d.PresentedBy value →
    ofJson? value = some d
  | ⟨id, name, model, mac, type, family, versions, features, children⟩, value, hr, h => by
    rw [Regular] at hr
    rw [PresentedBy] at h
    exact ofJson?_of_fields hr.1 (fun items => listOfItems?_of_presentedBy hr.2) h

theorem listOfItems?_of_presentedBy : ∀ {devices : List Device} {items : List Json},
    AllRegular devices → AllPresentedBy devices items → listOfItems? items = some devices
  | [], items, _, h => by
    rw [AllPresentedBy] at h
    rw [h, listOfItems?]
  | device :: rest, items, hr, h => by
    rw [AllRegular] at hr
    rw [AllPresentedBy] at h
    obtain ⟨first, others, rfl, hfirst, hothers⟩ := h
    rw [listOfItems?, ofJson?_of_presentedBy hr.1 hfirst, listOfItems?_of_presentedBy hr.2 hothers]

end

mutual

theorem presentedBy_toJson : ∀ d : Device, d.PresentedBy d.toJson
  | ⟨id, name, model, mac, type, family, versions, features, children⟩ => by
    rw [PresentedBy, toJson]
    exact Record.Written.presentedBy (.write rfl (.write rfl (.write rfl (.write rfl (.write rfl
      (.write rfl (.write versions.presentedBy_toJson
        (.write ⟨_, rfl, Feature.forall₂_presentedBy_toJson features⟩
          (.write ⟨_, rfl, allPresentedBy_listToJson children⟩ .nil)))))))))

theorem allPresentedBy_listToJson : ∀ devices : List Device,
    AllPresentedBy devices (listToJson devices)
  | [] => by rw [AllPresentedBy, listToJson]
  | device :: rest => by
    rw [AllPresentedBy, listToJson]
    exact ⟨_, _, rfl, presentedBy_toJson device, allPresentedBy_listToJson rest⟩

end

/-- **Reading undoes writing**, whatever way each record of a device, at any depth, is written in.
The object with all members is one of these ways. -/
theorem read_back_of_presentation (d : Device) (hr : d.Regular) :
    d.PresentedBy d.toJson ∧ ∀ value, d.PresentedBy value → ofJson? value = some d :=
  ⟨d.presentedBy_toJson, fun _ => ofJson?_of_presentedBy hr⟩

theorem read?_of_ofJson? {text : String} {value : Json} {device : Device}
    (hvalue : Json.read? text = some value) (hn : value.nesting .device ≤ nestingLimit)
    (hdevice : ofJson? value = some device) : read? text = some device := by
  unfold read?
  simp only [hvalue, if_pos hn, hdevice]

/-! ### A hub written in several ways -/

/-- A switch below a valve, which devices do not have but texts may. -/
def relay : Device where
  id := "8023"
  name := "Relay"
  model := "S200"
  mac := "50:C7:BF:00:00:23"
  type := .wallSwitch

/-- Thirty and a half degrees. -/
def warmest : Binary64 := .ofRatio false 61 2

/-- What the valve is to do; its value is an object. -/
def valveMode : Feature where
  id := "mode"
  name := "Mode"
  type := .choice
  category := .config
  value := .obj [("at", .int 7), ("to", .str "idle")]
  choices := some ["idle", "heating"]
  maximum := some warmest

/-- A valve of a type that is not known. -/
def valve : Device where
  id := "8022"
  name := "Valve"
  model := "KE100"
  mac := "50:C7:BF:00:00:22"
  type := .unknown
  family := .iot
  features := [valveMode]
  children := [relay]

def greenhouse : Device where
  id := "8021"
  name := "Greenhouse"
  model := "KH100"
  mac := "50:C7:BF:00:00:21"
  type := .hub
  versions := { software := "1.2" }
  children := [valve]

/-- The relay without its defaults. -/
def relayJson : Json := .obj [
  ("device_id", .str "8023"), ("alias", .str "Relay"), ("model", .str "S200"),
  ("mac", .str "50:C7:BF:00:00:23"), ("device_type", .str "wall_switch")]

/-- The feature by the order of its members. -/
def valveModeJson : Json := .arr [
  .str "mode", .str "Mode", .str "choice", .str "config",
  .obj [("at", .int 7), ("to", .str "idle")], .arr [.str "idle", .str "heating"], .null,
  .float warmest, .null]

/-- The valve by the order of its members. -/
def valveJson : Json := .arr [
  .str "8022", .str "Valve", .str "KE100", .str "50:C7:BF:00:00:22", .str "unknown", .str "iot",
  .arr [.str "", .str ""], .arr [valveModeJson], .arr [relayJson]]

/-- The members of the hub, save its family and its features. -/
def greenhouseMembers : Json.Members := [
  ("device_id", .str "8021"), ("alias", .str "Greenhouse"), ("model", .str "KH100"),
  ("mac", .str "50:C7:BF:00:00:21"), ("device_type", .str "hub"),
  ("hw_info", .obj [("hw_id", .unreadable), ("sw_ver", .str "1.2")]),
  ("children", .arr [valveJson])]

/-- The hub with its members from last to first, and others before and behind them. -/
def greenhouseJson : Json :=
  .obj (("vendor", .int 1) :: greenhouseMembers.reverse ++ [("vendor", .obj [])])

theorem warmest_isFinite : warmest.isFinite = true := by decide +kernel

theorem relay_presentedBy : relay.PresentedBy relayJson :=
  Record.Written.presentedBy (.write rfl (.write rfl (.write rfl (.write rfl (.write rfl
    (.skip rfl (.skip rfl (.skip rfl (.skip rfl .nil)))))))))

theorem valveMode_presentedBy : valveMode.PresentedBy valveModeJson := by
  have hmaximum : .float warmest = Json.ofNumber? valveMode.maximum := by
    rw [show valveMode.maximum = some warmest from rfl, Json.ofNumber?, if_pos warmest_isFinite]
  exact .array (.cons rfl (.cons rfl (.cons rfl (.cons rfl (.cons rfl (.cons rfl (.cons rfl
    (.cons hmaximum (.cons rfl .nil)))))))))

theorem valve_presentedBy : valve.PresentedBy valveJson := by
  have hversions : valve.versions.PresentedBy (.arr [.str "", .str ""]) :=
    .array (.cons rfl (.cons rfl .nil))
  exact .array (.cons rfl (.cons rfl (.cons rfl (.cons rfl (.cons rfl (.cons rfl
    (.cons hversions (.cons ⟨_, rfl, .cons valveMode_presentedBy .nil⟩
      (.cons ⟨_, rfl, _, _, rfl, relay_presentedBy, rfl⟩ .nil)))))))))

theorem greenhouse_presentedBy : greenhouse.PresentedBy greenhouseJson := by
  have hversions : greenhouse.versions.PresentedBy
      (.obj [("hw_id", .unreadable), ("sw_ver", .str "1.2")]) :=
    .object (.write rfl (.skip rfl .nil)) (List.Perm.refl _)
  have hwritten : Record.Written (greenhouse.fields (AllPresentedBy greenhouse.children))
      greenhouseMembers :=
    .write rfl (.write rfl (.write rfl (.write rfl (.write rfl (.skip rfl (.write hversions
      (.skip rfl (.write ⟨_, rfl, _, _, rfl, valve_presentedBy, rfl⟩ .nil))))))))
  exact .object hwritten (List.reverse_perm greenhouseMembers)

theorem valveMode_regular : valveMode.Regular where
  value := ⟨by decide, trivial, by decide, trivial, trivial⟩
  minimum := by simp [valveMode]
  maximum := by
    intro x hx
    exact Option.some.inj hx ▸ warmest_isFinite

theorem greenhouse_regular : greenhouse.Regular := by
  have hvalve : ∀ f ∈ valve.features, f.Regular := by
    intro f hf
    rw [List.mem_singleton.mp hf]
    exact valveMode_regular
  exact ⟨by simp, ⟨hvalve, ⟨by simp, trivial⟩, trivial⟩, trivial⟩

theorem read_back_of_greenhouse :
    greenhouse.Regular ∧ greenhouse.PresentedBy greenhouse.toJson ∧
      greenhouse.PresentedBy greenhouseJson ∧ ofJson? greenhouseJson = some greenhouse := by
  obtain ⟨hall, hread⟩ := greenhouse.read_back_of_presentation greenhouse_regular
  exact ⟨greenhouse_regular, hall, greenhouse_presentedBy, hread _ greenhouse_presentedBy⟩

end Device

end HomeEntities
