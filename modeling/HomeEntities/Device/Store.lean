import HomeEntities.Device.Basic
import HomeEntities.Device.Error

/-!
# Writing to a tree of devices

A device tree is a store of feature values. A write goes to the first device of an id and there to
the first feature of an id, the same that a look-up finds; it changes that value and nothing else.
A place in a whole that can be changed is given by what is there and by what the whole becomes when
something else is put there.

* `firstMut`, `Device.findMut`, `Device.featureMut`: the first element that satisfies a test, the
  first device and the first feature of an id, as places that can be changed.
* `Device.write`: set a value, or say which part of the address is unknown.
* `Device.modify`, `Device.removeFeatures`, `Device.removeChildren`: changes to a device behind the
  back of the program, between one fetch and the next.
-/

namespace HomeEntities

/-- The first element that satisfies a test, and the list with another in its place. -/
def firstMut {α : Type _} (test : α → Bool) : List α → Option (α × (α → List α))
  | [] => none
  | a :: as =>
    if test a then some (a, (· :: as))
    else (firstMut test as).map fun (b, put) => (b, fun b' => a :: put b')

namespace Device

/-- The first device of an id, the root or a child of it, and the tree with another in its place. -/
def findMut (deviceId : String) (root : Device) : Option (Device × (Device → Device)) :=
  if root.id == deviceId then some (root, fun device => device)
  else (firstMut (·.id == deviceId) root.children).map fun (child, put) =>
    (child, fun child' => { root with children := put child' })

/-- The first feature of an id, and the device with another in its place. -/
def featureMut (featureId : String) (device : Device) : Option (Feature × (Feature → Device)) :=
  (firstMut (·.id == featureId) device.features).map fun (feature, put) =>
    (feature, fun feature' => { device with features := put feature' })

/-- Write a value to a feature of the root or of a child. -/
def write (deviceId featureId : String) (value : Json) (root : Device) :
    Except DeviceError Device :=
  match root.findMut deviceId with
  | none => .error (.unknownDevice deviceId)
  | some (device, putDevice) =>
    match device.featureMut featureId with
    | none => .error (.unknownFeature deviceId featureId)
    | some (feature, putFeature) => .ok (putDevice (putFeature { feature with value }))

end Device

/-! ### Changes from outside -/

/-- Change the first element that satisfies a test. -/
def updateFirst {α : Type _} (test : α → Bool) (f : α → α) : List α → List α
  | [] => []
  | a :: as => if test a then f a :: as else a :: updateFirst test f as

namespace Device

/-- The tree after the first device of an id has changed. -/
def modify (deviceId : String) (f : Device → Device) (root : Device) : Device :=
  if root.id == deviceId then f root
  else { root with children := updateFirst (·.id == deviceId) f root.children }

/-- The tree after the first device of one id has lost its features of another. The program never
does this; a device may do without a feature from one fetch to the next. -/
def removeFeatures (deviceId featureId : String) (root : Device) : Device :=
  root.modify deviceId fun device =>
    { device with features := device.features.filter (·.id != featureId) }

/-- The tree after the children of an id have left. The program never does this; a hub may have lost
a child from one fetch to the next. -/
def removeChildren (deviceId : String) (root : Device) : Device :=
  { root with children := root.children.filter (·.id != deviceId) }

end Device

end HomeEntities
