import HomeEntities.Decimal.Binary64

/-!
# JSON values

A value as it is read: numbers keep apart whole numbers and doubles, and the members of an object
keep their order and their repetitions. A value is *normal* if every object in it has its members
in ascending order of their names, none repeated.

* `Json.normal?`: the normal form, in which the last of several members of one name counts.
* `Json.Normal`: normal values.
-/

namespace HomeEntities

open Decimal

/-- A JSON value. `unreadable` stands for a literal of correct form that has no value: a number
too large for a double, or a text with half a surrogate pair. -/
inductive Json where
  | null
  | bool (value : Bool)
  | int (value : Int)
  | float (value : Binary64)
  | str (text : String)
  | arr (items : List Json)
  | obj (members : List (String × Json))
  | unreadable

namespace Json

instance : Inhabited Json := ⟨null⟩

/-- The members of an object. -/
abbrev Members := List (String × Json)

/-- The first member of a name. -/
def Members.find? (members : Members) (name : String) : Option Json := members.lookup name

/-- Put a member into members in ascending order, in place of one of the same name. -/
def Members.insert (name : String) (value : Json) : Members → Members
  | [] => [(name, value)]
  | (n, v) :: rest =>
    if name < n then (name, value) :: (n, v) :: rest
    else if name = n then (name, value) :: rest
    else (n, v) :: Members.insert name value rest

mutual

/-- The value with the members of each object in ascending order; of repeated members the last
counts. Nothing unreadable may occur. -/
def normal? : Json → Option Json
  | null => some null
  | bool b => some (bool b)
  | int i => some (int i)
  | float x => some (float x)
  | str s => some (str s)
  | arr items => (normalItems? items).map arr
  | obj members => (normalMembers? [] members).map obj
  | unreadable => none

def normalItems? : List Json → Option (List Json)
  | [] => some []
  | item :: rest =>
    match normal? item, normalItems? rest with
    | some item, some rest => some (item :: rest)
    | _, _ => none

def normalMembers? (sorted : List (String × Json)) :
    List (String × Json) → Option (List (String × Json))
  | [] => some sorted
  | (name, value) :: rest =>
    match normal? value with
    | some value => normalMembers? (Members.insert name value sorted) rest
    | none => none

end

mutual

/-- Whether the members of every object ascend strictly and nothing is unreadable. -/
def Normal : Json → Prop
  | arr items => NormalItems items
  | obj members => NormalMembers none members
  | unreadable => False
  | _ => True

def NormalItems : List Json → Prop
  | [] => True
  | item :: rest => Normal item ∧ NormalItems rest

def NormalMembers (above : Option String) : List (String × Json) → Prop
  | [] => True
  | (name, value) :: rest =>
    (∀ a, above = some a → a < name) ∧ Normal value ∧ NormalMembers (some name) rest

end

/-- The truth value of a value, if it is one. -/
def asBool? : Json → Option Bool
  | bool b => some b
  | _ => none

/-- The text of a value, if it is one. -/
def asText? : Json → Option String
  | str s => some s
  | _ => none

/-- The double nearest to a value, if it is a number. -/
def asNumber? : Json → Option Binary64
  | int i => some (Binary64.ofInt i)
  | float x => some x
  | _ => none

/-- The items of an array. -/
def asItems? : Json → Option (List Json)
  | arr items => some items
  | _ => none

/-- A text or `null`. -/
def ofText? : Option String → Json
  | some s => str s
  | none => null

/-- A truth value or `null`. -/
def ofBool? : Option Bool → Json
  | some b => bool b
  | none => null

/-- A double or `null`; only finite doubles are written. -/
def ofNumber? : Option Binary64 → Json
  | some x => if x.isFinite then float x else null
  | none => null

/-- A list of texts. -/
def ofTexts (texts : List String) : Json := arr (texts.map str)

/-- A list of texts or `null`. -/
def ofTexts? : Option (List String) → Json
  | some texts => ofTexts texts
  | none => null

end Json

end HomeEntities
