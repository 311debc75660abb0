import HomeEntities.Decimal.Binary64

/-!
# TOML documents

A document is a table of keys. It grows line by line: a header declares a table and makes it the
current one, a line with a key puts a value into the current table, and a key of several parts
makes the tables on its way.

A table remembers how it came about, since each way of writing a table bars others: what a header
declared is not declared again, what a dotted key made is not declared at all, and an inline table
is closed.

* `Members.put`: the effect of a key with a value.
* `Node.hasValue`: whether all that looks like a number in a value is one.
* `Node.declare`, `Node.append`: the effect of headers in single and in double brackets.
-/

namespace HomeEntities.Toml

open Decimal

/-- How a table came about. -/
inductive Origin where
  | implied
  | dotted
  | declared
deriving Repr, DecidableEq

/-- A value in a document. `tables` are the tables declared one after another under one header in
double brackets, the last apart. `valueless` stands for a token with the outward form of a number
that has no value: a number too large, or digits that its base does not have. -/
inductive Node where
  | string (text : String)
  | integer (value : Int)
  | float (value : Binary64)
  | valueless
  | boolean (value : Bool)
  | datetime (text : String)
  | array (items : List Node)
  | inline (members : List (String × Node))
  | table (origin : Origin) (members : List (String × Node))
  | tables (earlier : List (List (String × Node))) (last : List (String × Node))

/-- Keys with their values. -/
abbrev Members := List (String × Node)

namespace Members

/-- Change what stands under a key, or put something there. -/
def alter (key : String) (f : Option Node → Option Node) : Members → Option Members
  | [] => (f none).map fun node => [(key, node)]
  | (k, node) :: rest =>
    if k == key then (f (some node)).map fun node => (k, node) :: rest
    else (alter key f rest).map ((k, node) :: ·)

/-- Put a value under a key of one or more parts. -/
def put : List String → Node → Members → Option Members
  | [], _, _ => none
  | [key], value, members =>
    members.alter key fun
      | none => some value
      | some _ => none
  | key :: part :: path, value, members =>
    members.alter key fun
      | none => (put (part :: path) value []).map (.table .dotted)
      | some (.table .dotted inner) => (put (part :: path) value inner).map (.table .dotted)
      | some (.table .implied inner) =>
        if path.isEmpty then none else (put (part :: path) value inner).map (.table .implied)
      | some (.tables earlier last) =>
        if path.isEmpty then none else (put (part :: path) value last).map (.tables earlier)
      | some _ => none

end Members

namespace Node

/-- Change the members of the table that stands at a place, or imply a table there. -/
def within (f : Members → Option Members) : Option Node → Option Node
  | none => (f []).map (.table .implied)
  | some (.table origin members) => (f members).map (.table origin)
  | some (.tables earlier last) => (f last).map (.tables earlier)
  | some _ => none

mutual

/-- Whether all that looks like a number in a value is one. -/
def hasValue : Node → Bool
  | valueless => false
  | array items => itemsHaveValue items
  | inline members | table _ members => membersHaveValue members
  | tables earlier last => tablesHaveValue earlier && membersHaveValue last
  | _ => true

def itemsHaveValue : List Node → Bool
  | [] => true
  | item :: rest => hasValue item && itemsHaveValue rest

def membersHaveValue : List (String × Node) → Bool
  | [] => true
  | (_, node) :: rest => hasValue node && membersHaveValue rest

def tablesHaveValue : List (List (String × Node)) → Bool
  | [] => true
  | members :: rest => membersHaveValue members && tablesHaveValue rest

end

/-- Declare a table by a header in single brackets. -/
def declare : Option Node → Option Node
  | none => some (.table .declared [])
  | some (.table .implied members) => some (.table .declared members)
  | some _ => none

/-- Declare one more table by a header in double brackets. -/
def append : Option Node → Option Node
  | none => some (.tables [] [])
  | some (.tables earlier last) => some (.tables (earlier ++ [last]) [])
  | some _ => none

end Node

/-- Change what stands at the end of a path of headers. -/
def Members.alterAt : List String → (Option Node → Option Node) → Members → Option Members
  | [], _, _ => none
  | [key], f, members => members.alter key f
  | key :: path, f, members => members.alter key (Node.within (alterAt path f))

/-- A document that is being read, with the path of the current table. -/
structure Document where
  current : List String := []
  members : Members := []

namespace Document

/-- The effect of a header. -/
def header (path : List String) (f : Option Node → Option Node) (d : Document) :
    Option Document :=
  (d.members.alterAt path f).map fun members => { current := path, members }

/-- The effect of a key with a value. -/
def put (path : List String) (value : Node) (d : Document) : Option Document :=
  let members := match d.current with
    | [] => d.members.put path value
    | current => d.members.alterAt current (Node.within (Members.put path value))
  members.map fun members => { d with members }

end Document

end HomeEntities.Toml
