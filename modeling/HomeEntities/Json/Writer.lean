import HomeEntities.Decimal.Layout
import HomeEntities.Json.Basic

/-!
# Written JSON

The compact text of a value: no blanks, members in the order they are kept, and only quotes,
backslashes and control characters escaped.
-/

namespace HomeEntities.Json

/-- One character inside a JSON text. -/
def escapeChar (c : Char) : List Char :=
  match c with
  | '"' => ['\\', '"']
  | '\\' => ['\\', '\\']
  | '\x08' => ['\\', 'b']
  | '\x0c' => ['\\', 'f']
  | '\n' => ['\\', 'n']
  | '\r' => ['\\', 'r']
  | '\t' => ['\\', 't']
  | c =>
    if c.toNat < 32 then
      ['\\', 'u', '0', '0', Nat.digitChar (c.toNat / 16), Nat.digitChar (c.toNat % 16)]
    else [c]

/-- A JSON text in quotes. -/
def renderText (text : String) : String :=
  String.ofList ('"' :: (text.toList.flatMap escapeChar ++ ['"']))

mutual

/-- The compact text of a value. -/
def render : Json → String
  | null => "null"
  | bool b => if b then "true" else "false"
  | int i => toString i
  | float x => x.literal
  | str s => renderText s
  | arr items => "[" ++ renderItems true items ++ "]"
  | obj members => "\x7b" ++ renderMembers true members ++ "\x7d"
  | unreadable => "null"

def renderItems (first : Bool) : List Json → String
  | [] => ""
  | item :: rest => (if first then "" else ",") ++ render item ++ renderItems false rest

def renderMembers (first : Bool) : List (String × Json) → String
  | [] => ""
  | (name, value) :: rest =>
    (if first then "" else ",") ++ renderText name ++ ":" ++ render value
      ++ renderMembers false rest

end

end HomeEntities.Json
