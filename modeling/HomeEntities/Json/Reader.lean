import HomeEntities.Decimal.Literal
import HomeEntities.Json.Basic

/-!
# Reading JSON

The strict grammar: no comments, no comma before a closing bracket, no control characters inside
a text, and nothing but blanks around the value. A whole number without a point or a power of ten
is kept exactly if it fits into 64 bits, signed or unsigned; any other number is a double. Minus
zero is a double.

Each step takes the characters that are left and gives back those left after it.

* `Json.read?`: the value that a text holds.
-/

namespace HomeEntities.Json

open Decimal

/-- Blanks between tokens. -/
def isBlank (c : Char) : Bool := c == ' ' || c == '\n' || c == '\t' || c == '\r'

/-- Leave out leading blanks. -/
def skipBlanks (cs : List Char) : List Char := cs.dropWhile isBlank

/-! ### Texts -/

/-- A part of a text: a character, or half of a surrogate pair. -/
inductive Piece where
  | char (c : Char)
  | half (unit : Nat)

/-- The value of a hexadecimal digit. -/
def hexDigit? (c : Char) : Option Nat :=
  if '0' ≤ c ∧ c ≤ '9' then some (c.toNat - '0'.toNat)
  else if 'a' ≤ c ∧ c ≤ 'f' then some (c.toNat - 'a'.toNat + 10)
  else if 'A' ≤ c ∧ c ≤ 'F' then some (c.toNat - 'A'.toNat + 10)
  else none

/-- The value of a run of hexadecimal digits. -/
def hexValue? (cs : List Char) : Option Nat :=
  cs.foldlM (fun n c => (hexDigit? c).map (n * 16 + ·)) 0

/-- The part that a four-digit escape stands for. -/
def Piece.ofUnit (unit : Nat) : Piece :=
  if 0xD800 ≤ unit ∧ unit < 0xE000 then half unit else char (Char.ofNat unit)

/-- The character that a one-letter escape stands for. -/
def shortEscape? : Char → Option Char
  | '"' => some '"'
  | '\\' => some '\\'
  | '/' => some '/'
  | 'b' => some '\x08'
  | 'f' => some '\x0c'
  | 'n' => some '\n'
  | 'r' => some '\r'
  | 't' => some '\t'
  | _ => none

/-- The parts of a text up to its closing quote, after those already `read`, last first. -/
def readPieces (read : List Piece) : List Char → Option (List Piece × List Char)
  | [] => none
  | '"' :: rest => some (read.reverse, rest)
  | '\\' :: 'u' :: a :: b :: c :: d :: rest =>
    match hexValue? [a, b, c, d] with
    | some unit => readPieces (.ofUnit unit :: read) rest
    | none => none
  | '\\' :: e :: rest =>
    match shortEscape? e with
    | some c => readPieces (.char c :: read) rest
    | none => none
  | c :: rest => if c.toNat < 32 then none else readPieces (.char c :: read) rest

/-- The text made of the parts, if halves of surrogate pairs stand in pairs. -/
def joinPieces (joined : List Char) : List Piece → Option (List Char)
  | [] => some joined.reverse
  | .char c :: rest => joinPieces (c :: joined) rest
  | .half high :: .half low :: rest =>
    if high < 0xDC00 ∧ 0xDC00 ≤ low then
      joinPieces (Char.ofNat (0x10000 + (high - 0xD800) * 0x400 + (low - 0xDC00)) :: joined) rest
    else none
  | .half _ :: _ => none

/-- A text after its opening quote; `none` inside if it has no value. -/
def readText (cs : List Char) : Option (Option String × List Char) :=
  (readPieces [] cs).map fun (pieces, rest) => ((joinPieces [] pieces).map String.ofList, rest)

/-! ### Numbers -/

/-- The values of decimal digits. -/
def digitValues (cs : List Char) : List Nat := cs.map fun c => c.toNat - '0'.toNat

/-- The digits after a point, none if there is no point; at least one must follow a point. -/
def readFraction : List Char → Option (List Char × List Char)
  | '.' :: rest =>
    match rest.span Char.isDigit with
    | ([], _) => none
    | (digits, rest) => some (digits, rest)
  | rest => some ([], rest)

/-- The digits of a power of ten, of which there is at least one. -/
def readPower (negative : Bool) (cs : List Char) : Option (Option Int × List Char) :=
  match cs.span Char.isDigit with
  | ([], _) => none
  | (digits, rest) =>
    let power : Int := digitsValue (digitValues digits)
    some (some (if negative then -power else power), rest)

/-- The power of ten at the end of a number, if there is one. -/
def readExponent : List Char → Option (Option Int × List Char)
  | e :: rest =>
    if e == 'e' || e == 'E' then
      match rest with
      | '+' :: rest => readPower false rest
      | '-' :: rest => readPower true rest
      | rest => readPower false rest
    else some (none, e :: rest)
  | [] => some (none, [])

/-- A whole number, exact if it fits into 64 bits. -/
def wholeNumber (negative : Bool) (digits : List Nat) : Json :=
  let value := digitsValue digits
  if negative then
    if value ≠ 0 ∧ value ≤ Nat.pow 2 63 then int (-value)
    else ofDouble (.ofLiteral true digits [] 0)
  else if value ≤ maxSignificand then int value
  else ofDouble (.ofLiteral false digits [] 0)
where
  /-- A double, if it is finite. -/
  ofDouble (x : Binary64) : Json := if x.isFinite then float x else unreadable

/-- A number after its sign. -/
def readNumber (negative : Bool) (cs : List Char) : Option (Json × List Char) :=
  let (whole, rest) := cs.span Char.isDigit
  if whole.isEmpty || (whole.head? == some '0' && 1 < whole.length) then none
  else
    match readFraction rest with
    | none => none
    | some (fraction, rest) =>
      match readExponent rest with
      | none => none
      | some (exponent, rest) =>
        if fraction.isEmpty && exponent.isNone then
          some (wholeNumber negative (digitValues whole), rest)
        else
          let value := Binary64.ofLiteral negative (digitValues whole) (digitValues fraction)
            (exponent.getD 0)
          some (wholeNumber.ofDouble value, rest)

/-! ### Values -/

mutual

/-- A value, with blanks before it; nested values use up the fuel. -/
def readValue : Nat → List Char → Option (Json × List Char)
  | 0, _ => none
  | fuel + 1, cs =>
    match skipBlanks cs with
    | 'n' :: 'u' :: 'l' :: 'l' :: rest => some (null, rest)
    | 't' :: 'r' :: 'u' :: 'e' :: rest => some (bool true, rest)
    | 'f' :: 'a' :: 'l' :: 's' :: 'e' :: rest => some (bool false, rest)
    | '"' :: rest =>
      (readText rest).map fun (text, rest) => ((text.map str).getD unreadable, rest)
    | '[' :: rest =>
      match skipBlanks rest with
      | ']' :: rest => some (arr [], rest)
      | rest => readItems fuel [] rest
    | '{' :: rest =>
      match skipBlanks rest with
      | '}' :: rest => some (obj [], rest)
      | rest => readMembers fuel (some []) rest
    | '-' :: rest => readNumber true rest
    | rest => readNumber false rest

/-- The items of an array from the next one on, after those already `read`, last first. -/
def readItems : Nat → List Json → List Char → Option (Json × List Char)
  | 0, _, _ => none
  | fuel + 1, read, cs =>
    match readValue fuel cs with
    | none => none
    | some (item, rest) =>
      match skipBlanks rest with
      | ',' :: rest => readItems fuel (item :: read) rest
      | ']' :: rest => some (arr (item :: read).reverse, rest)
      | _ => none

/-- The members of an object from the next one on, after those already `read`, last first; none
are kept once a name had no value. -/
def readMembers : Nat → Option Members → List Char → Option (Json × List Char)
  | 0, _, _ => none
  | fuel + 1, read, cs =>
    match skipBlanks cs with
    | '"' :: rest =>
      match readText rest with
      | none => none
      | some (name, rest) =>
        match skipBlanks rest with
        | ':' :: rest =>
          match readValue fuel rest with
          | none => none
          | some (value, rest) =>
            let read := read.bind fun members => name.map fun name => (name, value) :: members
            match skipBlanks rest with
            | ',' :: rest => readMembers fuel read rest
            | '}' :: rest =>
              some ((read.map fun members => obj members.reverse).getD unreadable, rest)
            | _ => none
        | _ => none
    | _ => none

end

/-- The value that a text holds, blanks around it left out. -/
def read? (text : String) : Option Json :=
  let cs := text.toList
  match readValue (2 * cs.length + 2) cs with
  | some (value, rest) => if (skipBlanks rest).isEmpty then some value else none
  | none => none

end HomeEntities.Json
