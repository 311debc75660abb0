import HomeEntities.Toml.Scalar

/-!
# Reading TOML

The grammar of version 1.1. Each step takes the characters that are left and gives back those left
after it; lines are put into a growing document.

* `Toml.read?`: the document that a text holds.
-/

namespace HomeEntities.Toml

/-! ### Blanks and comments -/

/-- Blanks within a line. -/
def isBlank (c : Char) : Bool := c == ' ' || c == '\t'

def skipBlanks (cs : List Char) : List Char := cs.dropWhile isBlank

/-- Control characters, save the tab, have no place in a document. -/
def isControl (c : Char) : Bool := (c.toNat < 32 && c != '\t') || c.toNat == 127

/-- What follows a comment, from the end of its line on. -/
def afterComment? : List Char → Option (List Char)
  | [] => some []
  | '\n' :: rest => some ('\n' :: rest)
  | '\r' :: '\n' :: rest => some ('\n' :: rest)
  | c :: rest => if isControl c then none else afterComment? rest

/-- What follows blanks and a comment, from the end of the line on, which must be near. -/
def lineEnd? (cs : List Char) : Option (List Char) :=
  match skipBlanks cs with
  | [] => some []
  | '\n' :: rest => some rest
  | '\r' :: '\n' :: rest => some rest
  | '#' :: rest => (afterComment? rest).map fun
    | '\n' :: rest => rest
    | rest => rest
  | _ => none

/-- What follows blanks, line ends and comments. -/
def skipLines : Nat → List Char → Option (List Char)
  | 0, _ => none
  | fuel + 1, cs =>
    match skipBlanks cs with
    | '\n' :: rest => skipLines fuel rest
    | '\r' :: '\n' :: rest => skipLines fuel rest
    | '#' :: rest => (afterComment? rest).bind (skipLines fuel)
    | rest => some rest

/-! ### Strings -/

/-- The value of hexadecimal digits that stand for a character. -/
def scalarValue? (digits : List Char) : Option Char :=
  if digits.all isHexDigit then
    let n := valueOf 16 digits
    if n < 0xD800 ∨ (0xE000 ≤ n ∧ n < 0x110000) then some (Char.ofNat n) else none
  else none

/-- The character of an escape after its backslash, and what follows it. -/
def escape? : List Char → Option (Char × List Char)
  | 'b' :: rest => some ('\x08', rest)
  | 't' :: rest => some ('\t', rest)
  | 'n' :: rest => some ('\n', rest)
  | 'f' :: rest => some ('\x0c', rest)
  | 'r' :: rest => some ('\r', rest)
  | 'e' :: rest => some ('\x1b', rest)
  | '"' :: rest => some ('"', rest)
  | '\\' :: rest => some ('\\', rest)
  | 'x' :: a :: b :: rest => (scalarValue? [a, b]).map (·, rest)
  | 'u' :: a :: b :: c :: d :: rest => (scalarValue? [a, b, c, d]).map (·, rest)
  | 'U' :: a :: b :: c :: d :: e :: f :: g :: h :: rest =>
    (scalarValue? [a, b, c, d, e, f, g, h]).map (·, rest)
  | _ => none

/-- A string up to its closing quote, after the characters already `read`, last first. -/
def readBasic : Nat → List Char → List Char → Option (String × List Char)
  | 0, _, _ => none
  | fuel + 1, read, cs =>
    match cs with
    | [] => none
    | '"' :: rest => some (String.ofList read.reverse, rest)
    | '\\' :: rest => (escape? rest).bind fun (c, rest) => readBasic fuel (c :: read) rest
    | c :: rest => if isControl c then none else readBasic fuel (c :: read) rest

/-- A string without escapes up to its closing quote. -/
def readLiteral (read : List Char) : List Char → Option (String × List Char)
  | [] => none
  | '\'' :: rest => some (String.ofList read.reverse, rest)
  | c :: rest => if isControl c then none else readLiteral (c :: read) rest

/-- Leave out one line end. -/
def skipLineEnd : List Char → List Char
  | '\n' :: rest => rest
  | '\r' :: '\n' :: rest => rest
  | rest => rest

/-- What follows the quotes that close a string of several lines; up to two more belong to it. -/
def closing? (quote : Char) : List Char → Option (List Char × List Char)
  | a :: b :: c :: d :: e :: rest =>
    if [a, b, c, d, e].all (· == quote) then some ([quote, quote], rest)
    else if [a, b, c, d].all (· == quote) then some ([quote], e :: rest)
    else if [a, b, c].all (· == quote) then some ([], d :: e :: rest)
    else none
  | [a, b, c, d] =>
    if [a, b, c, d].all (· == quote) then some ([quote], [])
    else if [a, b, c].all (· == quote) then some ([], [d])
    else none
  | [a, b, c] => if [a, b, c].all (· == quote) then some ([], []) else none
  | _ => none

/-- What follows a backslash at the end of a line and the blanks and line ends after it. -/
def joinedLine? (cs : List Char) : Option (List Char) :=
  match skipBlanks cs with
  | '\n' :: rest => some (skip rest)
  | '\r' :: '\n' :: rest => some (skip rest)
  | _ => none
where
  /-- Leave out blanks and line ends. -/
  skip : List Char → List Char
    | '\r' :: '\n' :: rest => skip rest
    | c :: rest => if isBlank c || c == '\n' then skip rest else c :: rest
    | [] => []

/-- A string of several lines up to its closing quotes; escapes count if `escapes`. -/
def readLines (quote : Char) (escapes : Bool) :
    Nat → List Char → List Char → Option (String × List Char)
  | 0, _, _ => none
  | fuel + 1, read, cs =>
    match closing? quote cs with
    | some (more, rest) => some (String.ofList (read.reverse ++ more), rest)
    | none =>
      match cs with
      | [] => none
      | '\n' :: rest => readLines quote escapes fuel ('\n' :: read) rest
      | '\r' :: '\n' :: rest => readLines quote escapes fuel ('\n' :: read) rest
      | c :: rest =>
        if escapes && c == '\\' then
          match joinedLine? rest with
          | some rest => readLines quote escapes fuel read rest
          | none => (escape? rest).bind fun (c, rest) =>
              readLines quote escapes fuel (c :: read) rest
        else if isControl c then none
        else readLines quote escapes fuel (c :: read) rest

/-! ### Keys -/

def isKeyChar (c : Char) : Bool := c.isAlphanum || c == '_' || c == '-'

/-- One part of a key. -/
def readKeyPart (cs : List Char) : Option (String × List Char) :=
  match cs with
  | '"' :: rest => readBasic (rest.length + 1) [] rest
  | '\'' :: rest => readLiteral [] rest
  | cs =>
    match cs.span isKeyChar with
    | ([], _) => none
    | (part, rest) => some (String.ofList part, rest)

/-- How deep a document may go: how many parts a key may have, and how many brackets may stand
around a value. -/
def depthLimit : Nat := 80

/-- A key of one part up to as many as there is room for, with dots between them; blanks around it
are left out. -/
def readKey : (room : Nat) → List Char → Option (List String × List Char)
  | 0, _ => none
  | room + 1, cs =>
    (readKeyPart (skipBlanks cs)).bind fun (part, rest) =>
      match skipBlanks rest with
      | '.' :: rest => (readKey room rest).map fun (parts, rest) => (part :: parts, rest)
      | rest => some ([part], rest)

/-! ### Values -/

/-- Characters of a token that does not start with a quote. -/
def isTokenChar (c : Char) : Bool :=
  !(isBlank c || c == '\n' || c == '\r' || c == ',' || c == '=' || c == '#'
    || c == '[' || c == ']' || c == '{' || c == '}')

/-- Whether a token goes on after blanks: quotes start a string of their own. -/
def goesOn : List Char → Bool
  | c :: _ => isTokenChar c && c != '"' && c != '\''
  | [] => false

/-- The characters of a token, with the blanks inside it, and what follows it. -/
def takeToken : Nat → List Char → List Char × List Char
  | 0, cs => ([], cs)
  | fuel + 1, cs =>
    let (word, rest) := cs.span isTokenChar
    let (blanks, more) := rest.span isBlank
    if !blanks.isEmpty && goesOn more then
      let (token, rest) := takeToken fuel more
      (word ++ blanks ++ token, rest)
    else (word, rest)

/-- A token without quotes. -/
def readToken (cs : List Char) : Option (Node × List Char) :=
  let (token, rest) := takeToken (cs.length + 1) cs
  (scalar? token).map (·, rest)

mutual

/-- A value inside at most `room` more brackets; nested values use up the fuel. -/
def readValue (room : Nat) : Nat → List Char → Option (Node × List Char)
  | 0, _ => none
  | fuel + 1, cs =>
    match cs with
    | '"' :: '"' :: '"' :: rest =>
      (readLines '"' true (rest.length + 1) [] (skipLineEnd rest)).map fun (s, r) => (.string s, r)
    | '\'' :: '\'' :: '\'' :: rest =>
      (readLines '\'' false (rest.length + 1) [] (skipLineEnd rest)).map fun (s, r) =>
        (.string s, r)
    | '"' :: rest => (readBasic (rest.length + 1) [] rest).map fun (s, r) => (.string s, r)
    | '\'' :: rest => (readLiteral [] rest).map fun (s, r) => (.string s, r)
    | '[' :: rest => if room = 0 then none else readItems (room - 1) fuel [] rest
    | '{' :: rest => if room = 0 then none else readInline (room - 1) fuel [] rest
    | cs => readToken cs

/-- The items of an array from the next one on, after those already `read`, last first. -/
def readItems (room : Nat) : Nat → List Node → List Char → Option (Node × List Char)
  | 0, _, _ => none
  | fuel + 1, read, cs =>
    match skipLines (cs.length + 1) cs with
    | none => none
    | some (']' :: rest) => some (.array read.reverse, rest)
    | some cs =>
      match readValue room fuel cs with
      | none => none
      | some (item, rest) =>
        match skipLines (rest.length + 1) rest with
        | some (',' :: rest) => readItems room fuel (item :: read) rest
        | some (']' :: rest) => some (.array (item :: read).reverse, rest)
        | _ => none

/-- The members of an inline table from the next one on. Lines may end anywhere between the parts
of the table, save inside a key. -/
def readInline (room : Nat) : Nat → Members → List Char → Option (Node × List Char)
  | 0, _, _ => none
  | fuel + 1, members, cs =>
    match skipLines (cs.length + 1) cs with
    | none => none
    | some ('}' :: rest) => some (.inline members, rest)
    | some cs =>
      match readMember room fuel cs with
      | none => none
      | some (path, value, rest) =>
        match members.put path value with
        | none => none
        | some members =>
          match skipLines (rest.length + 1) rest with
          | some (',' :: rest) => readInline room fuel members rest
          | some ('}' :: rest) => some (.inline members, rest)
          | _ => none

/-- One member of an inline table: its key and its value. -/
def readMember (room : Nat) : Nat → List Char → Option (List String × Node × List Char)
  | 0, _ => none
  | fuel + 1, cs =>
    match readKey depthLimit cs with
    | none => none
    | some (path, rest) =>
      match skipLines (rest.length + 1) rest with
      | some ('=' :: rest) =>
        match skipLines (rest.length + 1) rest with
        | none => none
        | some rest => (readValue room fuel rest).map fun (value, rest) => (path, value, rest)
      | _ => none

end

/-! ### Documents -/

/-- One line after its blanks, and what follows it. -/
def readLine (document : Document) (cs : List Char) : Option (Document × List Char) :=
  match cs with
  | '[' :: '[' :: rest =>
    match readKey depthLimit rest with
    | some (path, ']' :: ']' :: rest) =>
      (document.header path Node.append).bind fun d => (lineEnd? rest).map (d, ·)
    | _ => none
  | '[' :: rest =>
    match readKey depthLimit rest with
    | some (path, ']' :: rest) =>
      (document.header path Node.declare).bind fun d => (lineEnd? rest).map (d, ·)
    | _ => none
  | cs =>
    match readKey depthLimit cs with
    | some (path, '=' :: rest) =>
      match readValue depthLimit (3 * rest.length + 3) (skipBlanks rest) with
      | some (value, rest) =>
        (document.put path value).bind fun d => (lineEnd? rest).map (d, ·)
      | none => none
    | _ => none

/-- The lines of a document. -/
def readDocument : Nat → Document → List Char → Option Document
  | 0, _, _ => none
  | fuel + 1, document, cs =>
    match skipLines (cs.length + 1) cs with
    | none => none
    | some [] => some document
    | some cs =>
      match readLine document cs with
      | some (document, rest) => readDocument fuel document rest
      | none => none

/-- The document that a text holds; a mark of byte order in front is left out. -/
def read? (text : String) : Option Members :=
  let cs := match text.toList with
    | '\uFEFF' :: rest => rest
    | cs => cs
  (readDocument (cs.length + 1) {} cs).map (·.members)

end HomeEntities.Toml
