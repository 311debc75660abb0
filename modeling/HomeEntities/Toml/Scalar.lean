import HomeEntities.Decimal.Literal
import HomeEntities.Toml.Basic

/-!
# TOML scalars

Truth values, numbers and moments in time, which are written without quotes.

* `scalar?`: the value of a token.
-/

namespace HomeEntities.Toml

open Decimal

/-! ### Numbers -/

/-- Digits, with single underscores between them left out; `after` holds right after a digit. -/
def digits? (isDigit : Char → Bool) : (after : Bool) → List Char → Option (List Char)
  | after, [] => if after then some [] else none
  | after, c :: rest =>
    if c == '_' then if after then digits? isDigit false rest else none
    else if isDigit c then (digits? isDigit true rest).map (c :: ·)
    else none

/-- The value of a digit up to `f`. -/
def digitValue (c : Char) : Nat :=
  if c.isDigit then c.toNat - '0'.toNat
  else if 'a' ≤ c then c.toNat - 'a'.toNat + 10
  else c.toNat - 'A'.toNat + 10

/-- The value of digits to a base. -/
def valueOf (base : Nat) (digits : List Char) : Nat :=
  digits.foldl (fun n c => n * base + digitValue c) 0

def isHexDigit (c : Char) : Bool :=
  c.isDigit || ('a' ≤ c && c ≤ 'f') || ('A' ≤ c && c ≤ 'F')

/-- A whole number, which has a value if it fits into 128 bits, signed or unsigned. -/
def integer (value : Int) : Node :=
  if -(Nat.pow 2 127 : Int) ≤ value ∧ value < Nat.pow 2 128 then .integer value else .valueless

/-- A number to a base other than ten. Without digits it has no value. -/
def based? (base : Nat) (isDigit : Char → Bool) : List Char → Option Node
  | [] => some .valueless
  | cs => (digits? isDigit false cs).map fun digits => integer (valueOf base digits)

/-- Whether every underscore stands between two digits, be they of base sixteen; `after` holds right
after such a digit. -/
def underscoresBetween : (after : Bool) → List Char → Bool
  | _, [] => true
  | after, '_' :: c :: rest => after && isHexDigit c && underscoresBetween true rest
  | _, '_' :: [] => false
  | _, c :: rest => underscoresBetween (isHexDigit c) rest

/-- A whole number after its sign, without needless zeros in front. After the first underscore only
the places of underscores are looked at, so that some such tokens have no value. -/
def whole? (negative : Bool) (cs : List Char) : Option Node :=
  match cs.span Char.isDigit, cs with
  | ([], _), _ => none
  | (_, []), ['0'] => some (integer 0)
  | (_, _), '0' :: _ => none
  | (_, []), cs => some (signed cs)
  | (_, '_' :: _), cs =>
    if underscoresBetween false cs then
      some (((digits? Char.isDigit false cs).map signed).getD .valueless)
    else none
  | _, _ => none
where
  /-- The number of the given digits. -/
  signed (digits : List Char) : Node :=
    let value : Int := valueOf 10 digits
    integer (if negative then -value else value)

/-- Digits before a point or a power of ten, which have no needless zeros in front. -/
def mantissa? (cs : List Char) : Option (List Char) :=
  match digits? Char.isDigit false cs with
  | some ('0' :: _ :: _) => none
  | digits => digits

/-- A power of ten after its mark. -/
def power? : List Char → Option Int
  | '+' :: rest => (digits? Char.isDigit false rest).map fun ds => (valueOf 10 ds : Int)
  | '-' :: rest => (digits? Char.isDigit false rest).map fun ds => -(valueOf 10 ds : Int)
  | rest => (digits? Char.isDigit false rest).map fun ds => (valueOf 10 ds : Int)

/-- A double made of digits and a power of ten, which has a value if it is finite. -/
def double (negative : Bool) (digits : List Char) (exponent : Int) : Node :=
  let value := Binary64.ofDecimal negative (valueOf 10 digits) exponent
  if value.isFinite then .float value else .valueless

def isExponentMark (c : Char) : Bool := c == 'e' || c == 'E'

/-- A number with a point or a power of ten, after its sign. -/
def pointed? (negative : Bool) (cs : List Char) : Option Node :=
  let (whole, rest) := cs.span fun c => c.isDigit || c == '_'
  match mantissa? whole, rest with
  | none, _ => none
  | some digits, '.' :: rest =>
    let (fraction, rest) := rest.span fun c => c.isDigit || c == '_'
    match digits? Char.isDigit false fraction, rest with
    | none, _ => none
    | some fraction, [] => some (double negative (digits ++ fraction) (-fraction.length))
    | some fraction, mark :: rest =>
      if isExponentMark mark then
        (power? rest).map fun power =>
          double negative (digits ++ fraction) (power - fraction.length)
      else none
  | some digits, mark :: rest =>
    if isExponentMark mark then (power? rest).map fun power => double negative digits power
    else none
  | some _, [] => none

/-- A decimal number after its sign. Blanks are not part of it. -/
def decimal? (negative : Bool) (cs : List Char) : Option Node :=
  if cs.contains ' ' then none
  else if cs.any fun c => c == '.' || isExponentMark c then pointed? negative cs
  else whole? negative cs

/-! ### Moments -/

/-- The value of a run of exactly `n` digits, and what follows it. -/
def fixedDigits? (n : Nat) (cs : List Char) : Option (Nat × List Char) :=
  let (digits, rest) := cs.splitAt n
  if digits.length = n ∧ digits.all Char.isDigit then some (valueOf 10 digits, rest) else none

/-- The number of days in a month. -/
def daysIn (year month : Nat) : Nat :=
  if month = 2 then
    if year % 4 = 0 ∧ (year % 100 ≠ 0 ∨ year % 400 = 0) then 29 else 28
  else if month = 4 ∨ month = 6 ∨ month = 9 ∨ month = 11 then 30
  else 31

/-- What follows a date at the start of a text. -/
def afterDate? (cs : List Char) : Option (List Char) := do
  let (year, rest) ← fixedDigits? 4 cs
  let '-' :: rest := rest | none
  let (month, rest) ← fixedDigits? 2 rest
  let '-' :: rest := rest | none
  let (day, rest) ← fixedDigits? 2 rest
  if 1 ≤ month ∧ month ≤ 12 ∧ 1 ≤ day ∧ day ≤ daysIn year month then some rest else none

/-- What follows a fraction of a second, if there is one. -/
def afterFraction? : List Char → Option (List Char)
  | '.' :: c :: rest => if c.isDigit then some (rest.dropWhile Char.isDigit) else none
  | '.' :: [] => none
  | rest => some rest

/-- What follows a time of day at the start of a text; seconds may be left out. -/
def afterTime? (cs : List Char) : Option (List Char) := do
  let (hour, rest) ← fixedDigits? 2 cs
  let ':' :: rest := rest | none
  let (minute, rest) ← fixedDigits? 2 rest
  if 23 < hour ∨ 59 < minute then none
  else
    match rest with
    | ':' :: rest =>
      let (second, rest) ← fixedDigits? 2 rest
      if 60 < second then none else afterFraction? rest
    | rest => some rest

/-- Whether a text is nothing or an offset from universal time. -/
def isOffset : List Char → Bool
  | [] => true
  | ['Z'] | ['z'] => true
  | c :: rest =>
    if c == '+' || c == '-' then
      match fixedDigits? 2 rest with
      | some (hour, ':' :: rest) =>
        match fixedDigits? 2 rest with
        | some (minute, []) => hour ≤ 23 && minute ≤ 59
        | _ => false
      | _ => false
    else false

/-- Whether a text is a date, a time of day, or both with or without an offset. -/
def isMoment (cs : List Char) : Bool :=
  match afterDate? cs with
  | some [] => true
  | some (c :: rest) =>
    (c == 'T' || c == 't' || c == ' ') && ((afterTime? rest).map isOffset).getD false
  | none => afterTime? cs == some []

/-! ### Tokens -/

/-- A number or one of the names for what is no number, after its sign. -/
def signed? (negative : Bool) (cs : List Char) : Option Node :=
  match cs with
  | ['i', 'n', 'f'] => some (.float (.infinite negative))
  | ['n', 'a', 'n'] => some (.float .nan)
  | cs => decimal? negative cs

/-- The value of a token. -/
def scalar? (token : List Char) : Option Node :=
  match token with
  | ['t', 'r', 'u', 'e'] => some (.boolean true)
  | ['f', 'a', 'l', 's', 'e'] => some (.boolean false)
  | '+' :: rest => signed? false rest
  | '-' :: rest => signed? true rest
  | '0' :: 'x' :: rest => based? 16 isHexDigit rest
  | '0' :: 'o' :: rest => based? 8 (fun c => '0' ≤ c && c ≤ '7') rest
  | '0' :: 'b' :: rest => based? 2 (fun c => c == '0' || c == '1') rest
  | token =>
    if isMoment token then some (.datetime (String.ofList token)) else signed? false token

end HomeEntities.Toml
