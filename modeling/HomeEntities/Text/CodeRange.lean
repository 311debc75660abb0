/-!
# Tables of code points

A property of characters is kept as a list of inclusive ranges of code points in ascending order.
A case mapping is kept as a list of *runs*: code points at equal distances which all move by the
same shift.

* `inRanges`: membership in a list of ranges; the search ends at the first range beyond the point.
* `CaseRun.find?`: the image of a code point under a list of runs, if some run holds it.
-/

namespace HomeEntities.Text

/-- Whether a code point lies in one of the ranges, which ascend. -/
def inRanges : List (Nat × Nat) → Nat → Bool
  | [], _ => false
  | (first, last) :: rest, n => if n < first then false else n ≤ last || inRanges rest n

/-- The code points `first`, `first + step`, …, `last`, each moved by `shift`. -/
structure CaseRun where
  first : Nat
  last : Nat
  step : Nat
  shift : Int
deriving Repr, DecidableEq

namespace CaseRun

/-- Whether the run moves the code point. -/
def holds (run : CaseRun) (n : Nat) : Bool :=
  run.first ≤ n && n ≤ run.last && (n - run.first) % run.step == 0

/-- Where the run moves a code point that it holds. -/
def image (run : CaseRun) (n : Nat) : Nat := (n + run.shift).toNat

/-- The image of a code point under runs in ascending order. -/
def find? : List CaseRun → Nat → Option Nat
  | [], _ => none
  | run :: rest, n =>
    if n < run.first then none
    else if run.holds n then some (run.image n)
    else find? rest n

end CaseRun

/-- Move one character along the runs; characters in no run stay. -/
def shiftChar (runs : List CaseRun) (c : Char) : Char :=
  match CaseRun.find? runs c.toNat with
  | some n => Char.ofNat n
  | none => c

end HomeEntities.Text
