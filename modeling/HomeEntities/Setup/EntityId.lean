/-!
# Free ids

An id that is taken gets a number: the first of `base_2`, `base_3`, … that is free. Among one more
numbers than there are ids taken, one is free.
-/

namespace HomeEntities

/-- An id with a number. -/
def numbered (base : String) (n : Nat) : String := base ++ "_" ++ toString n

/-- The first free id from a number on, with `fuel` numbers to try. -/
def firstFree (base : String) (taken : List String) : Nat → Nat → String
  | 0, _ => base
  | fuel + 1, n =>
    if taken.contains (numbered base n) then firstFree base taken fuel (n + 1) else numbered base n

/-- The id itself if it is free, else with the first number that makes it so. -/
def freeId (base : String) (taken : List String) : String :=
  if taken.contains base then firstFree base taken (taken.length + 1) 2 else base

end HomeEntities
