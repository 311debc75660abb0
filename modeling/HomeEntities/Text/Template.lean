/-!
# Templates

Filling a mark in a text: every occurrence of the mark, found from left to right without overlap,
gives way to a value. The value is not searched again.
-/

namespace HomeEntities.Text

/-- The rest of a text with each `mark` in it replaced by `value`; the first `skip` characters
belong to a mark already replaced. -/
def fillFrom (mark value : List Char) : Nat → List Char → List Char
  | _, [] => []
  | skip + 1, _ :: cs => fillFrom mark value skip cs
  | 0, c :: cs =>
    if mark.isPrefixOf (c :: cs) then value ++ fillFrom mark value (mark.length - 1) cs
    else c :: fillFrom mark value 0 cs

/-- A text with each `mark` in it replaced by `value`. -/
def fill (mark value text : String) : String :=
  String.ofList (fillFrom mark.toList value.toList 0 text.toList)

end HomeEntities.Text
