import ColumnFilter.Text.Case

/-!
# Markers

A pair of markers around a text, such as the quotes of an exact search.  Markers
are compared whatever their case and never overlap.
-/

namespace ColumnFilter.Segment

/-- The texts in front of and behind what they mark. -/
structure Markers where
  opening : String
  closing : String
  deriving DecidableEq, Repr

namespace Markers

/-- The text between the markers, if both are there. -/
def inner? (markers : Markers) (text : List Char) : Option (List Char) :=
  let opening := markers.opening.toList
  let closing := markers.closing.toList
  if text.length < opening.length + closing.length then none
  else
    let body := text.drop opening.length
    let size := body.length - closing.length
    if Text.lower (text.take opening.length) == Text.lower opening
        && Text.lower (body.drop size) == Text.lower closing then
      some (body.take size)
    else none

/-- `inner?` on strings. -/
def strip? (markers : Markers) (text : String) : Option String :=
  (markers.inner? text.toList).map String.ofList

end Markers

end ColumnFilter.Segment
