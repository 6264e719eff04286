import ColumnFilter.Segment
import ColumnFilter.Strategy.Like
import ColumnFilter.Strategy.Options
import ColumnFilter.Strategy.Target

/-!
# Marked segments

A segment between markers is a search for the text inside them: the whole value, a
part of it, or a pattern that it matches.  A segment without the markers is left to
other strategies.
-/

namespace ColumnFilter

/-- The markers of a search, and whether a missing value counts as an empty text. -/
structure Marked where
  markers : Segment.Markers
  nullAsEmpty : Bool
  deriving DecidableEq, Repr

namespace Marked

/-- The same mark on both sides. -/
def standard (mark : String) : Marked := ⟨⟨mark, mark⟩, true⟩

def fields : List (OptionField Marked) :=
  [.text "prefix" fun options mark =>
      { options with markers := { options.markers with opening := mark } },
    .text "suffix" fun options mark =>
      { options with markers := { options.markers with closing := mark } },
    .flag "treatNullAsEmptyString" fun options wanted =>
      { options with nullAsEmpty := wanted }]

/-- The fragment for a whole value: the operand is the only member of a list. -/
def wholeFragment (options : Marked) (target : Target) (segment : Segment) (inner : String) :
    Fragment :=
  let param := parameterName "exact" segment.text target.column
  let condition := Condition.among (target.operand options.nullAsEmpty) [.param param] false
  ⟨condition.negateIf segment.negated, .single param (.string inner)⟩

/-- Compiles a segment as a search for a whole value. -/
def searchWhole? (options : Marked) (target : Target) (segment : Segment) : Option Fragment :=
  (options.markers.strip? segment.text).map (options.wholeFragment target segment)

/-- The fragment for a part of a value.  Every value has an empty part. -/
def partFragment (options : Marked) (target : Target) (segment : Segment) (inner : String) :
    Fragment :=
  if inner.isEmpty then .always
  else
    let param := parameterName "substring" segment.text target.column
    let condition := Condition.compare (target.operand options.nullAsEmpty) .like (.param param)
    ⟨condition.negateIf segment.negated, .single param (.string (Like.containing inner))⟩

/-- Compiles a segment as a search for a part of a value. -/
def searchPart? (options : Marked) (target : Target) (segment : Segment) : Option Fragment :=
  (options.markers.strip? segment.text).map (options.partFragment target segment)

/-- Compiles a segment as a search for a pattern.  A pattern that the database refuses
is no pattern. -/
def searchPattern? (options : Marked) (target : Target) (segment : Segment) :
    Probed (Except QueryError (Option Fragment)) :=
  match options.markers.strip? segment.text with
  | none => .pure (.ok none)
  | some inner =>
      (target.dialect.checkPattern target.connection inner).map fun checked =>
        checked.map fun valid =>
          if valid then
            some (target.dialect.patternFragment (target.operand options.nullAsEmpty) inner
              segment.negated (parameterName "regex" segment.text target.column))
          else none

end Marked

end ColumnFilter
