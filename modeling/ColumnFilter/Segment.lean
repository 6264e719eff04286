import ColumnFilter.Segment.Marker
import ColumnFilter.Segment.Split

/-!
# Segments of an expression

An expression is a choice between groups of segments that must hold together.
`Punctuation.segments` finds the segments and says which of them are inverted.
-/

namespace ColumnFilter

/-- One condition of an expression, still as text. -/
structure Segment where
  text : String
  negated : Bool
  deriving DecidableEq, Repr

/-- The marks that give an expression its structure. -/
structure Punctuation where
  orMark : String
  andMark : String
  escape : String
  inversion : Segment.Markers
  deriving DecidableEq, Repr

namespace Segment

/-- A text with its inversion markers read off.  Without markers nothing is
inverted; inside them white space is trimmed. -/
def ofMarked (inversion : Markers) (text : String) : Segment :=
  if inversion.opening.isEmpty && inversion.closing.isEmpty then ⟨text, false⟩
  else
    match inversion.inner? text.toList with
    | some inner => ⟨String.ofList (Text.trim inner), true⟩
    | none => ⟨text, false⟩

end Segment

namespace Punctuation

/-- The usual marks: `|`, `&`, `\` and a leading `!`. -/
def standard : Punctuation := ⟨"|", "&", "\\", ⟨"!", ""⟩⟩

/-- The texts of an expression: alternatives, and in each of them the texts that
must hold together.  Alternatives without any text are dropped. -/
def split (punctuation : Punctuation) (expression : String) : List (List String) :=
  let escape := punctuation.escape.toList
  let alternatives :=
    Segment.splitOn .keep ⟨punctuation.orMark.toList, escape⟩ (Text.trim expression.toList)
  let groups := alternatives.map fun alternative =>
    Segment.splitOn .resolve ⟨punctuation.andMark.toList, escape⟩ alternative
  (groups.filter fun group => !group.isEmpty).map fun group => group.map String.ofList

def segments (punctuation : Punctuation) (expression : String) : List (List Segment) :=
  (punctuation.split expression).map fun group =>
    group.map (Segment.ofMarked punctuation.inversion)

end Punctuation

end ColumnFilter
