import ColumnFilter.Text.Class

/-!
# Places in a text

Conditions on a place between two characters: an end of the text or of a line, or an
end of a word.
-/

namespace ColumnFilter

/-- A condition on a place in a text. -/
inductive Anchor where
  | textStart
  | textEnd
  | lineStart
  | lineEnd
  /-- Line ends that are written with one character or two. -/
  | crlfStart
  | crlfEnd
  | wordBoundary
  | notWordBoundary
  | wordStart
  | wordEnd
  | wordStartHalf
  | wordEndHalf
  deriving DecidableEq, Repr

structure Place where
  index : Nat
  before : Option Char
  after : Option Char
  deriving DecidableEq, Repr

/-- Is there a word character? -/
def Place.isWordAt : Option Char → Bool
  | some c => Text.isWord c
  | none => false

namespace Anchor

def holds (anchor : Anchor) (place : Place) : Bool :=
  let wordBefore := Place.isWordAt place.before
  let wordAfter := Place.isWordAt place.after
  match anchor with
  | .textStart => place.before.isNone
  | .textEnd => place.after.isNone
  | .lineStart => place.before.isNone || place.before == some '\n'
  | .lineEnd => place.after.isNone || place.after == some '\n'
  | .crlfStart =>
      place.before.isNone || place.before == some '\n' ||
        (place.before == some '\r' && place.after != some '\n')
  | .crlfEnd =>
      place.after.isNone || place.after == some '\r' ||
        (place.after == some '\n' && place.before != some '\r')
  | .wordBoundary => wordBefore != wordAfter
  | .notWordBoundary => wordBefore == wordAfter
  | .wordStart => !wordBefore && wordAfter
  | .wordEnd => wordBefore && !wordAfter
  | .wordStartHalf => !wordBefore
  | .wordEndHalf => !wordAfter

end Anchor

end ColumnFilter
