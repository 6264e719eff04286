import ColumnFilter.Text.Case

/-!
# Character sets

The sets of characters that a pattern can ask for: single characters, ranges,
classes, and what the operators of bracketed classes make of them.
-/

namespace ColumnFilter

inductive CharSet where
  | any
  | oneOf (chars : List Char)
  /-- The characters between two, ends included. -/
  | range (first last : Char)
  | space
  | digit
  | word
  | alphabetic
  | categories (members : List Text.Category)
  | union (left right : CharSet)
  | inter (left right : CharSet)
  | diff (left right : CharSet)
  /-- The characters in exactly one of two sets. -/
  | xor (left right : CharSet)
  | compl (set : CharSet)
  /-- The characters that differ from a member by case only. -/
  | folded (set : CharSet)
  deriving DecidableEq, Repr

namespace CharSet

def contains : CharSet → Char → Bool
  | .any, _ => true
  | .oneOf chars, c => chars.contains c
  | .range first last, c => first ≤ c && c ≤ last
  | .space, c => Text.isSpace c
  | .digit, c => Text.isDecimalDigit c
  | .word, c => Text.isWord c
  | .alphabetic, c => Text.isAlphabetic c
  | .categories members, c => Text.inCategories members c
  | .union left right, c => left.contains c || right.contains c
  | .inter left right, c => left.contains c && right.contains c
  | .diff left right, c => left.contains c && !right.contains c
  | .xor left right, c => left.contains c != right.contains c
  | .compl set, c => !set.contains c
  | .folded set, c => (Text.foldClass c).any set.contains

/-- The set of one character, or of all that differ from it by case only. -/
def single (ignoreCase : Bool) (c : Char) : CharSet :=
  .oneOf (if ignoreCase then Text.foldClass c else [c])

def unionAll : List CharSet → CharSet
  | [] => .oneOf []
  | [only] => only
  | set :: sets => .union set (unionAll sets)

/-- About how many runs of characters the set consists of. -/
def runCount : CharSet → Nat
  | .any => 1
  | .oneOf chars => chars.length
  | .range _ _ => 1
  | .space => 10
  | .digit => 71
  | .word => 770
  | .alphabetic => 740
  | .categories members => (members.map fun category => category.runs.length).sum
  | .union left right => left.runCount + right.runCount
  | .inter left right => left.runCount + right.runCount
  | .diff left right => left.runCount + right.runCount
  | .xor left right => left.runCount + right.runCount
  | .compl set => set.runCount + 1
  | .folded set => 2 * set.runCount

end CharSet

end ColumnFilter
