/-!
# Runs of code points

Character tables are lists of runs: arithmetic progressions of code points.  A
stride of two covers the alphabets in which capital and small letters alternate.
-/

namespace ColumnFilter.Text

/-- The code points `first`, `first + stride`, … up to `last`. -/
structure Run where
  first : Nat
  last : Nat
  stride : Nat
  deriving DecidableEq, Repr

namespace Run

def contains (run : Run) (code : Nat) : Bool :=
  run.first ≤ code && code ≤ run.last && (code - run.first) % run.stride == 0

/-- Is the character in one of the runs of a table? -/
def covers (table : List Run) (c : Char) : Bool :=
  table.any fun run => run.contains c.toNat

end Run

/-- A run whose code points all map to the code point `offset` further on. -/
structure Shift where
  run : Run
  offset : Int
  deriving DecidableEq, Repr

namespace Shift

/-- The image of a code point under a table of shifts; outside the table it stays. -/
def apply (table : List Shift) (code : Nat) : Nat :=
  match table.find? fun shift => shift.run.contains code with
  | some shift => (code + shift.offset).toNat
  | none => code

/-- The code points that a table of shifts sends to `code`, without `code` itself. -/
def sources (table : List Shift) (code : Nat) : List Nat :=
  (table.filter fun shift => shift.run.contains (code - shift.offset : Int).toNat).map fun shift =>
    (code - shift.offset : Int).toNat

end Shift

end ColumnFilter.Text
