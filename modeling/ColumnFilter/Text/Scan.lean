/-!
# Scanning

What is read from the front of a text, together with the rest.  The rest is never
longer than the text, so that a reader which goes on from there comes to an end.
-/

namespace ColumnFilter.Text

/-- A value read from the front of a text. -/
structure Scan (α : Type) (input : List Char) where
  value : α
  rest : List Char
  bounded : rest.length ≤ input.length

namespace Scan

def stay {α : Type} (value : α) (input : List Char) : Scan α input :=
  ⟨value, input, Nat.le_refl _⟩

def map {α β : Type} {input : List Char} (f : α → β) (scan : Scan α input) : Scan β input :=
  ⟨f scan.value, scan.rest, scan.bounded⟩

/-- A scan of the rest is a scan of the whole. -/
def behind {α : Type} {rest input : List Char} (scan : Scan α rest)
    (tail : rest.length ≤ input.length) : Scan α input :=
  ⟨scan.value, scan.rest, Nat.le_trans scan.bounded tail⟩

/-- The first character is read. -/
def first {α : Type} {c : Char} {rest : List Char} (value : α) : Scan α (c :: rest) :=
  ⟨value, rest, Nat.le_succ _⟩

/-- A scan behind the first character. -/
def past {α : Type} {c : Char} {rest : List Char} (scan : Scan α rest) : Scan α (c :: rest) :=
  scan.behind (Nat.le_succ _)

/-- One more character is read, if there is one. -/
def tail {α : Type} {input : List Char} (scan : Scan α input) : Scan α input :=
  ⟨scan.value, scan.rest.tail, Nat.le_trans (List.tail_suffix _).length_le scan.bounded⟩

end Scan

end ColumnFilter.Text
