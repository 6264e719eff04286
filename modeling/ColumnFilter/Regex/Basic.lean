import ColumnFilter.Regex.Anchor
import ColumnFilter.Regex.CharSet

/-!
# Patterns

A pattern describes texts by characters, sequence, choice and repetition.  Choices
are ordered: the first one that leads to a match counts.  So are repetitions, which
try either more or fewer rounds first.
-/

namespace ColumnFilter

inductive Regex where
  | empty
  | set (chars : CharSet)
  | anchor (condition : Anchor)
  | seq (first second : Regex)
  | alt (first second : Regex)
  /-- The body at least `low` times and, if there is a bound, at most `high` times. -/
  | times (low : Nat) (high : Option Nat) (greedy : Bool) (body : Regex)
  /-- A group whose text is kept. -/
  | group (index : Nat) (body : Regex)
  deriving DecidableEq, Repr

namespace Regex

def sequence : List Regex → Regex
  | [] => .empty
  | [only] => only
  | first :: rest => .seq first (sequence rest)

def choice : List Regex → Regex
  | [] => .empty
  | [only] => only
  | first :: rest => .alt first (choice rest)

/-- Any number of rounds, as many as possible. -/
def star (body : Regex) : Regex := .times 0 none true body

/-- About how many bytes a matcher for the pattern takes when all its repetitions are
written out. -/
def size : Regex → Nat
  | .empty => 32
  | .set chars => if chars.runCount ≤ 1 then 32 else 32 + 40 * chars.runCount
  | .anchor _ => 32
  | .seq first second => first.size + second.size
  | .alt first second => first.size + second.size + 40
  | .times low high _ body => (Nat.max 1 (high.getD (low + 1))) * (body.size + 40)
  | .group _ body => body.size + 64

end Regex

end ColumnFilter
