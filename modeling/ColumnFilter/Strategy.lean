import ColumnFilter.CompileError
import ColumnFilter.Strategy.Marked
import ColumnFilter.Strategy.Words

/-!
# Strategies

A strategy recognises one way of writing a segment.  It turns such a segment into a
fragment and leaves all others alone.
-/

namespace ColumnFilter

/-- The built-in kinds of strategy. -/
inductive StrategyKind where
  | range
  | exact
  | substring
  | regex
  | words
  deriving DecidableEq, Repr

namespace StrategyKind

def name : StrategyKind → String
  | .range => "range"
  | .exact => "exact"
  | .substring => "substring"
  | .regex => "regex"
  | .words => "default"

def all : List StrategyKind := [.range, .exact, .substring, .regex, .words]

end StrategyKind

/-- A strategy with its options. -/
inductive Strategy where
  | range (range : Range)
  | exact (options : Marked)
  | substring (options : Marked)
  | regex (options : Marked)
  | words (options : Words)

namespace Strategy

def kind : Strategy → StrategyKind
  | .range _ => .range
  | .exact _ => .exact
  | .substring _ => .substring
  | .regex _ => .regex
  | .words _ => .words

/-- The fragment of a segment that the strategy recognises.  Only patterns are tried on
the connection. -/
def accept (strategy : Strategy) (target : Target) (segment : Segment) :
    Probed (Except CompileError (Option Fragment)) :=
  match strategy with
  | .range ranges => .pure ((ranges.range? target segment).mapError .missingNumber)
  | .exact options => .pure (.ok (options.searchWhole? target segment))
  | .substring options => .pure (.ok (options.searchPart? target segment))
  | .regex options =>
      (options.searchPattern? target segment).map fun result =>
        result.mapError CompileError.ofQueryError
  | .words options => .pure (.ok (some (options.fragment target segment)))

end Strategy

end ColumnFilter
