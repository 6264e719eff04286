import ColumnFilter.Settings
import ColumnFilter.Strategy.Registry

/-!
# The chain of filters

Filters are asked in the order of their priorities, those of one priority in the order
of their declaration.  The first one that accepts a segment makes its fragment; a
segment that none accepts is taken as words.
-/

namespace ColumnFilter

/-- A filter that is ready to be asked. -/
structure ChainEntry where
  name : String
  priority : Int64
  strategy : Strategy

/-- Filters in the order in which they are asked. -/
structure Chain where
  entries : List ChainEntry

namespace Chain

/-- Two texts that differ in the case of ASCII letters only. -/
def sameAscii (left right : String) : Bool :=
  left.toList.map Char.toLower == right.toList.map Char.toLower

/-- Is the filter used?  The one that takes every segment cannot be switched off. -/
def isUsed (descriptor : Descriptor) : Bool :=
  descriptor.active || sameAscii descriptor.kind StrategyKind.words.name

/-- Makes the filters that are used, in the order of their declaration. -/
def entriesOf (registry : StrategyRegistry) :
    List (String × Descriptor) → Except ConfigurationError (List ChainEntry)
  | [] => .ok []
  | (name, descriptor) :: filters =>
      if isUsed descriptor then
        match registry.create name descriptor.kind descriptor.options with
        | .error error => .error error
        | .ok strategy =>
            (entriesOf registry filters).map (⟨name, descriptor.priority, strategy⟩ :: ·)
      else entriesOf registry filters

/-- Puts an entry in front of all that do not come before it. -/
def place (entry : ChainEntry) : List ChainEntry → List ChainEntry
  | [] => [entry]
  | other :: entries =>
      if other.priority < entry.priority then other :: place entry entries
      else entry :: other :: entries

/-- Entries in the order of their priorities, and otherwise as they were. -/
def sorted (entries : List ChainEntry) : List ChainEntry := entries.foldr place []

/-- The chain of the filters that are used.  The first one that cannot be made is
reported. -/
def build (registry : StrategyRegistry) (filters : List (String × Descriptor)) :
    Except ConfigurationError Chain :=
  (entriesOf registry filters).map fun entries => ⟨sorted entries⟩

/-- The names of the filters in the order in which they are asked. -/
def names (chain : Chain) : List String := chain.entries.map ChainEntry.name

/-- Asks filters in turn for the fragment of a segment. -/
def firstAccepted (target : Target) (segment : Segment) :
    List ChainEntry → Probed (Except CompileError Fragment)
  | [] => .pure (.ok (Words.standard.fragment target segment))
  | entry :: entries =>
      (entry.strategy.accept target segment).bind fun
        | .error error => .pure (.error error)
        | .ok (some fragment) => .pure (.ok fragment)
        | .ok none => firstAccepted target segment entries

/-- The fragment of a segment. -/
def resolve (chain : Chain) (target : Target) (segment : Segment) :
    Probed (Except CompileError Fragment) :=
  firstAccepted target segment chain.entries

end Chain

end ColumnFilter
