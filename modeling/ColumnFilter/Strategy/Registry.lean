import ColumnFilter.Settings.Error
import ColumnFilter.Strategy
import ColumnFilter.Text.Case

/-!
# The registry of strategies

Kinds of strategy are registered under names, which are compared in lowercase.
-/

namespace ColumnFilter

namespace StrategyKind

/-- A strategy of this kind with the options that differ from the usual ones. -/
def create (kind : StrategyKind) (entries : OptionEntries) : Except OptionError Strategy :=
  match kind with
  | .range =>
      match readOptions Range.Options.fields .standard entries with
      | .error error => .error (.shape error)
      | .ok options => ((Range.ofOptions? options).map .range).mapError .pattern
  | .exact => ((readOptions Marked.fields (.standard "\"") entries).map .exact).mapError .shape
  | .substring =>
      ((readOptions Marked.fields (.standard "#") entries).map .substring).mapError .shape
  | .regex => ((readOptions Marked.fields (.standard "/") entries).map .regex).mapError .shape
  | .words => ((readOptions Words.fields .standard entries).map .words).mapError .shape

end StrategyKind

/-- The kinds registered, by name in lowercase; no name has two entries. -/
structure StrategyRegistry where
  entries : List (String × StrategyKind)

namespace StrategyRegistry

def empty : StrategyRegistry := ⟨[]⟩

/-- Registers a kind under a name, in place of an earlier one. -/
def register (registry : StrategyRegistry) (name : String) (kind : StrategyKind) :
    StrategyRegistry :=
  ⟨Json.assignSorted registry.entries (Text.lowercase name) kind⟩

/-- The built-in kinds under their usual names. -/
def standard : StrategyRegistry :=
  StrategyKind.all.foldl (fun registry kind => registry.register kind.name kind) empty

def kind? (registry : StrategyRegistry) (name : String) : Option StrategyKind :=
  registry.entries.lookup (Text.lowercase name)

def contains (registry : StrategyRegistry) (name : String) : Bool := (registry.kind? name).isSome

/-- The names under which kinds are registered, sorted. -/
def names (registry : StrategyRegistry) : List String := registry.entries.map Prod.fst

/-- Makes the strategy of a filter from its kind and its options. -/
def create (registry : StrategyRegistry) (filter kind : String) (options : OptionEntries) :
    Except ConfigurationError Strategy :=
  match registry.kind? kind with
  | none => .error (.unknownStrategyKind filter kind)
  | some found => (found.create options).mapError (.invalidOptions filter)

end StrategyRegistry

end ColumnFilter
