import ColumnFilter.Segment
import ColumnFilter.Settings.Error
import ColumnFilter.Connection
import ColumnFilter.Strategy.Options
import ColumnFilter.Strategy

/-!
# Settings

How expressions are written, which dialect they are compiled for, and which filters
look at their segments.  Settings can be changed by a patch, which says only what is
different.
-/

namespace ColumnFilter

/-- A filter: its kind of strategy, its place among the filters, and its options. -/
structure Descriptor where
  kind : String
  /-- Filters with a lower priority come first. -/
  priority : Int64
  active : Bool
  options : OptionEntries

namespace Descriptor

/-- An active filter of a kind without options. -/
def ofKind (kind : String) (priority : Int64) : Descriptor := ⟨kind, priority, true, []⟩

end Descriptor

/-- Everything that can be set. -/
structure Settings where
  punctuation : Punctuation
  /-- The dialect, unless it is the one of the connection's driver. -/
  dialect : Option DialectId
  /-- The dialects of drivers; a driver may be known to have none. -/
  drivers : List (String × Option DialectId)
  /-- The filters by name, in the order in which they are declared. -/
  filters : List (String × Descriptor)

namespace Settings

def standardDrivers : List (String × Option DialectId) :=
  let postgres := some (DialectId.ofString "postgres")
  let mySql := some (DialectId.ofString "mysql")
  let sqlServer := some (DialectId.ofString "mssql")
  [("pgsql", postgres), ("postgres", postgres), ("mysqli", mySql), ("mysql", mySql),
    ("sqlite", none), ("sqlite2", none), ("mssql", sqlServer), ("dblib", sqlServer),
    ("sqlsrv", sqlServer), ("oci", none)]

/-- One filter of each built-in kind. -/
def standardFilters : List (String × Descriptor) :=
  [(StrategyKind.range, 10), (.exact, 20), (.substring, 30), (.regex, 40), (.words, 50)].map
    fun (kind, priority) => (kind.name, .ofKind kind.name priority)

/-- The usual settings, without a dialect. -/
def standard : Settings := ⟨.standard, none, standardDrivers, standardFilters⟩

def withDialect (settings : Settings) (id : DialectId) : Settings :=
  { settings with dialect := some id }

/-- The dialect to compile for: the one that is set, or else the one of the connection's
driver. -/
def resolveDialect (settings : Settings) (driver : Option String) :
    Except ConfigurationError DialectId :=
  match settings.dialect, driver with
  | some id, _ => .ok id
  | none, none => .error .missingDialect
  | none, some driver =>
      match settings.drivers.lookup driver with
      | some (some id) => .ok id
      | _ => .error (.unsupportedDriver driver)

end Settings

end ColumnFilter
