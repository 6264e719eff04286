import ColumnFilter.Dialect
import ColumnFilter.Text.Case
import ColumnFilter.Text.Trim

/-!
# The registry of dialects

Dialects are registered under ids.  The adapter of an id is made when it is first
asked for and shared from then on, until the id is registered again.  Asking takes
two steps, which other callers may come between: a look at the adapters that exist,
and, only if there is none, a second look that makes one.
-/

namespace ColumnFilter

/-- A dialect's id, trimmed and in lowercase. -/
structure DialectId where
  text : String
  deriving DecidableEq, Repr

namespace DialectId

def ofString (text : String) : DialectId := ⟨Text.lowercase (Text.trimmed text)⟩

end DialectId

/-- A dialect as handed to callers; the serial number tells instances apart. -/
structure Adapter where
  dialect : Dialect
  serial : Nat
  deriving DecidableEq, Repr

/-- What is registered, which adapters exist, and how many were made. -/
structure DialectRegistry where
  registered : List (DialectId × Dialect)
  cached : List (DialectId × Adapter)
  made : Nat

namespace DialectRegistry

def empty : DialectRegistry := ⟨[], [], 0⟩

/-- Registers a dialect, in place of an earlier one with this id, whose adapter is
forgotten. -/
def register (registry : DialectRegistry) (id : DialectId) (dialect : Dialect) :
    DialectRegistry :=
  { registry with
    registered := (id, dialect) :: registry.registered.filter fun entry => entry.1 != id
    cached := registry.cached.filter fun entry => entry.1 != id }

/-- The four dialects under their usual ids. -/
def standard : DialectRegistry :=
  [("mysql", Dialect.mySql), ("postgres", .postgres), ("mssql", .sqlServer),
    ("mssql2012", .sqlServer2012)].foldl
    (fun registry entry => registry.register (.ofString entry.1) entry.2) empty

def dialect? (registry : DialectRegistry) (id : DialectId) : Option Dialect :=
  registry.registered.lookup id

def contains (registry : DialectRegistry) (id : DialectId) : Bool :=
  (registry.dialect? id).isSome

/-- The first step of asking for an adapter: the one that exists. -/
def cached? (registry : DialectRegistry) (id : DialectId) : Option Adapter :=
  registry.cached.lookup id

/-- The second step: the adapter that exists by now, or a new one. -/
def obtain (registry : DialectRegistry) (id : DialectId) : DialectRegistry × Option Adapter :=
  match registry.cached? id with
  | some adapter => (registry, some adapter)
  | none =>
      match registry.dialect? id with
      | none => (registry, none)
      | some dialect =>
          let adapter : Adapter := ⟨dialect, registry.made⟩
          ({ registry with
              cached := (id, adapter) :: registry.cached
              made := registry.made + 1 },
            some adapter)

/-- Both steps, with no other caller between them. -/
def get (registry : DialectRegistry) (id : DialectId) : DialectRegistry × Option Adapter :=
  match registry.cached? id with
  | some adapter => (registry, some adapter)
  | none => registry.obtain id

end DialectRegistry

/-- An id under which no dialect is registered. -/
structure UnknownDialect where
  id : DialectId
  deriving DecidableEq, Repr

namespace UnknownDialect

def message (error : UnknownDialect) : String :=
  "No dialect adapter registered for '" ++ error.id.text ++ "'"

end UnknownDialect

end ColumnFilter
