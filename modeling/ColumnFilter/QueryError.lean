import ColumnFilter.Dialect.Registry
import ColumnFilter.Sql.Template

/-!
# Errors of the query layer

What can go wrong between a condition and its database: no dialect has the id that is
asked for, the database cannot be asked about a pattern, or a condition has a parameter
that nothing binds.
-/

namespace ColumnFilter

/-- A probe that found no database to ask. -/
structure ProbeUnavailable where
  dialect : Dialect
  reason : String
  deriving DecidableEq, Repr

def ProbeUnavailable.message (error : ProbeUnavailable) : String :=
  error.dialect.name ++ " connection unavailable while validating pattern: " ++ error.reason

/-- What the query layer reports. -/
inductive QueryError where
  | unknownDialect (error : UnknownDialect)
  | unavailable (error : ProbeUnavailable)
  | unboundParameter (error : UnboundParameter)
  deriving DecidableEq, Repr

def QueryError.message : QueryError → String
  | .unknownDialect error => error.message
  | .unavailable error => error.message
  | .unboundParameter error => error.message

end ColumnFilter
