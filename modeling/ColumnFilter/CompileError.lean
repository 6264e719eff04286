import ColumnFilter.QueryError
import ColumnFilter.Settings.Error
import ColumnFilter.Strategy.Range

/-!
# Errors of compiling

Errors of the query layer are told apart by what the caller can do about them: an
unknown dialect is a mistake of the configuration, and a database that cannot be asked
about a pattern may answer the next time.
-/

namespace ColumnFilter

/-- Why an expression cannot be compiled. -/
inductive CompileError where
  /-- The configuration cannot be used, for this expression or any other. -/
  | configuration (error : ConfigurationError)
  /-- The database could not be asked about a pattern. -/
  | validation (error : QueryError)
  /-- Any other error of the query layer. -/
  | query (error : QueryError)
  /-- A form of a range was recognised without one of its numbers. -/
  | missingNumber (error : Range.MissingNumber)

namespace CompileError

/-- The kind of an error of the query layer. -/
def ofQueryError : QueryError → CompileError
  | .unknownDialect error => .configuration (.unknownDialect error)
  | .unavailable error => .validation (.unavailable error)
  | .unboundParameter error => .query (.unboundParameter error)

def message : CompileError → String
  | .configuration error => "Configuration error: " ++ error.message
  | .validation error => "Regex validation failed: " ++ error.message
  | .query error => "Query error: " ++ error.message
  | .missingNumber error => error.message

end CompileError

end ColumnFilter
