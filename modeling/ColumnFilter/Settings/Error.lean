import ColumnFilter.Dialect.Registry
import ColumnFilter.Json.Problem
import ColumnFilter.Regex.Pattern

/-!
# Errors of the configuration

What can be wrong with a configuration before any expression is looked at.
-/

namespace ColumnFilter

/-- Why options are no options of a strategy. -/
inductive OptionError where
  | shape (error : Json.ShapeError)
  | pattern (error : PatternError)

namespace OptionError

/-- What the caller is told; the ways in which a pattern can fail are not told apart. -/
def message : OptionError → String
  | .shape error => error.message
  | .pattern _ => "<regex error>"

end OptionError

/-- Why a configuration cannot be used. -/
inductive ConfigurationError where
  | unknownDialect (error : UnknownDialect)
  | unsupportedDriver (driver : String)
  | missingDialect
  | unknownStrategyKind (name kind : String)
  | invalidOptions (name : String) (error : OptionError)

namespace ConfigurationError

def message : ConfigurationError → String
  | .unknownDialect error => error.message
  | .unsupportedDriver driver => "No dialect available for driver '" ++ driver ++ "'"
  | .missingDialect => "No dialect configured and no connection to infer one from"
  | .unknownStrategyKind name kind =>
      "Filter '" ++ name ++ "' uses unknown strategy kind '" ++ kind ++ "'"
  | .invalidOptions name error =>
      "Invalid options for filter '" ++ name ++ "': " ++ error.message

end ConfigurationError

end ColumnFilter
