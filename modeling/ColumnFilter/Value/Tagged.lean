import ColumnFilter.Json.Basic
import ColumnFilter.Value

/-!
# Values as JSON

A value is written as an object with one field, which tells its kind.
-/

namespace ColumnFilter.Value

/-- The value with the name of its kind. -/
def toJson : Value → Json
  | .int n => .object [("Int", .ofInt n)]
  | .decimal number => .object [("Decimal", .string number.toText)]
  | .string text => .object [("String", .string text)]
  | .null => .string "Null"

end ColumnFilter.Value
