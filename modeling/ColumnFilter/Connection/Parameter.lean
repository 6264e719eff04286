import ColumnFilter.Connection.Numeric
import ColumnFilter.Text.Quoted
import ColumnFilter.Value

/-!
# Parameters of the drivers

Values in the form in which a driver sends them: MySQL takes decimals as text,
PostgreSQL as numbers of 96 bits.
-/

namespace ColumnFilter

inductive MySqlParameter where
  | int (n : Int64)
  | text (content : String)
  | null
  deriving DecidableEq, Repr

namespace MySqlParameter

def ofValue : Value → MySqlParameter
  | .int n => .int n
  | .decimal number => .text number.toText
  | .string content => .text content
  | .null => .null

end MySqlParameter

inductive PostgresParameter where
  | int (n : Int64)
  | numeric (number : Numeric)
  | text (content : String)
  | null

/-- A decimal that does not fit a parameter. -/
structure UnsupportedParameter where
  number : Decimal
  error : NumericError
  deriving DecidableEq, Repr

namespace UnsupportedParameter

def message (error : UnsupportedParameter) : String :=
  "Unsupported parameter value: " ++ error.number.toText ++ ": " ++ error.error.message

end UnsupportedParameter

namespace PostgresParameter

/-- The parameter that sends a value.  A decimal is written and read again. -/
def ofValue? (reader : NumericReader) : Value → Except UnsupportedParameter PostgresParameter
  | .int n => .ok (.int n)
  | .decimal number =>
      match reader.read? number.toText with
      | .ok carried => .ok (.numeric carried)
      | .error error => .error ⟨number, error⟩
  | .string content => .ok (.text content)
  | .null => .ok .null

/-- The parameters of some values, unless one of them does not fit. -/
def ofValues? (reader : NumericReader) :
    List Value → Except UnsupportedParameter (List PostgresParameter)
  | [] => .ok []
  | value :: values =>
      match ofValue? reader value with
      | .error error => .error error
      | .ok parameter => (ofValues? reader values).map (parameter :: ·)

/-- A parameter as it is shown to people. -/
def toText : PostgresParameter → String
  | .int n => toString n.toInt
  | .numeric number => number.toText
  | .text content => Text.quoted content
  | .null => "None"

end PostgresParameter

end ColumnFilter
