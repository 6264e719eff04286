import ColumnFilter.Json.Lexeme
import ColumnFilter.Json.Shortest
import ColumnFilter.Text.Quoted

/-!
# Problems with JSON texts

A text may be no JSON at all, or JSON of another shape than the one expected.
-/

namespace ColumnFilter.Json

/-- What stands where something else was expected. -/
inductive Found where
  | null
  | bool (value : Bool)
  | integer (n : Int)
  | float (x : Float)
  | string (text : String)
  | sequence
  | map

namespace Found

def toText : Found → String
  | .null => "null"
  | .bool value => "boolean \x60" ++ (if value then "true" else "false") ++ "\x60"
  | .integer n => "integer \x60" ++ toString n ++ "\x60"
  | .float x => "floating point \x60" ++ Shortest.ofFloat x ++ "\x60"
  | .string text => "string " ++ Text.quoted text
  | .sequence => "sequence"
  | .map => "map"

end Found

/-- How a value differs from the shape that was expected. -/
inductive ShapeError where
  | wrongType (found : Found) (expected : String)
  | wrongValue (found : Found) (expected : String)
  | unknownField (name : String) (known : List String)
  | duplicateField (name : String)
  | missingField (name : String)
  | tooShort (length : Nat) (expected : String)

namespace ShapeError

/-- The names to choose from. -/
def choices : List String → String
  | [] => "there are no fields"
  | [only] => "expected \x60" ++ only ++ "\x60"
  | [first, second] => "expected \x60" ++ first ++ "\x60 or \x60" ++ second ++ "\x60"
  | known =>
      "expected one of " ++
        String.intercalate ", " (known.map fun name => "\x60" ++ name ++ "\x60")

def message : ShapeError → String
  | .wrongType found expected =>
      "invalid type: " ++ found.toText ++ ", expected " ++ expected
  | .wrongValue found expected =>
      "invalid value: " ++ found.toText ++ ", expected " ++ expected
  | .unknownField name known => "unknown field \x60" ++ name ++ "\x60, " ++ choices known
  | .duplicateField name => "duplicate field \x60" ++ name ++ "\x60"
  | .missingField name => "missing field \x60" ++ name ++ "\x60"
  | .tooShort length expected =>
      "invalid length " ++ toString length ++ ", expected " ++ expected

end ShapeError

/-- Why a text cannot be read. -/
inductive Problem where
  | fault (fault : Fault)
  | shape (error : ShapeError)

end ColumnFilter.Json
