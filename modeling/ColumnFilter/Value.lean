import ColumnFilter.Decimal
import ColumnFilter.Text.Trim

/-!
# Values

What a placeholder of a statement can be bound to.
-/

namespace ColumnFilter

/-- A bound value: a 64-bit integer, an exact decimal, a text, or nothing. -/
inductive Value where
  | int (n : Int64)
  | decimal (number : Decimal)
  | string (text : String)
  | null
  deriving DecidableEq, Repr

namespace Value

/-- A number literal with a zero in front of a leading point. -/
def withLeadingZero : List Char → List Char
  | '-' :: '.' :: rest => '-' :: '0' :: '.' :: rest
  | '.' :: rest => '0' :: '.' :: rest
  | text => text

/-- The value of a number as it was typed: a decimal if it reads as one, and
otherwise the trimmed text itself. -/
def ofNumberLiteral (literal : String) : Value :=
  let text := Text.trim literal.toList
  match Decimal.read? (withLeadingZero text) with
  | some number => .decimal number
  | none => .string (String.ofList text)

/-- Two values are the same when they are of one kind and agree; decimals agree as
numbers. -/
def same : Value → Value → Bool
  | .int left, .int right => left == right
  | .decimal left, .decimal right => left.sameNumber right
  | .string left, .string right => left == right
  | .null, .null => true
  | _, _ => false

/-- A text between single quotes, with single quotes inside written twice. -/
def quote (text : String) : String :=
  String.ofList <|
    '\'' :: text.toList.flatMap (fun c => if c = '\'' then ['\'', '\''] else [c]) ++ ['\'']

def toLiteral : Value → String
  | .int n => toString n.toInt
  | .decimal number => number.toText
  | .string text => quote text
  | .null => "NULL"

end Value

end ColumnFilter
