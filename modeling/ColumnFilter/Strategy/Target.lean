import ColumnFilter.Connection

/-!
# What a strategy works on

A segment is compiled for a column in a dialect, and patterns may be tried on a live
connection first.
-/

namespace ColumnFilter

/-- The column that is filtered, and the database that it is in. -/
structure Target where
  /-- A column or an expression, as the caller wrote it. -/
  column : String
  dialect : Dialect
  connection : Option Connection

namespace Target

/-- The column as an operand; a missing value may count as an empty text. -/
def operand (target : Target) (nullAsEmpty : Bool) : Expr :=
  let column := Expr.column target.column
  if nullAsEmpty then target.dialect.nullToEmpty column else column

end Target

end ColumnFilter
