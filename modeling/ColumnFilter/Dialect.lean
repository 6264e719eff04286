import ColumnFilter.Sql.Condition
import ColumnFilter.Sql.Fragment

/-!
# Dialects

Database engines spell the same condition differently.  This module holds all
that depends on the engine: placeholders, operators, the handling of missing
values, the safe conversion to numbers, and matching against a pattern.
-/

namespace ColumnFilter

inductive Dialect where
  | mySql
  | postgres
  /-- SQL Server before 2012. -/
  | sqlServer
  /-- SQL Server from 2012 on, which can try a cast. -/
  | sqlServer2012
  deriving DecidableEq, Repr

namespace Dialect

/-- The name shown to people. -/
def name : Dialect → String
  | .mySql => "MySQL"
  | .postgres => "PostgreSQL"
  | .sqlServer => "SQL Server"
  | .sqlServer2012 => "SQL Server 2012"

/-- The placeholder of the value at a position, counted from zero. -/
def placeholder : Dialect → Nat → String
  | .mySql, _ => "?"
  | .postgres, index => "$" ++ toString (index + 1)
  | .sqlServer, index => "@P" ++ toString (index + 1)
  | .sqlServer2012, index => "@P" ++ toString (index + 1)

/-- The spelling of an operator.  Text is matched without regard to case. -/
def operatorText : Dialect → Operator → String
  | .postgres, .like => "ILIKE"
  | .postgres, .notLike => "NOT ILIKE"
  | .postgres, .regexp => "~"
  | .postgres, .notRegexp => "!~"
  | _, operator => operator.toText

/-- The clause that makes a backslash the escape of wildcards, where there is no
such escape by default. -/
def likeEscape? : Dialect → Option String
  | .mySql => none
  | .postgres => none
  | .sqlServer => some "ESCAPE '\\'"
  | .sqlServer2012 => some "ESCAPE '\\'"

/-- The operand of a function that also takes a text: where arguments must agree in
type it is made a text itself. -/
def textual : Dialect → Expr → Expr
  | .postgres, operand => .cast operand "TEXT"
  | _, operand => operand

/-- The operand with a missing value read as an empty text. -/
def nullToEmpty (dialect : Dialect) (operand : Expr) : Expr :=
  .call "COALESCE" [dialect.textual operand, .text ""]

/-- The operand with an empty text read as a missing value. -/
def emptyToNull (dialect : Dialect) (operand : Expr) : Expr :=
  .call "NULLIF" [dialect.textual operand, .text ""]

/-- A numeric type with a number of digits, some of them behind the point. -/
def numericType (base : String) (digits places : UInt32) : String :=
  base ++ "(" ++ toString digits.toNat ++ ", " ++ toString places.toNat ++ ")"

/-- The pattern that a text has to match to be converted by MySQL. -/
def mySqlNumeral : String := "^-?[0-9]*[.]?[0-9]+$"

/-- The pattern that a text has to match to be converted by PostgreSQL. -/
def postgresNumeral : String := "^\\s*-?[0-9]*\\.?[0-9]+\\s*$"

/-- How long the part before the point may be in a text that PostgreSQL converts: a
digit for each that the type has there, and a sign.  The sum is one of 32 bits and wraps
around, as it does in an optimised build. -/
def wholeLength (digits places : UInt32) : UInt32 :=
  (if digits ≤ places then 0 else digits - places) + 1

/-- Does the operand look like a number that PostgreSQL can convert?  The length of
the part before the point is bounded, so that the conversion cannot overflow. -/
def postgresGuard (operand : Expr) (digits places : UInt32) : Condition :=
  let whole := Expr.call "SPLIT_PART" [.call "TRIM" [operand], .text ".", .literal "1"]
  .conjoin
    [.compare operand .regexp (.text postgresNumeral),
      .compare (.call "LENGTH" [whole]) .lessOrEqual
        (.literal (toString (wholeLength digits places).toNat))]

/-- Does the operand look like a number that SQL Server can convert?  The appended
exponent turns away what has one already. -/
def sqlServerGuard (operand : Expr) (digits : UInt32) : Condition :=
  .conjoin
    [.compare (.call "LEN" [operand]) .lessOrEqual (.literal (toString digits.toNat)),
      .compare (.call "ISNUMERIC" [.call "CONCAT" [operand, .text "e0"]]) .equal (.literal "1")]

/-- The operand as a number of so many digits, some of them behind the point.  What
does not look like a number becomes `fallback`, and no operand makes the
statement fail. -/
def toDecimal (dialect : Dialect) (operand : Expr) (digits places : UInt32)
    (fallback : Option Int) : Expr :=
  let type := numericType "DECIMAL" digits places
  match dialect with
  | .mySql =>
      if fallback = some 0 then .cast operand type
      else
        .choose (.compare operand .regexp (.text mySqlNumeral)) (.cast operand type)
          (.fallback fallback)
  | .postgres =>
      let asText := Expr.cast operand "TEXT"
      .choose (postgresGuard asText digits places)
        (.cast asText (numericType "NUMERIC" digits places)) (.fallback fallback)
  | .sqlServer =>
      .choose (sqlServerGuard operand digits) (.cast operand type) (.fallback fallback)
  | .sqlServer2012 =>
      match fallback with
      | some _ => .call "COALESCE" [.tryCast operand type, .fallback fallback]
      | none => .tryCast operand type

/-- The statement that tries a pattern, which is its only value. -/
def patternProbe : Dialect → String
  | .mySql => "SELECT '1' REGEXP ?"
  | .postgres => "SELECT '1' ~ $1"
  | .sqlServer => "SELECT PATINDEX(@P1, '1')"
  | .sqlServer2012 => "SELECT PATINDEX(@P1, '1')"

/-- The condition that an operand matches the pattern bound to `param`, or that it
does not.  SQL Server gives the position of the match instead, which is zero where
there is none. -/
def patternCondition (dialect : Dialect) (operand : Expr) (negated : Bool) (param : String) :
    Condition :=
  let matching := if negated then Operator.notRegexp else .regexp
  let position := Expr.call "PATINDEX" [.param param, operand]
  let found := if negated then Operator.equal else .greater
  match dialect with
  | .mySql => .compare operand matching (.param param)
  | .postgres => .compare (.cast operand "TEXT") matching (.param param)
  | .sqlServer => .compare position found (.literal "0")
  | .sqlServer2012 => .compare position found (.literal "0")

/-- `patternCondition` with the pattern bound. -/
def patternFragment (dialect : Dialect) (operand : Expr) (pattern : String) (negated : Bool)
    (param : String) : Fragment :=
  ⟨dialect.patternCondition operand negated param, .single param (.string pattern)⟩

end Dialect

end ColumnFilter
