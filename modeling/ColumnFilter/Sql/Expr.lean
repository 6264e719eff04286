import ColumnFilter.Value

/-!
# Expressions and conditions

The part of a statement that a filter is made of: scalar expressions over one
column, and conditions on them.  Conditions have no negation of their own; every
operator has an inverse instead.
-/

namespace ColumnFilter

/-- How a condition compares two expressions. -/
inductive Operator where
  | equal
  | notEqual
  | less
  | lessOrEqual
  | greater
  | greaterOrEqual
  | like
  | notLike
  | regexp
  | notRegexp
  deriving DecidableEq, Repr

namespace Operator

/-- The operator that holds exactly when this one does not. -/
def inverse : Operator → Operator
  | .equal => .notEqual
  | .notEqual => .equal
  | .less => .greaterOrEqual
  | .lessOrEqual => .greater
  | .greater => .lessOrEqual
  | .greaterOrEqual => .less
  | .like => .notLike
  | .notLike => .like
  | .regexp => .notRegexp
  | .notRegexp => .regexp

/-- The usual spelling. -/
def toText : Operator → String
  | .equal => "="
  | .notEqual => "<>"
  | .less => "<"
  | .lessOrEqual => "<="
  | .greater => ">"
  | .greaterOrEqual => ">="
  | .like => "LIKE"
  | .notLike => "NOT LIKE"
  | .regexp => "REGEXP"
  | .notRegexp => "NOT REGEXP"

/-- Does the operator match a pattern with wildcards? -/
def isLike : Operator → Bool
  | .like => true
  | .notLike => true
  | _ => false

def all : List Operator :=
  [.equal, .notEqual, .less, .lessOrEqual, .greater, .greaterOrEqual, .like, .notLike, .regexp,
    .notRegexp]

theorem inverse_inverse (operator : Operator) : operator.inverse.inverse = operator := by
  cases operator <;> rfl

end Operator

mutual

/-- A scalar expression. -/
inductive Expr where
  /-- A column, as the caller wrote it. -/
  | column (name : String)
  /-- A value that is bound by name. -/
  | param (name : String)
  /-- Text that is part of the statement. -/
  | literal (text : String)
  | call (function : String) (arguments : List Expr)
  | cast (operand : Expr) (type : String)
  | tryCast (operand : Expr) (type : String)
  /-- One expression where a condition holds, and another elsewhere. -/
  | choose (condition : Condition) (consequent alternative : Expr)

/-- A condition on rows. -/
inductive Condition where
  | compare (left : Expr) (operator : Operator) (right : Expr)
  /-- Membership in a list of values, or its opposite. -/
  | among (operand : Expr) (values : List Expr) (negated : Bool)
  /-- All of them hold; of none, that is true. -/
  | all (conditions : List Condition)
  /-- One of them holds; of none, that is false. -/
  | any (conditions : List Condition)

end

namespace Expr

def text (content : String) : Expr := .literal (Value.quote content)

/-- The missing value. -/
def null : Expr := .literal "NULL"

/-- An integer, or the missing value. -/
def fallback : Option Int → Expr
  | some n => .literal (toString n)
  | none => null

end Expr

mutual

/-- Are two expressions the same term? -/
def Expr.same : Expr → Expr → Bool
  | .column left, .column right => left == right
  | .param left, .param right => left == right
  | .literal left, .literal right => left == right
  | .call left leftItems, .call right rightItems =>
      left == right && Expr.sameList leftItems rightItems
  | .cast left leftType, .cast right rightType => Expr.same left right && leftType == rightType
  | .tryCast left leftType, .tryCast right rightType =>
      Expr.same left right && leftType == rightType
  | .choose left leftThen leftElse, .choose right rightThen rightElse =>
      Condition.same left right && Expr.same leftThen rightThen && Expr.same leftElse rightElse
  | _, _ => false

def Expr.sameList : List Expr → List Expr → Bool
  | [], [] => true
  | left :: leftItems, right :: rightItems =>
      Expr.same left right && Expr.sameList leftItems rightItems
  | _, _ => false

/-- Are two conditions the same term? -/
def Condition.same : Condition → Condition → Bool
  | .compare left operator right, .compare left' operator' right' =>
      Expr.same left left' && operator == operator' && Expr.same right right'
  | .among left leftValues leftNegated, .among right rightValues rightNegated =>
      Expr.same left right && Expr.sameList leftValues rightValues && leftNegated == rightNegated
  | .all left, .all right => Condition.sameList left right
  | .any left, .any right => Condition.sameList left right
  | _, _ => false

def Condition.sameList : List Condition → List Condition → Bool
  | [], [] => true
  | left :: leftItems, right :: rightItems =>
      Condition.same left right && Condition.sameList leftItems rightItems
  | _, _ => false

end

end ColumnFilter
