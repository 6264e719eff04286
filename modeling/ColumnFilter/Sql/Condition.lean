import ColumnFilter.Sql.Expr

/-!
# Combining conditions

Conjunction, disjunction and negation of conditions.  The combinators keep terms
flat: a conjunction inside a conjunction is spliced in, and one member stands for
itself.  Negation is pushed down to the comparisons.
-/

namespace ColumnFilter.Condition

/-- The condition that every row meets. -/
def always : Condition := .all []

/-- Is this the condition that every row meets, in its plain form? -/
def isAlways : Condition → Bool
  | .all [] => true
  | _ => false

/-- The members of a conjunction; any other condition is its own only member. -/
def conjuncts : Condition → List Condition
  | .all members => members
  | condition => [condition]

/-- The members of a disjunction; any other condition is its own only member. -/
def disjuncts : Condition → List Condition
  | .any members => members
  | condition => [condition]

/-- All of the conditions hold. -/
def conjoin (conditions : List Condition) : Condition :=
  match conditions.flatMap conjuncts with
  | [only] => only
  | members => .all members

/-- One of the conditions holds.  If one of them always holds, so does the result. -/
def disjoin (conditions : List Condition) : Condition :=
  if conditions.any isAlways then always
  else
    match conditions.flatMap disjuncts with
    | [only] => only
    | members => .any members

mutual

/-- The condition that holds where this one fails. -/
def negate : Condition → Condition
  | .compare left operator right => .compare left operator.inverse right
  | .among operand values negated => .among operand values !negated
  | .all members => .any (negateList members)
  | .any members => .all (negateList members)

def negateList : List Condition → List Condition
  | [] => []
  | member :: members => negate member :: negateList members

end

def negateIf (wanted : Bool) (condition : Condition) : Condition :=
  if wanted then condition.negate else condition

theorem negateList_eq_map (members : List Condition) :
    negateList members = members.map negate := by
  induction members with
  | nil => rfl
  | cons member members induction => simp [negateList, induction]

end ColumnFilter.Condition
