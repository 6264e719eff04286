import ColumnFilter.Dialect
import ColumnFilter.Text.Class

/-!
# Statement text

A condition is written in two steps.  Its template is text with a named hole for
every parameter; filling the holes in order gives the text with placeholders and
the list of their values.  The text around the holes never depends on the values.
-/

namespace ColumnFilter

/-- Text of a statement, or a hole for a named parameter. -/
inductive Slot where
  | text (content : String)
  | hole (name : String)
  deriving DecidableEq, Repr

/-- A statement with named holes. -/
abbrev Template := List Slot

namespace Template

/-- Templates one after the other, with a text between them. -/
def joined (separator : String) : List Template → Template
  | [] => []
  | [only] => only
  | first :: rest => first ++ .text separator :: joined separator rest

/-- The names of the holes, from left to right. -/
def holes : Template → List String
  | [] => []
  | .text _ :: rest => holes rest
  | .hole name :: rest => name :: holes rest

/-- Characters of a column name that needs no parentheses: an identifier, possibly
qualified or quoted. -/
def isPlainChar (c : Char) : Bool :=
  Text.isAlphanumeric c || "_.`\"[]".toList.contains c

/-- Is a column's name fit to stand by itself? -/
def isPlain (name : String) : Bool := !name.isEmpty && name.toList.all isPlainChar

/-- Members of a conjunction or disjunction: none is a constant, one stands for
itself, and several are put in parentheses. -/
def junction (separator empty : String) : List Template → Template
  | [] => [.text empty]
  | [only] => only
  | members => .text "(" :: joined separator members ++ [.text ")"]

mutual

def ofExpr (dialect : Dialect) : Expr → Template
  | .column name => if isPlain name then [.text name] else [.text "(", .text name, .text ")"]
  | .param name => [.hole name]
  | .literal text => [.text text]
  | .call function arguments =>
      .text function :: .text "(" ::
        joined ", " (ofExprs dialect arguments) ++ [.text ")"]
  | .cast operand type =>
      .text "CAST(" :: ofExpr dialect operand ++ [.text " AS ", .text type, .text ")"]
  | .tryCast operand type =>
      .text "TRY_CAST(" :: ofExpr dialect operand ++ [.text " AS ", .text type, .text ")"]
  | .choose condition consequent alternative =>
      .text "CASE WHEN " :: ofCondition dialect condition ++
        .text " THEN " :: ofExpr dialect consequent ++
        .text " ELSE " :: ofExpr dialect alternative ++ [.text " END"]

def ofExprs (dialect : Dialect) : List Expr → List Template
  | [] => []
  | item :: items => ofExpr dialect item :: ofExprs dialect items

def ofCondition (dialect : Dialect) : Condition → Template
  | .compare left operator right =>
      let clause := match dialect.likeEscape? with
        | some clause => if operator.isLike then [.text " ", .text clause] else []
        | none => []
      ofExpr dialect left ++ .text " " :: .text (dialect.operatorText operator) :: .text " " ::
        ofExpr dialect right ++ clause
  | .among operand values negated =>
      if values.isEmpty then [.text (if negated then "1 = 1" else "1 = 0")]
      else
        ofExpr dialect operand ++ .text (if negated then " NOT IN (" else " IN (") ::
          joined ", " (ofExprs dialect values) ++ [.text ")"]
  | .all members => junction " AND " "1 = 1" (ofConditions dialect members)
  | .any members => junction " OR " "1 = 0" (ofConditions dialect members)

def ofConditions (dialect : Dialect) : List Condition → List Template
  | [] => []
  | member :: members => ofCondition dialect member :: ofConditions dialect members

end

end Template

/-- A statement's text with placeholders, and their values in order. -/
structure Statement where
  sql : String
  values : List Value
  deriving DecidableEq, Repr

/-- A parameter of a condition that nothing binds. -/
structure UnboundParameter where
  name : String
  deriving DecidableEq, Repr

namespace UnboundParameter

def message (error : UnboundParameter) : String := "Unbound parameter: " ++ error.name

end UnboundParameter

namespace Template

/-- The values of the holes, or the first name that is not bound. -/
def values (params : Params) : Template → Except UnboundParameter (List Value)
  | [] => .ok []
  | .text _ :: rest => values params rest
  | .hole name :: rest =>
      match params.get? name with
      | none => .error ⟨name⟩
      | some value => (values params rest).map (value :: ·)

/-- The text with placeholders in the holes, numbered from `index` on. -/
def write (dialect : Dialect) (index : Nat) : Template → List String
  | [] => []
  | .text content :: rest => content :: write dialect index rest
  | .hole _ :: rest => dialect.placeholder index :: write dialect (index + 1) rest

def fill (template : Template) (dialect : Dialect) (params : Params) :
    Except UnboundParameter Statement :=
  (template.values params).map fun values =>
    ⟨String.join (template.write dialect 0), values⟩

end Template

def Expr.render (expression : Expr) (dialect : Dialect) (params : Params) :
    Except UnboundParameter Statement :=
  (Template.ofExpr dialect expression).fill dialect params

def Condition.render (condition : Condition) (dialect : Dialect) (params : Params) :
    Except UnboundParameter Statement :=
  (Template.ofCondition dialect condition).fill dialect params

/-- A tree as a statement's text; none if it restricts nothing. -/
def Tree.render (tree : Tree) (dialect : Dialect) : Except UnboundParameter (Option Statement) :=
  match tree.condition with
  | none => .ok none
  | some condition => (condition.render dialect tree.params).map some

end ColumnFilter
