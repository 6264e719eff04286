/-!
# JSON values

The values that options of a strategy can have.  Whole numbers of 64 bits are kept
exactly; every other number is a float.
-/

namespace ColumnFilter

/-- A JSON value.  The fields of an object are in the order in which they are
written. -/
inductive Json where
  | null
  | bool (value : Bool)
  /-- A whole number that is not negative. -/
  | natural (n : UInt64)
  /-- A whole number below zero. -/
  | negative (n : Int64)
  | float (x : Float)
  | string (text : String)
  | array (items : List Json)
  | object (fields : List (String × Json))
  deriving Inhabited

namespace Json

/-- A whole number. -/
def ofInt (n : Int64) : Json := if n < 0 then .negative n else .natural n.toUInt64

/-- A list of pairs with one entry added: a known key keeps its place and takes the new
value, a new key comes last. -/
def assign {α : Type} (entries : List (String × α)) (key : String) (value : α) :
    List (String × α) :=
  match entries with
  | [] => [(key, value)]
  | (other, old) :: rest =>
      if other = key then (key, value) :: rest else (other, old) :: assign rest key value

/-- A list of pairs sorted by key, with one entry added or replaced. -/
def assignSorted {α : Type} (entries : List (String × α)) (key : String) (value : α) :
    List (String × α) :=
  match entries with
  | [] => [(key, value)]
  | (other, old) :: rest =>
      if key < other then (key, value) :: (other, old) :: rest
      else if other = key then (key, value) :: rest
      else (other, old) :: assignSorted rest key value

end Json

end ColumnFilter
