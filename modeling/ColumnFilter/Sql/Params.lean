import ColumnFilter.Digest
import ColumnFilter.Value

/-!
# Bindings

The values that the named parameters of a condition stand for.  A name keeps the
value that it was first bound to, and names keep the order of their first binding.
-/

namespace ColumnFilter

/-- Values bound to distinct names, in the order in which the names were bound. -/
structure Params where
  entries : List (String × Value)
  distinct : (entries.map Prod.fst).Nodup

namespace Params

def empty : Params := ⟨[], List.nodup_nil⟩

instance : EmptyCollection Params := ⟨empty⟩

def names (params : Params) : List String := params.entries.map Prod.fst

def get? (params : Params) (name : String) : Option Value :=
  (params.entries.find? fun entry => entry.1 == name).map Prod.snd

def size (params : Params) : Nat := params.entries.length

/-- Binds a name, unless it is bound already. -/
def insert (params : Params) (name : String) (value : Value) : Params :=
  if fresh : name ∈ params.names then params
  else
    { entries := params.entries ++ [(name, value)]
      distinct := by
        rw [List.map_append, List.nodup_append]
        refine ⟨params.distinct, by simp, ?_⟩
        intro bound member other single
        simp only [List.map_cons, List.map_nil, List.mem_singleton] at single
        subst single
        intro equal
        exact fresh (equal ▸ member) }

/-- Binds the names of a list in turn. -/
def insertAll (params : Params) (entries : List (String × Value)) : Params :=
  entries.foldl (fun params entry => params.insert entry.1 entry.2) params

/-- Adds the bindings of `other` whose names are still free. -/
def extend (params other : Params) : Params := params.insertAll other.entries

/-- Bindings from a list, where the first one of a name counts. -/
def ofList (entries : List (String × Value)) : Params := empty.insertAll entries

def single (name : String) (value : Value) : Params := ofList [(name, value)]

/-- Do both bind the same names to the same values, in whatever order? -/
def same (left right : Params) : Bool :=
  left.size == right.size && left.entries.all fun entry =>
    match right.get? entry.1 with
    | some value => entry.2.same value
    | none => false

end Params

/-- The name of the parameter that binds a text for a column: the same text, column
and kind always give the same name. -/
def parameterName (kind content column : String) : String :=
  kind ++ Digest.ofString (content ++ column)

end ColumnFilter
