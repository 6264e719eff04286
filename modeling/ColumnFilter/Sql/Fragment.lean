import ColumnFilter.Sql.Condition
import ColumnFilter.Sql.Params

/-!
# Fragments and trees

A fragment is what one segment of an expression contributes: a condition with the
bindings that it needs.  A tree collects the fragments of a whole expression, a
choice between groups that must hold together.
-/

namespace ColumnFilter

/-- A condition and the values of its parameters. -/
structure Fragment where
  condition : Condition
  params : Params

namespace Fragment

/-- The fragment that restricts nothing. -/
def always : Fragment := ⟨.always, ∅⟩

def isAlways (fragment : Fragment) : Bool := fragment.condition.isAlways

end Fragment

/-- Alternatives, each a group of fragments that must hold together. -/
structure Tree where
  groups : List (List Fragment)
  inhabited : ∀ group ∈ groups, group ≠ []

namespace Tree

/-- The tree that filters nothing. -/
def empty : Tree := ⟨[], by simp⟩

/-- Adds an alternative; a group without fragments is left out. -/
def push (tree : Tree) (group : List Fragment) : Tree :=
  if vacant : group = [] then tree
  else
    { groups := tree.groups ++ [group]
      inhabited := by
        intro other member
        rcases List.mem_append.1 member with old | new
        · exact tree.inhabited other old
        · rw [List.mem_singleton.1 new]
          exact vacant }

/-- A tree of the given alternatives. -/
def ofGroups (groups : List (List Fragment)) : Tree := groups.foldl push empty

def isEmpty (tree : Tree) : Bool := tree.groups.isEmpty

/-- The bindings of all fragments, in the order in which they first appear. -/
def params (tree : Tree) : Params :=
  tree.groups.flatten.foldl (fun params fragment => params.extend fragment.params) ∅

def groupCondition (group : List Fragment) : Condition :=
  .conjoin (group.map Fragment.condition)

/-- The condition of the whole tree, if it restricts anything. -/
def condition (tree : Tree) : Option Condition :=
  if tree.groups.isEmpty then none
  else
    let combined := Condition.disjoin (tree.groups.map groupCondition)
    if combined.isAlways then none else some combined

end Tree

end ColumnFilter
