import ColumnFilter.Proofs.Sql.Truth
import ColumnFilter.Sql.Fragment

/-!
# The shape of conditions

A segment gives a flat condition: nothing at all, one comparison, or several
comparisons joined once.  A tree combines the conditions of its fragments, and the
combination means that all fragments of some group hold.
-/

namespace ColumnFilter

namespace Condition

/-- A comparison or a membership. -/
def IsLeaf : Condition → Prop
  | .compare _ _ _ => True
  | .among _ _ _ => True
  | .all _ => False
  | .any _ => False

/-- No restriction, one leaf, or two leaves at least that are joined once. -/
inductive Flat : Condition → Prop where
  | always : Flat .always
  | leaf {condition : Condition} (single : condition.IsLeaf) : Flat condition
  | all {members : List Condition} (several : 2 ≤ members.length)
      (leaves : ∀ member ∈ members, member.IsLeaf) : Flat (.all members)
  | any {members : List Condition} (several : 2 ≤ members.length)
      (leaves : ∀ member ∈ members, member.IsLeaf) : Flat (.any members)

/-- What is no conjunction is spliced into one as a whole. -/
theorem conjuncts_of_ne_all {condition : Condition}
    (single : ∀ inner, condition ≠ .all inner) : condition.conjuncts = [condition] := by
  cases condition with
  | all members => exact absurd rfl (single members)
  | compare left operator right => rfl
  | among operand values negated => rfl
  | any members => rfl

theorem disjuncts_of_ne_any {condition : Condition}
    (single : ∀ inner, condition ≠ .any inner) : condition.disjuncts = [condition] := by
  cases condition with
  | any members => exact absurd rfl (single members)
  | compare left operator right => rfl
  | among operand values negated => rfl
  | all members => rfl

namespace IsLeaf

theorem ne_all {condition : Condition} (leaf : condition.IsLeaf) (members : List Condition) :
    condition ≠ .all members := by
  rintro rfl
  exact leaf

theorem ne_any {condition : Condition} (leaf : condition.IsLeaf) (members : List Condition) :
    condition ≠ .any members := by
  rintro rfl
  exact leaf

theorem conjuncts_eq {condition : Condition} (leaf : condition.IsLeaf) :
    condition.conjuncts = [condition] :=
  conjuncts_of_ne_all leaf.ne_all

theorem disjuncts_eq {condition : Condition} (leaf : condition.IsLeaf) :
    condition.disjuncts = [condition] :=
  disjuncts_of_ne_any leaf.ne_any

theorem negate {condition : Condition} (leaf : condition.IsLeaf) :
    condition.negate.IsLeaf := by
  cases condition with
  | compare left operator right => trivial
  | among operand values negated => trivial
  | all members => exact leaf.elim
  | any members => exact leaf.elim

theorem isAlways_eq_false {condition : Condition} (leaf : condition.IsLeaf) :
    condition.isAlways = false := by
  cases condition with
  | compare left operator right => rfl
  | among operand values negated => rfl
  | all members => exact leaf.elim
  | any members => exact leaf.elim

end IsLeaf

theorem flatMap_conjuncts_of_leaves {conditions : List Condition}
    (leaves : ∀ condition ∈ conditions, condition.IsLeaf) :
    conditions.flatMap conjuncts = conditions := by
  induction conditions with
  | nil => rfl
  | cons condition conditions induction =>
      have here := (leaves condition List.mem_cons_self).conjuncts_eq
      have there := induction fun other member =>
        leaves other (List.mem_cons_of_mem condition member)
      rw [List.flatMap_cons, here, there]
      rfl

/-- Leaves joined together are flat, and restrict something if there are any. -/
theorem flat_conjoin {conditions : List Condition} (present : conditions ≠ [])
    (leaves : ∀ condition ∈ conditions, condition.IsLeaf) :
    (conjoin conditions).Flat ∧ (conjoin conditions).isAlways = false := by
  unfold conjoin
  rw [flatMap_conjuncts_of_leaves leaves]
  match conditions with
  | [] => exact absurd rfl present
  | [only] =>
      have leaf := leaves only List.mem_cons_self
      exact ⟨.leaf leaf, leaf.isAlways_eq_false⟩
  | first :: second :: others => exact ⟨.all (by simp) leaves, rfl⟩

namespace Flat

/-- A flat condition that restricts something is inverted to another one. -/
theorem negate {condition : Condition} (flat : condition.Flat)
    (restricts : condition.isAlways = false) :
    condition.negate.Flat ∧ condition.negate.isAlways = false := by
  cases flat with
  | always => simp [Condition.always, isAlways] at restricts
  | leaf single => exact ⟨.leaf single.negate, single.negate.isAlways_eq_false⟩
  | @all members several leaves =>
      rw [Condition.negate, negateList_eq_map]
      refine ⟨.any (by simpa using several) ?_, rfl⟩
      intro other found
      obtain ⟨member, inside, rfl⟩ := List.mem_map.mp found
      exact (leaves member inside).negate
  | @any members several leaves =>
      rw [Condition.negate, negateList_eq_map]
      constructor
      · refine .all (by simpa using several) ?_
        intro other found
        obtain ⟨member, inside, rfl⟩ := List.mem_map.mp found
        exact (leaves member inside).negate
      · cases members with
        | nil => simp at several
        | cons first others => rfl

theorem negateIf {condition : Condition} (flat : condition.Flat)
    (restricts : condition.isAlways = false) (wanted : Bool) :
    (condition.negateIf wanted).Flat ∧ (condition.negateIf wanted).isAlways = false := by
  cases wanted with
  | false => exact ⟨flat, restricts⟩
  | true => exact flat.negate restricts

end Flat

theorem conjuncts_eq_nil_iff {condition : Condition} :
    condition.conjuncts = [] ↔ condition.isAlways = true := by
  constructor
  · intro vacant
    cases condition <;> simp_all [conjuncts, isAlways]
  · intro plain
    rw [isAlways_iff.mp plain]
    rfl

end Condition

namespace Tree

def Flat (tree : Tree) : Prop :=
  ∀ group ∈ tree.groups, ∀ fragment ∈ group, fragment.condition.Flat

/-- A tree has a condition if it has alternatives and these restrict something
together. -/
theorem condition_eq_some_iff {tree : Tree} {condition : Condition} :
    tree.condition = some condition ↔
      tree.groups ≠ [] ∧ condition.isAlways = false ∧
        condition = .disjoin (tree.groups.map groupCondition) := by
  have vacant : tree.groups.isEmpty = true ↔ tree.groups = [] := List.isEmpty_iff
  unfold Tree.condition
  simp only [vacant]
  by_cases none : tree.groups = []
  · rw [if_pos none]
    simp [none]
  · rw [if_neg none]
    by_cases plain : (Condition.disjoin (List.map groupCondition tree.groups)).isAlways
    · rw [if_pos plain]
      simp only [reduceCtorEq, false_iff]
      rintro ⟨-, restricts, rfl⟩
      simp [plain] at restricts
    · rw [if_neg plain, Option.some.injEq]
      constructor
      · rintro rfl
        exact ⟨none, by simpa using plain, rfl⟩
      · exact fun combined => combined.2.2.symm

/-- The truth of a whole tree, read as alternatives of fragments that hold
together; an empty tree filters nothing. -/
def truth (row : Valuation) (tree : Tree) : Truth :=
  if tree.isEmpty then .yes
  else
    Truth.any (tree.groups.map fun group =>
      Truth.all (group.map fun fragment => fragment.condition.truth row))

/-- The combined condition means what the tree means. -/
theorem truth_condition (row : Valuation) (tree : Tree) :
    (tree.condition.elim .yes (Condition.truth row)) = tree.truth row := by
  unfold condition truth isEmpty
  split
  · rfl
  · have combined : (Condition.disjoin (tree.groups.map groupCondition)).truth row =
        Truth.any (tree.groups.map fun group =>
          Truth.all (group.map fun fragment => fragment.condition.truth row)) := by
      rw [Condition.truth_disjoin, List.map_map]
      congr 1
      apply List.map_congr_left
      intro group _
      simp only [Function.comp_apply, groupCondition, Condition.truth_conjoin,
        List.map_map]
      rfl
    rw [← combined]
    simp only
    by_cases plain : (Condition.disjoin (List.map groupCondition tree.groups)).isAlways
    · rw [if_pos plain, Condition.isAlways_iff.mp plain, Condition.truth_always]
      rfl
    · rw [if_neg plain]
      rfl

end Tree

end ColumnFilter
