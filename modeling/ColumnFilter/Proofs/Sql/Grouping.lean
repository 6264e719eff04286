import Mathlib.Data.List.Basic
import ColumnFilter.Proofs.Sql.Normal
import ColumnFilter.Sql.Template

/-!
# Grouping of conditions

Whoever filters by several columns combines the conditions of their filters.  For
normal conditions it makes no difference which of them are combined first: the
result is the same term, whatever the nesting, and so are its text and its values.
-/

namespace ColumnFilter

namespace Condition

/-- Conditions that splice the same members are combined to the same conjunction. -/
theorem conjoin_congr {conditions others : List Condition}
    (same : conditions.flatMap conjuncts = others.flatMap conjuncts) :
    conjoin conditions = conjoin others := by
  rw [conjoin, conjoin, same]

theorem disjoin_congr {conditions others : List Condition}
    (unrestricted : conditions.any isAlways = others.any isAlways)
    (same : others.any isAlways = false →
      conditions.flatMap disjuncts = others.flatMap disjuncts) :
    disjoin conditions = disjoin others := by
  unfold disjoin
  rw [unrestricted]
  by_cases found : others.any isAlways
  · rw [if_pos found, if_pos found]
  · rw [if_neg found, if_neg found, same (by simpa using found)]

variable {conditions : List Condition}

/-- A conjunction of normal conditions is spliced again as it was put together. -/
theorem conjuncts_conjoin (normal : ∀ condition ∈ conditions, condition.Normal) :
    (conjoin conditions).conjuncts = conditions.flatMap conjuncts := by
  have parts := of_mem_flatMap_conjuncts normal
  unfold conjoin
  match spliced : conditions.flatMap conjuncts with
  | [] => rfl
  | [only] => exact conjuncts_of_ne_all (parts only (by simp [spliced])).2
  | first :: second :: others => rfl

/-- A disjunction of normal conditions is spliced again as it was put together, if it
restricts anything. -/
theorem disjuncts_disjoin (normal : ∀ condition ∈ conditions, condition.Normal)
    (restrict : conditions.any isAlways = false) :
    (disjoin conditions).disjuncts = conditions.flatMap disjuncts := by
  have parts := of_mem_flatMap_disjuncts normal restrict
  unfold disjoin
  simp only [restrict, Bool.false_eq_true, if_false]
  match spliced : conditions.flatMap disjuncts with
  | [] => rfl
  | [only] => exact disjuncts_of_ne_any (parts only (by simp [spliced])).2
  | first :: second :: others => rfl

/-- A way to combine conditions that does not change a normal condition, and for which
it is all the same whether normal conditions are combined group by group. -/
structure Regroups (join : List Condition → Condition) : Prop where
  single : ∀ condition : Condition, condition.Normal → join [condition] = condition
  groups : ∀ groups : List (List Condition),
    (∀ group ∈ groups, ∀ condition ∈ group, condition.Normal) →
    join (groups.map join) = join groups.flatten

theorem regroups_conjoin : Regroups conjoin where
  single condition normal := by
    rcases normal with rfl | reduced
    · rfl
    · cases reduced with
      | leaf single => simp [conjoin, single.conjuncts_eq]
      | @all members several _ _ =>
          match members, several with
          | first :: second :: others, _ => simp [conjoin, conjuncts]
      | any several _ _ => rfl
  groups groups normal := by
    apply conjoin_congr
    rw [List.flatMap_map, List.flatten_eq_flatMap, List.flatMap_assoc]
    exact List.flatMap_congr fun group member => conjuncts_conjoin (normal group member)

theorem regroups_disjoin : Regroups disjoin where
  single condition normal := by
    rcases normal with rfl | reduced
    · rfl
    · have restricts := reduced.isAlways_eq_false
      cases reduced with
      | leaf single => simp [disjoin, single.disjuncts_eq, restricts]
      | @any members several _ _ =>
          match members, several with
          | first :: second :: others, _ => simp [disjoin, disjuncts, restricts]
      | all several _ _ => simp [disjoin, disjuncts, restricts]
  groups groups normal := by
    apply disjoin_congr
    · rw [List.any_map, List.any_flatten, Bool.eq_iff_iff, List.any_eq_true, List.any_eq_true]
      refine exists_congr fun group => and_congr_right fun member => ?_
      rw [Function.comp_apply, isAlways_disjoin (normal group member)]
    · intro restrict
      rw [List.any_flatten, List.any_eq_false] at restrict
      rw [List.flatMap_map, List.flatten_eq_flatMap, List.flatMap_assoc]
      exact List.flatMap_congr fun group member =>
        disjuncts_disjoin (normal group member) (by simpa using restrict group member)

end Condition

/-- Conditions in the nested groups in which they are combined. -/
inductive Grouping where
  | single (condition : Condition)
  | group (parts : List Grouping)

namespace Grouping

mutual

/-- The conditions of all groups, from left to right. -/
def conditions : Grouping → List Condition
  | .single condition => [condition]
  | .group parts => conditionsAll parts

def conditionsAll : List Grouping → List Condition
  | [] => []
  | part :: parts => part.conditions ++ conditionsAll parts

end

mutual

/-- The conditions combined group by group, the innermost groups first. -/
def combine (join : List Condition → Condition) : Grouping → Condition
  | .single condition => condition
  | .group parts => join (combineAll join parts)

def combineAll (join : List Condition → Condition) : List Grouping → List Condition
  | [] => []
  | part :: parts => part.combine join :: combineAll join parts

end

theorem conditionsAll_eq_flatten (parts : List Grouping) :
    conditionsAll parts = (parts.map conditions).flatten := by
  induction parts with
  | nil => rfl
  | cons part parts induction => rw [conditionsAll, induction, List.map_cons, List.flatten_cons]

variable {join : List Condition → Condition}

mutual

/-- However normal conditions are grouped, they are combined as in one group. -/
theorem combine_eq (regroups : Condition.Regroups join) (grouping : Grouping)
    (normal : ∀ condition ∈ grouping.conditions, condition.Normal) :
    grouping.combine join = join grouping.conditions := by
  cases grouping with
  | single condition =>
      exact (regroups.single condition (normal condition (List.mem_singleton_self _))).symm
  | group parts =>
      rw [conditions, conditionsAll_eq_flatten] at normal
      have inner : ∀ group ∈ parts.map conditions, ∀ condition ∈ group, condition.Normal :=
        fun group listed condition member =>
          normal condition (List.mem_flatten.mpr ⟨group, listed, member⟩)
      rw [combine, combineAll_eq regroups parts inner, regroups.groups _ inner, conditions,
        conditionsAll_eq_flatten]

theorem combineAll_eq (regroups : Condition.Regroups join) (parts : List Grouping)
    (normal : ∀ group ∈ parts.map conditions, ∀ condition ∈ group, condition.Normal) :
    combineAll join parts = (parts.map conditions).map join := by
  cases parts with
  | nil => rfl
  | cons part parts =>
      rw [List.map_cons, List.forall_mem_cons] at normal
      rw [combineAll, combine_eq regroups part normal.1, combineAll_eq regroups parts normal.2,
        List.map_cons, List.map_cons]

end

end Grouping

namespace Condition

/-- Normal conditions combined in two lists, and the two results combined, are the
same term as all of them combined at once.  So the text and the values of their
combination do not depend on the groups in which they are combined. -/
theorem join_append (conditions others : List Condition)
    (normal : ∀ condition ∈ conditions, condition.Normal)
    (normal' : ∀ condition ∈ others, condition.Normal) :
    conjoin [conjoin conditions, conjoin others] = conjoin (conditions ++ others) ∧
    disjoin [disjoin conditions, disjoin others] = disjoin (conditions ++ others) ∧
    ∀ first second : Grouping, first.conditions = conditions ++ others →
      second.conditions = conditions ++ others → ∀ (dialect : Dialect) (params : Params),
        (first.combine conjoin).render dialect params =
          (second.combine conjoin).render dialect params ∧
        (first.combine disjoin).render dialect params =
          (second.combine disjoin).render dialect params := by
  have normalBoth : ∀ group ∈ [conditions, others], ∀ condition ∈ group, condition.Normal := by
    simpa using ⟨normal, normal'⟩
  have normalAll : ∀ condition ∈ conditions ++ others, condition.Normal :=
    List.forall_mem_append.mpr ⟨normal, normal'⟩
  refine ⟨?_, ?_, ?_⟩
  · simpa using regroups_conjoin.groups [conditions, others] normalBoth
  · simpa using regroups_disjoin.groups [conditions, others] normalBoth
  · intro first second firstAll secondAll dialect params
    have combined : ∀ {join : List Condition → Condition}, Regroups join →
        first.combine join = second.combine join := by
      intro join regroups
      rw [Grouping.combine_eq regroups first (firstAll ▸ normalAll),
        Grouping.combine_eq regroups second (secondAll ▸ normalAll), firstAll, secondAll]
    rw [combined regroups_conjoin, combined regroups_disjoin]
    exact ⟨rfl, rfl⟩

/-- A conjunction and a comparison next to an empty list, and the statement that two
ways to group them share. -/
theorem join_append_nil :
    let leaf (name : String) : Condition := .compare (.column name) .equal (.param name)
    let pair : Condition := .all [leaf "a", leaf "b"]
    let first : Grouping := .group [.group [.single pair], .single (leaf "c")]
    let second : Grouping := .group [.single pair, .group [.group [], .single (leaf "c")]]
    let params := Params.ofList [("a", .string "x"), ("b", .null), ("c", .string "y")]
    let statement : Statement :=
      ⟨"((a = $1 AND b = $2) OR c = $3)", [.string "x", .null, .string "y"]⟩
    (∀ condition ∈ [pair, leaf "c"], condition.Normal) ∧
    conjoin [conjoin [pair, leaf "c"], conjoin []] = .all [leaf "a", leaf "b", leaf "c"] ∧
    disjoin [disjoin [pair, leaf "c"], disjoin []] = .any [pair, leaf "c"] ∧
    (first.combine disjoin).render .postgres params = .ok statement ∧
    (second.combine disjoin).render .postgres params = .ok statement := by
  intro leaf pair first second params statement
  have leaves : ∀ name, (leaf name).IsLeaf := fun _ => trivial
  have normalPair : pair.Normal := by
    apply Flat.normal
    apply Flat.all (by decide)
    simpa using ⟨leaves "a", leaves "b"⟩
  have normal : ∀ condition ∈ [pair, leaf "c"], condition.Normal := by
    simpa using ⟨normalPair, (Flat.leaf (leaves "c")).normal⟩
  obtain ⟨conjoined, disjoined, grouped⟩ := join_append [pair, leaf "c"] [] normal (by simp)
  have written : (first.combine disjoin).render .postgres params = .ok statement := by
    decide +kernel
  have same := (grouped first second rfl rfl .postgres params).2
  exact ⟨normal, conjoined, disjoined, written, same.symm.trans written⟩

end Condition

end ColumnFilter
