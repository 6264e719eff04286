import ColumnFilter.Proofs.Sql.Shape

/-!
# Normal forms

The combinators splice a junction into a junction of its own kind one layer deep,
and they look for a condition without restriction among the direct members only.
That is enough for conditions that are spliced at every depth already.  Such
conditions are closed under the combinators and under negation, and the only one
that holds in every row is the plain form.
-/

namespace ColumnFilter

namespace Condition

/-- Every junction in the condition has two members at least, and none of its own
kind. -/
inductive Reduced : Condition → Prop where
  | leaf {condition : Condition} (single : condition.IsLeaf) : Reduced condition
  | all {members : List Condition} (several : 2 ≤ members.length)
      (reduced : ∀ member ∈ members, Reduced member)
      (mixed : ∀ member ∈ members, ∀ inner, member ≠ .all inner) : Reduced (.all members)
  | any {members : List Condition} (several : 2 ≤ members.length)
      (reduced : ∀ member ∈ members, Reduced member)
      (mixed : ∀ member ∈ members, ∀ inner, member ≠ .any inner) : Reduced (.any members)

/-- The plain form of no restriction, or spliced at every depth. -/
def Normal (condition : Condition) : Prop := condition = .always ∨ condition.Reduced

theorem Flat.normal {condition : Condition} (flat : condition.Flat) : condition.Normal := by
  cases flat with
  | always => exact .inl rfl
  | leaf single => exact .inr (.leaf single)
  | all several leaves =>
      exact .inr (.all several (fun member inside => .leaf (leaves member inside))
        fun member inside => (leaves member inside).ne_all)
  | any several leaves =>
      exact .inr (.any several (fun member inside => .leaf (leaves member inside))
        fun member inside => (leaves member inside).ne_any)

theorem negate_ne_any {condition : Condition} (single : ∀ inner, condition ≠ .all inner)
    (inner : List Condition) : condition.negate ≠ .any inner := by
  cases condition with
  | all members => exact absurd rfl (single members)
  | compare left operator right => simp [negate]
  | among operand values negated => simp [negate]
  | any members => simp [negate]

theorem negate_ne_all {condition : Condition} (single : ∀ inner, condition ≠ .any inner)
    (inner : List Condition) : condition.negate ≠ .all inner := by
  cases condition with
  | any members => exact absurd rfl (single members)
  | compare left operator right => simp [negate]
  | among operand values negated => simp [negate]
  | all members => simp [negate]

namespace Reduced

theorem isAlways_eq_false {condition : Condition} (reduced : condition.Reduced) :
    condition.isAlways = false := by
  cases reduced with
  | leaf single => exact single.isAlways_eq_false
  | @all members several _ _ =>
      cases members with
      | nil => simp at several
      | cons first others => rfl
  | any several _ _ => rfl

theorem disjuncts_ne_nil {condition : Condition} (reduced : condition.Reduced) :
    condition.disjuncts ≠ [] := by
  cases reduced with
  | leaf single => simp [single.disjuncts_eq]
  | all several _ _ => simp [disjuncts]
  | any several _ _ => exact List.ne_nil_of_length_pos (Nat.lt_of_lt_of_le Nat.two_pos several)

/-- What a reduced condition adds to a conjunction is reduced and is spliced in
completely. -/
theorem of_mem_conjuncts {condition conjunct : Condition} (reduced : condition.Reduced)
    (part : conjunct ∈ condition.conjuncts) :
    conjunct.Reduced ∧ ∀ inner, conjunct ≠ .all inner := by
  cases reduced with
  | leaf single =>
      rw [single.conjuncts_eq, List.mem_singleton] at part
      exact part ▸ ⟨.leaf single, single.ne_all⟩
  | all several members mixed => exact ⟨members conjunct part, mixed conjunct part⟩
  | any several members mixed =>
      obtain rfl := List.mem_singleton.mp part
      exact ⟨.any several members mixed, by simp⟩

theorem of_mem_disjuncts {condition disjunct : Condition} (reduced : condition.Reduced)
    (part : disjunct ∈ condition.disjuncts) :
    disjunct.Reduced ∧ ∀ inner, disjunct ≠ .any inner := by
  cases reduced with
  | leaf single =>
      rw [single.disjuncts_eq, List.mem_singleton] at part
      exact part ▸ ⟨.leaf single, single.ne_any⟩
  | any several members mixed => exact ⟨members disjunct part, mixed disjunct part⟩
  | all several members mixed =>
      obtain rfl := List.mem_singleton.mp part
      exact ⟨.all several members mixed, by simp⟩

/-- Negation exchanges the kinds of all junctions at once. -/
theorem negate {condition : Condition} (reduced : condition.Reduced) :
    condition.negate.Reduced := by
  induction reduced with
  | leaf single => exact .leaf single.negate
  | @all members several _ mixed induction =>
      rw [Condition.negate, negateList_eq_map]
      refine .any (by simpa using several) ?_ ?_
      · intro other found
        obtain ⟨member, inside, rfl⟩ := List.mem_map.mp found
        exact induction member inside
      · intro other found inner
        obtain ⟨member, inside, rfl⟩ := List.mem_map.mp found
        exact negate_ne_any (mixed member inside) inner
  | @any members several _ mixed induction =>
      rw [Condition.negate, negateList_eq_map]
      refine .all (by simpa using several) ?_ ?_
      · intro other found
        obtain ⟨member, inside, rfl⟩ := List.mem_map.mp found
        exact induction member inside
      · intro other found inner
        obtain ⟨member, inside, rfl⟩ := List.mem_map.mp found
        exact negate_ne_all (mixed member inside) inner

end Reduced

namespace Normal

theorem reduced {condition : Condition} (normal : condition.Normal)
    (restricts : condition ≠ .always) : condition.Reduced :=
  normal.resolve_left restricts

theorem negate {condition : Condition} (normal : condition.Normal)
    (restricts : condition ≠ .always) : condition.negate.Normal :=
  .inr (normal.reduced restricts).negate

theorem of_mem_conjuncts {condition conjunct : Condition} (normal : condition.Normal)
    (part : conjunct ∈ condition.conjuncts) :
    conjunct.Reduced ∧ ∀ inner, conjunct ≠ .all inner := by
  rcases normal with rfl | reduced
  · simp [always, conjuncts] at part
  · exact reduced.of_mem_conjuncts part

end Normal

variable {conditions : List Condition}

/-- What is spliced into a conjunction of normal conditions. -/
theorem of_mem_flatMap_conjuncts (normal : ∀ condition ∈ conditions, condition.Normal) :
    ∀ conjunct ∈ conditions.flatMap conjuncts,
      conjunct.Reduced ∧ ∀ inner, conjunct ≠ .all inner := by
  intro conjunct found
  obtain ⟨condition, member, part⟩ := List.mem_flatMap.mp found
  exact (normal condition member).of_mem_conjuncts part

/-- What is spliced into a disjunction of normal conditions, if all of them restrict
something. -/
theorem of_mem_flatMap_disjuncts (normal : ∀ condition ∈ conditions, condition.Normal)
    (restrict : conditions.any isAlways = false) :
    ∀ disjunct ∈ conditions.flatMap disjuncts,
      disjunct.Reduced ∧ ∀ inner, disjunct ≠ .any inner := by
  intro disjunct found
  obtain ⟨condition, member, part⟩ := List.mem_flatMap.mp found
  have restricts : condition ≠ .always := by
    intro plain
    have none := List.any_eq_false.mp restrict condition member
    exact none (isAlways_iff.mpr plain)
  exact ((normal condition member).reduced restricts).of_mem_disjuncts part

/-- A conjunction restricts nothing exactly when no member does. -/
theorem isAlways_conjoin_iff (normal : ∀ condition ∈ conditions, condition.Normal) :
    (conjoin conditions).isAlways = true ↔
      ∀ condition ∈ conditions, condition.isAlways = true := by
  have parts := of_mem_flatMap_conjuncts normal
  have vacant_iff : conditions.flatMap conjuncts = [] ↔
      ∀ condition ∈ conditions, condition.isAlways = true := by
    simp only [List.flatMap_eq_nil_iff, conjuncts_eq_nil_iff]
  rw [← vacant_iff]
  unfold conjoin
  match spliced : conditions.flatMap conjuncts with
  | [] => simp [isAlways]
  | [only] => simp [(parts only (by simp [spliced])).1.isAlways_eq_false]
  | first :: second :: others => simp [isAlways]

/-- A disjunction restricts nothing exactly when some member does not. -/
theorem isAlways_disjoin (normal : ∀ condition ∈ conditions, condition.Normal) :
    (disjoin conditions).isAlways = conditions.any isAlways := by
  unfold disjoin
  by_cases found : conditions.any isAlways
  · rw [if_pos found, found]
    rfl
  · rw [if_neg found]
    have restrict : conditions.any isAlways = false := by simpa using found
    have parts := of_mem_flatMap_disjuncts normal restrict
    rw [restrict]
    match spliced : conditions.flatMap disjuncts with
    | [] => rfl
    | [only] => exact (parts only (by simp [spliced])).1.isAlways_eq_false
    | first :: second :: others => rfl

theorem normal_conjoin (normal : ∀ condition ∈ conditions, condition.Normal) :
    (conjoin conditions).Normal := by
  have parts := of_mem_flatMap_conjuncts normal
  unfold conjoin
  match spliced : conditions.flatMap conjuncts with
  | [] => exact .inl rfl
  | [only] => exact .inr (parts only (by simp [spliced])).1
  | first :: second :: others =>
      rw [spliced] at parts
      exact .inr (.all (by simp) (fun member inside => (parts member inside).1)
        fun member inside => (parts member inside).2)

/-- The disjunction of no condition fails in every row and is not normal. -/
theorem normal_disjoin (present : conditions ≠ [])
    (normal : ∀ condition ∈ conditions, condition.Normal) :
    (disjoin conditions).Normal := by
  unfold disjoin
  by_cases missing : conditions.any isAlways
  · rw [if_pos missing]
    exact .inl rfl
  · rw [if_neg missing]
    have restrict : conditions.any isAlways = false := by simpa using missing
    have parts := of_mem_flatMap_disjuncts normal restrict
    match spliced : conditions.flatMap disjuncts with
    | [] =>
        obtain ⟨condition, member⟩ := List.exists_mem_of_ne_nil conditions present
        have vacant := List.flatMap_eq_nil_iff.mp spliced condition member
        rcases normal condition member with rfl | reduced
        · exact absurd vacant (by simp [always, disjuncts])
        · exact absurd vacant reduced.disjuncts_ne_nil
    | [only] => exact .inr (parts only (by simp [spliced])).1
    | first :: second :: others =>
        rw [spliced] at parts
        exact .inr (.any (by simp) (fun member inside => (parts member inside).1)
          fun member inside => (parts member inside).2)

theorem leavesList_eq_flatMap (members : List Condition) :
    leavesList members = members.flatMap leaves := by
  induction members with
  | nil => rfl
  | cons member members induction => rw [leavesList, induction, List.flatMap_cons]

/-- Junctions of members only add to the leaves that make them true: where no leaf
holds, no reduced condition does. -/
theorem Reduced.truth_ne_yes {row : Valuation} {condition : Condition}
    (reduced : condition.Reduced) (fails : ∀ leaf ∈ condition.leaves, leaf.truth row ≠ .yes) :
    condition.truth row ≠ .yes := by
  induction reduced with
  | @leaf condition single =>
      apply fails condition
      cases condition with
      | compare left operator right => exact List.mem_singleton_self _
      | among operand values negated => exact List.mem_singleton_self _
      | all members => exact single.elim
      | any members => exact single.elim
  | @all members several _ _ induction =>
      rw [leaves, leavesList_eq_flatMap] at fails
      have failing : ∀ member ∈ members, member.truth row ≠ .yes := fun member inside =>
        induction member inside fun leaf part =>
          fails leaf (List.mem_flatMap.mpr ⟨member, inside, part⟩)
      obtain ⟨first, inside⟩ :=
        List.exists_mem_of_length_pos (Nat.lt_of_lt_of_le Nat.two_pos several)
      rw [truth_all, Ne, Truth.all_eq_yes_iff]
      exact fun holds => failing first inside (holds _ (List.mem_map_of_mem inside))
  | @any members _ _ _ induction =>
      rw [leaves, leavesList_eq_flatMap] at fails
      rw [truth_any, Ne, Truth.any_eq_yes_iff, List.mem_map]
      rintro ⟨member, inside, holds⟩
      exact induction member inside
        (fun leaf part => fails leaf (List.mem_flatMap.mpr ⟨member, inside, part⟩)) holds

/-- Among these rows, different leaves of the condition hold or fail independently of
each other: every choice for them is met by some row. -/
def Independent (rows : Valuation → Prop) (condition : Condition) : Prop :=
  ∀ choice : Condition → Bool, ∃ row, rows row ∧
    ∀ leaf ∈ condition.leaves, leaf.truth row = .ofBool (choice leaf)

mutual

theorem isLeaf_of_mem_leaves (condition : Condition) :
    ∀ leaf ∈ condition.leaves, leaf.IsLeaf := by
  intro leaf part
  cases condition with
  | compare left operator right => exact List.mem_singleton.mp part ▸ trivial
  | among operand values negated => exact List.mem_singleton.mp part ▸ trivial
  | all members => exact isLeaf_of_mem_leavesList members leaf part
  | any members => exact isLeaf_of_mem_leavesList members leaf part

theorem isLeaf_of_mem_leavesList (members : List Condition) :
    ∀ leaf ∈ leavesList members, leaf.IsLeaf := by
  intro leaf part
  cases members with
  | nil => simp [leavesList] at part
  | cons member members =>
      rcases List.mem_append.mp part with here | there
      · exact isLeaf_of_mem_leaves member leaf here
      · exact isLeaf_of_mem_leavesList members leaf there

end

/-- Where nothing restricts the truth of comparisons and memberships, the leaves of
every condition are independent. -/
theorem independent_of_all (condition : Condition) : condition.Independent fun _ => True := by
  intro choice
  refine ⟨⟨fun left operator right => .ofBool (choice (.compare left operator right)),
    fun operand values negated => .ofBool (choice (.among operand values negated))⟩,
    trivial, fun leaf part => ?_⟩
  have single := isLeaf_of_mem_leaves condition leaf part
  cases leaf with
  | compare left operator right => rfl
  | among operand values negated => rfl
  | all members => exact single.elim
  | any members => exact single.elim

/-- A normal condition with independent leaves holds in every row only if it is the
plain form of no restriction. -/
theorem Normal.isAlways_iff_of_independent {rows : Valuation → Prop} {condition : Condition}
    (normal : condition.Normal) (independent : condition.Independent rows) :
    condition.isAlways = true ↔ ∀ row, rows row → condition.truth row = .yes := by
  constructor
  · intro plain row _
    rw [isAlways_iff.mp plain, truth_always]
  · intro holds
    rcases normal with rfl | reduced
    · rfl
    · obtain ⟨row, possible, fails⟩ := independent fun _ => false
      refine absurd (holds row possible) (reduced.truth_ne_yes fun leaf part => ?_)
      rw [fails leaf part]
      simp [Truth.ofBool]

end Condition

namespace Tree

theorem normal_groupCondition {group : List Fragment}
    (normal : ∀ fragment ∈ group, fragment.condition.Normal) :
    (groupCondition group).Normal := by
  apply Condition.normal_conjoin
  exact List.forall_mem_map.mpr normal

theorem isAlways_groupCondition_iff {group : List Fragment}
    (normal : ∀ fragment ∈ group, fragment.condition.Normal) :
    (groupCondition group).isAlways = true ↔
      ∀ fragment ∈ group, fragment.isAlways = true := by
  rw [groupCondition, Condition.isAlways_conjoin_iff (List.forall_mem_map.mpr normal)]
  simp [Fragment.isAlways]

/-- A tree of flat conditions restricts nothing exactly when it is empty or
has a group in which nothing restricts. -/
theorem condition_eq_none_iff {tree : Tree} (flat : tree.Flat) :
    tree.condition = none ↔
      tree.isEmpty = true ∨
        ∃ group ∈ tree.groups, ∀ fragment ∈ group, fragment.isAlways = true := by
  have normal : ∀ group ∈ tree.groups, ∀ fragment ∈ group, fragment.condition.Normal :=
    fun group member fragment inside => (flat group member fragment inside).normal
  have combined : (Condition.disjoin (tree.groups.map groupCondition)).isAlways = true ↔
      ∃ group ∈ tree.groups, ∀ fragment ∈ group, fragment.isAlways = true := by
    have groups : ∀ condition ∈ tree.groups.map groupCondition, condition.Normal :=
      List.forall_mem_map.mpr fun group member => normal_groupCondition (normal group member)
    rw [Condition.isAlways_disjoin groups, List.any_map, List.any_eq_true]
    exact exists_congr fun group => and_congr_right fun member =>
      isAlways_groupCondition_iff (normal group member)
  rw [← combined]
  unfold condition isEmpty
  by_cases vacant : tree.groups.isEmpty
  · rw [if_pos vacant]
    simp [vacant]
  · rw [if_neg vacant]
    simp [vacant]

theorem normal_condition {tree : Tree} {condition : Condition}
    (combined : tree.condition = some condition)
    (normal : ∀ group ∈ tree.groups, ∀ fragment ∈ group, fragment.condition.Normal) :
    condition.Normal := by
  obtain ⟨present, -, rfl⟩ := condition_eq_some_iff.mp combined
  apply Condition.normal_disjoin
  · simpa using present
  · exact List.forall_mem_map.mpr fun group member => normal_groupCondition (normal group member)

end Tree

end ColumnFilter
