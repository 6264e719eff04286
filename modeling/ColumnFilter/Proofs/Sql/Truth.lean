import ColumnFilter.Sql.Condition

/-!
# Truth of conditions

A condition holds for a row, fails for it, or is unknown because a value is
missing.  This module gives conditions that meaning, whatever is known of
their comparisons, and shows that the combinators which keep conditions flat
do not change it.
-/

namespace ColumnFilter

/-- The truth of a condition for one row. -/
inductive Truth where
  | no
  | unknown
  | yes
  deriving DecidableEq, Repr

namespace Truth

/-- What is unknown stays unknown when it is inverted. -/
def not : Truth → Truth
  | .no => .yes
  | .unknown => .unknown
  | .yes => .no

/-- The lesser of two truths. -/
def and : Truth → Truth → Truth
  | .no, _ => .no
  | _, .no => .no
  | .yes, other => other
  | .unknown, _ => .unknown

/-- The greater of two truths. -/
def or : Truth → Truth → Truth
  | .yes, _ => .yes
  | _, .yes => .yes
  | .no, other => other
  | .unknown, _ => .unknown

def all (truths : List Truth) : Truth := truths.foldr and .yes

def any (truths : List Truth) : Truth := truths.foldr or .no

def ofBool (holds : Bool) : Truth := if holds then .yes else .no

@[simp] theorem all_nil : all [] = .yes := rfl

@[simp] theorem all_cons (truth : Truth) (truths : List Truth) :
    all (truth :: truths) = truth.and (all truths) := rfl

@[simp] theorem any_nil : any [] = .no := rfl

@[simp] theorem any_cons (truth : Truth) (truths : List Truth) :
    any (truth :: truths) = truth.or (any truths) := rfl

@[simp] theorem yes_and (truth : Truth) : Truth.yes.and truth = truth := by
  cases truth <;> rfl

@[simp] theorem and_yes (truth : Truth) : truth.and .yes = truth := by
  cases truth <;> rfl

@[simp] theorem no_or (truth : Truth) : Truth.no.or truth = truth := by
  cases truth <;> rfl

@[simp] theorem or_no (truth : Truth) : truth.or .no = truth := by
  cases truth <;> rfl

@[simp] theorem yes_or (truth : Truth) : Truth.yes.or truth = .yes := by
  cases truth <;> rfl

@[simp] theorem or_yes (truth : Truth) : truth.or .yes = .yes := by
  cases truth <;> rfl

theorem and_assoc (first second third : Truth) :
    (first.and second).and third = first.and (second.and third) := by
  cases first <;> cases second <;> cases third <;> rfl

theorem or_assoc (first second third : Truth) :
    (first.or second).or third = first.or (second.or third) := by
  cases first <;> cases second <;> cases third <;> rfl

@[simp] theorem not_and (first second : Truth) :
    (first.and second).not = first.not.or second.not := by
  cases first <;> cases second <;> rfl

@[simp] theorem not_or (first second : Truth) :
    (first.or second).not = first.not.and second.not := by
  cases first <;> cases second <;> rfl

theorem not_eq_yes_iff {truth : Truth} (known : truth ≠ .unknown) :
    truth.not = .yes ↔ truth ≠ .yes := by
  cases truth with
  | no => simp [not]
  | unknown => exact absurd rfl known
  | yes => simp [not]

theorem all_append (left right : List Truth) :
    all (left ++ right) = (all left).and (all right) := by
  induction left with
  | nil => simp
  | cons truth left induction => simp [induction, and_assoc]

theorem any_append (left right : List Truth) :
    any (left ++ right) = (any left).or (any right) := by
  induction left with
  | nil => simp
  | cons truth left induction => simp [induction, or_assoc]

theorem any_eq_yes_of_mem {truths : List Truth} (member : .yes ∈ truths) :
    any truths = .yes := by
  obtain ⟨front, back, rfl⟩ := List.append_of_mem member
  rw [any_append, any_cons, yes_or, or_yes]

theorem all_eq_yes_iff {truths : List Truth} :
    all truths = .yes ↔ ∀ truth ∈ truths, truth = .yes := by
  induction truths with
  | nil => simp
  | cons truth truths induction =>
      rw [all_cons, List.forall_mem_cons, ← induction]
      cases truth <;> cases all truths <;> simp [and]

theorem any_eq_yes_iff {truths : List Truth} : any truths = .yes ↔ .yes ∈ truths := by
  refine ⟨fun holds => ?_, any_eq_yes_of_mem⟩
  induction truths with
  | nil => simp at holds
  | cons truth truths induction =>
      rw [any_cons] at holds
      cases truth with
      | yes => exact List.mem_cons_self
      | no => exact List.mem_cons_of_mem _ (induction (by simpa using holds))
      | unknown =>
          refine List.mem_cons_of_mem _ (induction ?_)
          cases rest : any truths <;> simp [rest, or] at holds ⊢

theorem all_ne_unknown {truths : List Truth}
    (known : ∀ truth ∈ truths, truth ≠ .unknown) : all truths ≠ .unknown := by
  induction truths with
  | nil => simp
  | cons truth truths induction =>
      have here := known truth List.mem_cons_self
      have there := induction fun other member =>
        known other (List.mem_cons_of_mem truth member)
      rw [all_cons]
      cases truth <;> cases rest : all truths <;> simp_all [and]

theorem all_map_unknown {α : Type} {items : List α} (present : items ≠ []) :
    all (items.map fun _ => .unknown) = .unknown := by
  induction items with
  | nil => exact absurd rfl present
  | cons item items induction =>
      cases items with
      | nil => rfl
      | cons other items =>
          rw [List.map_cons, all_cons, induction (List.cons_ne_nil other items)]
          rfl

theorem any_ne_unknown {truths : List Truth}
    (known : ∀ truth ∈ truths, truth ≠ .unknown) : any truths ≠ .unknown := by
  induction truths with
  | nil => simp
  | cons truth truths induction =>
      have here := known truth List.mem_cons_self
      have there := induction fun other member =>
        known other (List.mem_cons_of_mem truth member)
      rw [any_cons]
      cases truth <;> cases rest : any truths <;> simp_all [or]

end Truth

/-- What is known for one row: the truth of every comparison and of every
membership in a list. -/
structure Valuation where
  compare : Expr → Operator → Expr → Truth
  among : Expr → List Expr → Bool → Truth

/-- Inverse comparisons exclude each other, and one of them holds unless both
are unknown. -/
structure Valuation.Complementary (row : Valuation) : Prop where
  compare_inverse : ∀ left operator right,
    row.compare left operator.inverse right = (row.compare left operator right).not
  among_not : ∀ operand values negated,
    row.among operand values (!negated) = (row.among operand values negated).not

namespace Condition

mutual

def truth (row : Valuation) : Condition → Truth
  | .compare left operator right => row.compare left operator right
  | .among operand values negated => row.among operand values negated
  | .all members => Truth.all (truths row members)
  | .any members => Truth.any (truths row members)

def truths (row : Valuation) : List Condition → List Truth
  | [] => []
  | member :: members => truth row member :: truths row members

end

mutual

/-- The comparisons and memberships in a condition, from left to right. -/
def leaves : Condition → List Condition
  | .all members => leavesList members
  | .any members => leavesList members
  | .compare left operator right => [.compare left operator right]
  | .among operand values negated => [.among operand values negated]

def leavesList : List Condition → List Condition
  | [] => []
  | member :: members => leaves member ++ leavesList members

end

theorem truths_eq_map (row : Valuation) (members : List Condition) :
    truths row members = members.map (truth row) := by
  induction members with
  | nil => rfl
  | cons member members induction => simp [truths, induction]

@[simp] theorem truth_all (row : Valuation) (members : List Condition) :
    truth row (.all members) = Truth.all (members.map (truth row)) := by
  rw [truth, truths_eq_map]

@[simp] theorem truth_any (row : Valuation) (members : List Condition) :
    truth row (.any members) = Truth.any (members.map (truth row)) := by
  rw [truth, truths_eq_map]

theorem isAlways_iff {condition : Condition} :
    condition.isAlways = true ↔ condition = .always := by
  constructor
  · intro plain
    unfold isAlways at plain
    split at plain
    · rfl
    · simp at plain
  · rintro rfl
    rfl

@[simp] theorem truth_always (row : Valuation) : truth row .always = .yes := by
  simp [always]

theorem all_truth_conjuncts (row : Valuation) (condition : Condition) :
    Truth.all (condition.conjuncts.map (truth row)) = condition.truth row := by
  cases condition <;> simp [conjuncts]

theorem any_truth_disjuncts (row : Valuation) (condition : Condition) :
    Truth.any (condition.disjuncts.map (truth row)) = condition.truth row := by
  cases condition <;> simp [disjuncts]

theorem all_truth_flatMap_conjuncts (row : Valuation) (conditions : List Condition) :
    Truth.all ((conditions.flatMap conjuncts).map (truth row)) =
      Truth.all (conditions.map (truth row)) := by
  induction conditions with
  | nil => rfl
  | cons condition conditions induction =>
      rw [List.flatMap_cons, List.map_append, Truth.all_append, all_truth_conjuncts,
        induction]
      rfl

theorem any_truth_flatMap_disjuncts (row : Valuation) (conditions : List Condition) :
    Truth.any ((conditions.flatMap disjuncts).map (truth row)) =
      Truth.any (conditions.map (truth row)) := by
  induction conditions with
  | nil => rfl
  | cons condition conditions induction =>
      rw [List.flatMap_cons, List.map_append, Truth.any_append, any_truth_disjuncts,
        induction]
      rfl

/-- Splicing conjunctions and dropping the ones without members keeps the
truth of a conjunction. -/
theorem truth_conjoin (row : Valuation) (conditions : List Condition) :
    (conjoin conditions).truth row = Truth.all (conditions.map (truth row)) := by
  rw [← all_truth_flatMap_conjuncts]
  fun_cases conjoin conditions with
  | case1 only spliced => simp [spliced]
  | case2 => rw [truth_all]

/-- A disjunction keeps its truth, also when a member that always holds makes
all others superfluous. -/
theorem truth_disjoin (row : Valuation) (conditions : List Condition) :
    (disjoin conditions).truth row = Truth.any (conditions.map (truth row)) := by
  unfold disjoin
  by_cases found : conditions.any isAlways
  · rw [if_pos found]
    obtain ⟨condition, member, plain⟩ := List.any_eq_true.mp found
    have holds : condition.truth row = .yes := by
      rw [isAlways_iff.mp plain, truth_always]
    rw [truth_always]
    exact (Truth.any_eq_yes_of_mem (List.mem_map.mpr ⟨condition, member, holds⟩)).symm
  · rw [if_neg found, ← any_truth_flatMap_disjuncts]
    split
    · next only spliced => simp [spliced]
    · rw [truth_any]

mutual

/-- Pushing a negation down to the comparisons inverts the truth of the whole. -/
theorem truth_negate {row : Valuation} (lawful : row.Complementary)
    (condition : Condition) :
    condition.negate.truth row = (condition.truth row).not := by
  cases condition with
  | compare left operator right =>
      exact lawful.compare_inverse left operator right
  | among operand values negated =>
      exact lawful.among_not operand values negated
  | all members => exact any_truths_negateList lawful members
  | any members => exact all_truths_negateList lawful members

theorem any_truths_negateList {row : Valuation} (lawful : row.Complementary)
    (members : List Condition) :
    Truth.any (truths row (negateList members)) =
      (Truth.all (truths row members)).not := by
  cases members with
  | nil => rfl
  | cons member members =>
      simp [negateList, truths, truth_negate lawful member,
        any_truths_negateList lawful members]

theorem all_truths_negateList {row : Valuation} (lawful : row.Complementary)
    (members : List Condition) :
    Truth.all (truths row (negateList members)) =
      (Truth.any (truths row members)).not := by
  cases members with
  | nil => rfl
  | cons member members =>
      simp [negateList, truths, truth_negate lawful member,
        all_truths_negateList lawful members]

end

mutual

/-- Where no comparison is unknown, the condition is not unknown either. -/
theorem truth_ne_unknown {row : Valuation} (condition : Condition)
    (known : ∀ leaf ∈ condition.leaves, leaf.truth row ≠ .unknown) :
    condition.truth row ≠ .unknown := by
  cases condition with
  | compare left operator right => exact known _ (by simp [leaves])
  | among operand values negated => exact known _ (by simp [leaves])
  | all members =>
      rw [truth]
      exact Truth.all_ne_unknown (truths_ne_unknown members known)
  | any members =>
      rw [truth]
      exact Truth.any_ne_unknown (truths_ne_unknown members known)

theorem truths_ne_unknown {row : Valuation} (members : List Condition)
    (known : ∀ leaf ∈ leavesList members, leaf.truth row ≠ .unknown) :
    ∀ value ∈ truths row members, value ≠ .unknown := by
  cases members with
  | nil => simp [truths]
  | cons member members =>
      intro value found
      rw [leavesList] at known
      rw [truths] at found
      rcases List.mem_cons.mp found with rfl | later
      · exact truth_ne_unknown member fun leaf inside =>
          known leaf (List.mem_append_left _ inside)
      · exact truths_ne_unknown members
          (fun leaf inside => known leaf (List.mem_append_right _ inside)) value later

end

end Condition

end ColumnFilter
