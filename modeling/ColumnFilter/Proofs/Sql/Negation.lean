import ColumnFilter.Proofs.Sql.ParamNames
import ColumnFilter.Proofs.Sql.Truth

/-!
# Negated conditions

A negation changes operators and junctions only.  So it can be undone, and a
condition and its negation are written with the same parameters in the same
order, also where an empty list of values hides some of them.
-/

namespace ColumnFilter

namespace Operator

@[simp] theorem isLike_inverse (operator : Operator) :
    operator.inverse.isLike = operator.isLike := by
  cases operator <;> rfl

end Operator

namespace Template

/-- The values of a template, or the first name without one, depend on its holes
only. -/
theorem values_eq_mapM (params : Params) (template : Template) :
    template.values params =
      template.holes.mapM fun name =>
        match params.get? name with
        | none => .error ⟨name⟩
        | some value => .ok value := by
  induction template with
  | nil => rfl
  | cons slot rest induction =>
      cases slot with
      | text content => rw [values, holes_text, induction]
      | hole name =>
          rw [values, holes_hole, List.mapM_cons, ← induction]
          cases params.get? name with
          | none => rfl
          | some value => cases values params rest <;> rfl

/-- Filled with the same bindings, templates with the same holes give the same
values, or lack the same one. -/
theorem map_values_fill {left right : Template} (same : left.holes = right.holes)
    (dialect : Dialect) (params : Params) :
    (left.fill dialect params).map Statement.values =
      (right.fill dialect params).map Statement.values := by
  have values : ∀ template : Template,
      (template.fill dialect params).map Statement.values = template.values params := by
    intro template
    unfold fill
    cases template.values params <;> rfl
  rw [values, values, values_eq_mapM, values_eq_mapM, same]

mutual

theorem holes_ofCondition_negate (dialect : Dialect) (condition : Condition) :
    (ofCondition dialect condition.negate).holes = (ofCondition dialect condition).holes := by
  cases condition with
  | compare left operator right =>
      simp only [Condition.negate, ofCondition, Operator.isLike_inverse, holes_append,
        holes_text]
  | among operand values negated =>
      simp only [Condition.negate, ofCondition]
      split
      · rfl
      · simp only [holes_append, holes_text]
  | all members =>
      simp only [Condition.negate, ofCondition, holes_junction]
      exact holes_ofConditions_negateList dialect members
  | any members =>
      simp only [Condition.negate, ofCondition, holes_junction]
      exact holes_ofConditions_negateList dialect members

theorem holes_ofConditions_negateList (dialect : Dialect) (members : List Condition) :
    (ofConditions dialect (Condition.negateList members)).flatMap holes =
      (ofConditions dialect members).flatMap holes := by
  cases members with
  | nil => rfl
  | cons member members =>
      rw [Condition.negateList, ofConditions, ofConditions, List.flatMap_cons,
        List.flatMap_cons, holes_ofCondition_negate dialect member,
        holes_ofConditions_negateList dialect members]

end

end Template

namespace Condition

mutual

theorem negate_negate (condition : Condition) : condition.negate.negate = condition := by
  cases condition with
  | compare left operator right =>
      rw [negate, negate, Operator.inverse_inverse]
  | among operand values negated =>
      rw [negate, negate, Bool.not_not]
  | all members => exact congrArg all (negateList_negateList members)
  | any members => exact congrArg any (negateList_negateList members)

theorem negateList_negateList (members : List Condition) :
    negateList (negateList members) = members := by
  cases members with
  | nil => rfl
  | cons member members =>
      rw [negateList, negateList, negate_negate member, negateList_negateList members]

end

/-- The negation of a condition is true where the condition is false, and unknown
where it is unknown.  Negated twice it is the condition again.  Both mention the
same parameters in the same order, and in every dialect they are rendered with the
same values, or lack the same binding. -/
theorem negate_inverts (condition : Condition) :
    (∀ row : Valuation, row.Complementary →
      condition.negate.truth row = (condition.truth row).not) ∧
    condition.negate.negate = condition ∧
    condition.negate.paramNames = condition.paramNames ∧
    ∀ dialect : Dialect,
      (Template.ofCondition dialect condition.negate).holes =
        (Template.ofCondition dialect condition).holes ∧
      ∀ params : Params,
        (condition.negate.render dialect params).map Statement.values =
          (condition.render dialect params).map Statement.values := by
  refine ⟨fun row lawful => truth_negate lawful condition, negate_negate condition,
    paramNames_negate condition, fun dialect => ?_⟩
  have holes := Template.holes_ofCondition_negate dialect condition
  exact ⟨holes, fun params => Template.map_values_fill holes dialect params⟩

/-- Where nothing is known of comparisons and no list has members, a disjunction
with an empty list that must not have the value is true and its negation false. -/
theorem negate_inverts_empty_list :
    let row : Valuation :=
      ⟨fun _ _ _ => .unknown, fun _ _ negated => .ofBool negated⟩
    let condition : Condition :=
      .any [.compare (.column "n") .less (.param "p"), .all [.among (.param "q") [] true, .all []]]
    row.Complementary ∧
    condition.truth row = .yes ∧
    condition.negate.truth row = .no ∧
    (condition.negate.render .mySql (.single "p" (.string "1"))).map Statement.values =
      .ok [.string "1"] := by
  intro row condition
  have lawful : row.Complementary :=
    ⟨fun _ _ _ => rfl, fun _ _ negated => by cases negated <;> rfl⟩
  obtain ⟨truth, -, -, rendered⟩ := negate_inverts condition
  have holds : condition.truth row = .yes := rfl
  have values : (condition.render .mySql (.single "p" (.string "1"))).map Statement.values =
      .ok [.string "1"] := rfl
  exact ⟨lawful, holds, by rw [truth row lawful, holds]; rfl,
    ((rendered .mySql).2 _).trans values⟩

end Condition

end ColumnFilter
