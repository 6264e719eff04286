import ColumnFilter.Proofs.Sql.ParamNames

/-!
# Conditions without names

The skeleton of a condition has its parameters without their names.  A
statement's text is that of the skeleton, since parameters are written as
placeholders; and combining conditions combines their skeletons.
-/

namespace ColumnFilter

mutual

/-- The expression with its parameters unnamed. -/
def Expr.skeleton : Expr → Expr
  | .column name => .column name
  | .param _ => .param ""
  | .literal text => .literal text
  | .call function arguments => .call function (Expr.skeletons arguments)
  | .cast operand type => .cast operand.skeleton type
  | .tryCast operand type => .tryCast operand.skeleton type
  | .choose condition consequent alternative =>
      .choose condition.skeleton consequent.skeleton alternative.skeleton

def Expr.skeletons : List Expr → List Expr
  | [] => []
  | item :: items => item.skeleton :: Expr.skeletons items

/-- The condition with its parameters unnamed. -/
def Condition.skeleton : Condition → Condition
  | .compare left operator right => .compare left.skeleton operator right.skeleton
  | .among operand values negated =>
      .among operand.skeleton (Expr.skeletons values) negated
  | .all members => .all (Condition.skeletons members)
  | .any members => .any (Condition.skeletons members)

def Condition.skeletons : List Condition → List Condition
  | [] => []
  | member :: members => member.skeleton :: Condition.skeletons members

end

def Slot.skeleton : Slot → Slot
  | .text content => .text content
  | .hole _ => .hole ""

namespace Template

def skeleton (template : Template) : Template := template.map Slot.skeleton

@[simp] theorem skeleton_nil : skeleton [] = [] := rfl

@[simp] theorem skeleton_text (content : String) (rest : Template) :
    skeleton (.text content :: rest) = .text content :: skeleton rest := rfl

@[simp] theorem skeleton_hole (name : String) (rest : Template) :
    skeleton (.hole name :: rest) = .hole "" :: skeleton rest := rfl

@[simp] theorem skeleton_append (left right : Template) :
    skeleton (left ++ right) = skeleton left ++ skeleton right :=
  List.map_append

@[simp] theorem joined_map_skeleton (separator : String) (templates : List Template) :
    joined separator (templates.map skeleton) = (joined separator templates).skeleton := by
  induction templates with
  | nil => rfl
  | cons first rest induction =>
      cases rest with
      | nil => rfl
      | cons second others =>
          simp only [List.map_cons, joined, skeleton_append, skeleton_text]
          rw [← induction]
          rfl

@[simp] theorem junction_map_skeleton (separator empty : String)
    (templates : List Template) :
    junction separator empty (templates.map skeleton) =
      (junction separator empty templates).skeleton := by
  match templates with
  | [] => rfl
  | [only] => rfl
  | first :: second :: others =>
      simp only [List.map_cons, junction, List.cons_append, skeleton_text,
        skeleton_append, skeleton_nil]
      rw [← joined_map_skeleton]
      rfl

mutual

theorem ofExpr_skeleton (dialect : Dialect) (expression : Expr) :
    ofExpr dialect expression.skeleton = (ofExpr dialect expression).skeleton := by
  cases expression with
  | column name =>
      rw [Expr.skeleton, ofExpr]
      split <;> rfl
  | param name => rfl
  | literal text => rfl
  | call function arguments =>
      simp [Expr.skeleton, ofExpr, ofExprs_skeletons dialect arguments]
  | cast operand type => simp [Expr.skeleton, ofExpr, ofExpr_skeleton dialect operand]
  | tryCast operand type => simp [Expr.skeleton, ofExpr, ofExpr_skeleton dialect operand]
  | choose condition consequent alternative =>
      simp [Expr.skeleton, ofExpr, ofCondition_skeleton dialect condition,
        ofExpr_skeleton dialect consequent, ofExpr_skeleton dialect alternative]

theorem ofExprs_skeletons (dialect : Dialect) (items : List Expr) :
    ofExprs dialect (Expr.skeletons items) = (ofExprs dialect items).map skeleton := by
  cases items with
  | nil => rfl
  | cons item items =>
      simp [Expr.skeletons, ofExprs, ofExpr_skeleton dialect item,
        ofExprs_skeletons dialect items]

/-- Unnamed parameters leave unnamed holes, and nothing else changes. -/
theorem ofCondition_skeleton (dialect : Dialect) (condition : Condition) :
    ofCondition dialect condition.skeleton = (ofCondition dialect condition).skeleton := by
  cases condition with
  | compare left operator right =>
      simp only [Condition.skeleton, ofCondition, ofExpr_skeleton dialect left,
        ofExpr_skeleton dialect right, skeleton_append, skeleton_text]
      congr 4
      split
      · split <;> rfl
      · rfl
  | among operand values negated =>
      have present : (Expr.skeletons values).isEmpty = values.isEmpty := by
        cases values <;> rfl
      simp only [Condition.skeleton, ofCondition, present]
      split
      · rfl
      · simp [ofExpr_skeleton dialect operand, ofExprs_skeletons dialect values]
  | all members =>
      simp [Condition.skeleton, ofCondition, ofConditions_skeletons dialect members]
  | any members =>
      simp [Condition.skeleton, ofCondition, ofConditions_skeletons dialect members]

theorem ofConditions_skeletons (dialect : Dialect) (members : List Condition) :
    ofConditions dialect (Condition.skeletons members) =
      (ofConditions dialect members).map skeleton := by
  cases members with
  | nil => rfl
  | cons member members =>
      simp [Condition.skeletons, ofConditions, ofCondition_skeleton dialect member,
        ofConditions_skeletons dialect members]

end

/-- Holes are written as placeholders, whatever their names. -/
theorem write_skeleton (dialect : Dialect) (index : Nat) (template : Template) :
    write dialect index template.skeleton = write dialect index template := by
  induction template generalizing index with
  | nil => rfl
  | cons slot rest induction => cases slot <;> simp [write, induction]

end Template

namespace Condition

theorem skeletons_eq_map (members : List Condition) :
    skeletons members = members.map skeleton := by
  induction members with
  | nil => rfl
  | cons member members induction => rw [skeletons, induction, List.map_cons]

@[simp] theorem isAlways_skeleton (condition : Condition) :
    condition.skeleton.isAlways = condition.isAlways := by
  cases condition with
  | compare left operator right => rfl
  | among operand values negated => rfl
  | all members => cases members <;> rfl
  | any members => rfl

theorem conjuncts_skeleton (condition : Condition) :
    condition.skeleton.conjuncts = condition.conjuncts.map skeleton := by
  cases condition with
  | compare left operator right => rfl
  | among operand values negated => rfl
  | all members => exact skeletons_eq_map members
  | any members => rfl

theorem disjuncts_skeleton (condition : Condition) :
    condition.skeleton.disjuncts = condition.disjuncts.map skeleton := by
  cases condition with
  | compare left operator right => rfl
  | among operand values negated => rfl
  | all members => rfl
  | any members => exact skeletons_eq_map members

theorem skeleton_conjoin (conditions : List Condition) :
    (conjoin conditions).skeleton = conjoin (conditions.map skeleton) := by
  have spliced : (conditions.map skeleton).flatMap conjuncts =
      (conditions.flatMap conjuncts).map skeleton := by
    simp only [List.flatMap_map, List.map_flatMap, conjuncts_skeleton]
  unfold conjoin
  rw [spliced]
  match conditions.flatMap conjuncts with
  | [] => rfl
  | [only] => rfl
  | first :: second :: others => exact congrArg all (skeletons_eq_map _)

theorem skeleton_disjoin (conditions : List Condition) :
    (disjoin conditions).skeleton = disjoin (conditions.map skeleton) := by
  have spliced : (conditions.map skeleton).flatMap disjuncts =
      (conditions.flatMap disjuncts).map skeleton := by
    simp only [List.flatMap_map, List.map_flatMap, disjuncts_skeleton]
  have vacant : (conditions.map skeleton).any isAlways = conditions.any isAlways := by
    simp [List.any_map, Function.comp_def]
  unfold disjoin
  rw [spliced, vacant]
  split
  · rfl
  · match conditions.flatMap disjuncts with
    | [] => rfl
    | [only] => rfl
    | first :: second :: others => exact congrArg any (skeletons_eq_map _)

mutual

theorem skeleton_negate (condition : Condition) :
    condition.negate.skeleton = condition.skeleton.negate := by
  cases condition with
  | compare left operator right => rfl
  | among operand values negated => rfl
  | all members => exact congrArg any (skeletons_negateList members)
  | any members => exact congrArg all (skeletons_negateList members)

theorem skeletons_negateList (members : List Condition) :
    skeletons (negateList members) = negateList (skeletons members) := by
  cases members with
  | nil => rfl
  | cons member members =>
      rw [negateList, skeletons, skeletons, negateList, skeleton_negate member,
        skeletons_negateList members]

end

theorem skeleton_negateIf (wanted : Bool) (condition : Condition) :
    (condition.negateIf wanted).skeleton = condition.skeleton.negateIf wanted := by
  cases wanted with
  | false => rfl
  | true => exact skeleton_negate condition

end Condition

namespace Tree

def skeletons (tree : Tree) : List (List Condition) :=
  tree.groups.map fun group => group.map fun fragment => fragment.condition.skeleton

/-- The combined condition has the combined skeleton. -/
theorem map_skeleton_condition (tree : Tree) :
    tree.condition.map Condition.skeleton =
      if tree.skeletons.isEmpty then none
      else
        let combined := Condition.disjoin (tree.skeletons.map Condition.conjoin)
        if combined.isAlways then none else some combined := by
  have vacant : tree.skeletons.isEmpty = tree.groups.isEmpty := by
    simp [skeletons]
  have combined : Condition.disjoin (tree.skeletons.map Condition.conjoin) =
      (Condition.disjoin (tree.groups.map groupCondition)).skeleton := by
    rw [Condition.skeleton_disjoin, List.map_map, skeletons, List.map_map]
    congr 1
    apply List.map_congr_left
    intro group _
    simp [groupCondition, Condition.skeleton_conjoin, Function.comp_def]
  rw [vacant, combined]
  unfold condition
  split
  · rfl
  · simp only [Condition.isAlways_skeleton]
    split <;> rfl

end Tree

end ColumnFilter
