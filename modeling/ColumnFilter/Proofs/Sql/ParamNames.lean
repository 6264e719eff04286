import ColumnFilter.Proofs.Sql.Normal
import ColumnFilter.Sql.Template

/-!
# The parameters of a condition

The names of the parameters in a condition, from left to right, are the names
of the holes of its template in every dialect, but for those under an empty list
of values, which is written without its operand.  A tree has the names of its
fragments one after the other, unless it restricts nothing.
-/

namespace ColumnFilter

mutual

/-- The names of the parameters in an expression, from left to right. -/
def Expr.paramNames : Expr → List String
  | .column _ => []
  | .param name => [name]
  | .literal _ => []
  | .call _ arguments => Expr.paramNamesList arguments
  | .cast operand _ => operand.paramNames
  | .tryCast operand _ => operand.paramNames
  | .choose condition consequent alternative =>
      condition.paramNames ++ consequent.paramNames ++ alternative.paramNames

def Expr.paramNamesList : List Expr → List String
  | [] => []
  | item :: items => item.paramNames ++ Expr.paramNamesList items

/-- The names of the parameters in a condition, from left to right. -/
def Condition.paramNames : Condition → List String
  | .compare left _ right => left.paramNames ++ right.paramNames
  | .among operand values _ => operand.paramNames ++ Expr.paramNamesList values
  | .all members => Condition.paramNamesList members
  | .any members => Condition.paramNamesList members

def Condition.paramNamesList : List Condition → List String
  | [] => []
  | member :: members => member.paramNames ++ Condition.paramNamesList members

end

mutual

/-- The names of the parameters that are written with an expression, from left to
right. -/
def Expr.writtenNames : Expr → List String
  | .column _ => []
  | .param name => [name]
  | .literal _ => []
  | .call _ arguments => Expr.writtenNamesList arguments
  | .cast operand _ => operand.writtenNames
  | .tryCast operand _ => operand.writtenNames
  | .choose condition consequent alternative =>
      condition.writtenNames ++ consequent.writtenNames ++ alternative.writtenNames

def Expr.writtenNamesList : List Expr → List String
  | [] => []
  | item :: items => item.writtenNames ++ Expr.writtenNamesList items

/-- The names of the parameters that are written with a condition, from left to
right: all but those under an empty list of values, for which a constant stands. -/
def Condition.writtenNames : Condition → List String
  | .compare left _ right => left.writtenNames ++ right.writtenNames
  | .among operand values _ =>
      if values.isEmpty then [] else operand.writtenNames ++ Expr.writtenNamesList values
  | .all members => Condition.writtenNamesList members
  | .any members => Condition.writtenNamesList members

def Condition.writtenNamesList : List Condition → List String
  | [] => []
  | member :: members => member.writtenNames ++ Condition.writtenNamesList members

end

mutual

/-- No list of values in the expression is empty. -/
def Expr.Listed : Expr → Prop
  | .column _ => True
  | .param _ => True
  | .literal _ => True
  | .call _ arguments => Expr.ListedAll arguments
  | .cast operand _ => operand.Listed
  | .tryCast operand _ => operand.Listed
  | .choose condition consequent alternative =>
      condition.Listed ∧ consequent.Listed ∧ alternative.Listed

def Expr.ListedAll : List Expr → Prop
  | [] => True
  | item :: items => item.Listed ∧ Expr.ListedAll items

/-- No list of values in the condition is empty: an empty one is written
without its operand. -/
def Condition.Listed : Condition → Prop
  | .compare left _ right => left.Listed ∧ right.Listed
  | .among operand values _ =>
      values.isEmpty = false ∧ operand.Listed ∧ Expr.ListedAll values
  | .all members => Condition.ListedAll members
  | .any members => Condition.ListedAll members

def Condition.ListedAll : List Condition → Prop
  | [] => True
  | member :: members => member.Listed ∧ Condition.ListedAll members

end

mutual

theorem Expr.writtenNames_of_listed (expression : Expr) (listed : expression.Listed) :
    expression.writtenNames = expression.paramNames := by
  cases expression with
  | column name => rfl
  | param name => rfl
  | literal text => rfl
  | call function arguments => exact Expr.writtenNamesList_of_listed listed
  | cast operand type => exact Expr.writtenNames_of_listed operand listed
  | tryCast operand type => exact Expr.writtenNames_of_listed operand listed
  | choose condition consequent alternative =>
      rw [Expr.writtenNames, Expr.paramNames, Condition.writtenNames_of_listed listed.1,
        Expr.writtenNames_of_listed consequent listed.2.1,
        Expr.writtenNames_of_listed alternative listed.2.2]

theorem Expr.writtenNamesList_of_listed {items : List Expr}
    (listed : Expr.ListedAll items) :
    Expr.writtenNamesList items = Expr.paramNamesList items := by
  cases items with
  | nil => rfl
  | cons item items =>
      rw [Expr.writtenNamesList, Expr.paramNamesList, Expr.writtenNames_of_listed item listed.1,
        Expr.writtenNamesList_of_listed listed.2]

/-- Where no list of values is empty, all parameters are written. -/
theorem Condition.writtenNames_of_listed {condition : Condition}
    (listed : condition.Listed) : condition.writtenNames = condition.paramNames := by
  cases condition with
  | compare left operator right =>
      rw [Condition.writtenNames, Condition.paramNames,
        Expr.writtenNames_of_listed left listed.1, Expr.writtenNames_of_listed right listed.2]
  | among operand values negated =>
      obtain ⟨present, operandListed, valuesListed⟩ := listed
      simp only [Condition.writtenNames, Condition.paramNames, present, Bool.false_eq_true,
        if_false, Expr.writtenNames_of_listed operand operandListed,
        Expr.writtenNamesList_of_listed valuesListed]
  | all members => exact Condition.writtenNamesList_of_listed listed
  | any members => exact Condition.writtenNamesList_of_listed listed

theorem Condition.writtenNamesList_of_listed {members : List Condition}
    (listed : Condition.ListedAll members) :
    Condition.writtenNamesList members = Condition.paramNamesList members := by
  cases members with
  | nil => rfl
  | cons member members =>
      rw [Condition.writtenNamesList, Condition.paramNamesList,
        Condition.writtenNames_of_listed listed.1,
        Condition.writtenNamesList_of_listed listed.2]

end

theorem exists_map_eq_map_some_iff {α β : Type} {f : α → Option β} {items : List α} :
    (∃ images : List β, items.map f = images.map some) ↔
      ∀ item ∈ items, (f item).isSome = true := by
  induction items with
  | nil => exact ⟨by simp, fun _ => ⟨[], rfl⟩⟩
  | cons item items induction =>
      rw [List.forall_mem_cons, ← induction, Option.isSome_iff_exists]
      constructor
      · rintro ⟨images, same⟩
        cases images with
        | nil => simp at same
        | cons image images =>
            obtain ⟨here, there⟩ := List.cons.inj same
            exact ⟨⟨image, here⟩, images, there⟩
      · rintro ⟨⟨image, here⟩, images, there⟩
        exact ⟨image :: images, by rw [List.map_cons, here, there, List.map_cons]⟩

namespace Template

@[simp] theorem holes_nil : holes [] = [] := rfl

@[simp] theorem holes_text (content : String) (rest : Template) :
    holes (.text content :: rest) = holes rest := rfl

@[simp] theorem holes_hole (name : String) (rest : Template) :
    holes (.hole name :: rest) = name :: holes rest := rfl

@[simp] theorem holes_append (left right : Template) :
    holes (left ++ right) = holes left ++ holes right := by
  induction left with
  | nil => rfl
  | cons slot left induction => cases slot <;> simp [induction]

@[simp] theorem holes_joined (separator : String) (templates : List Template) :
    holes (joined separator templates) = templates.flatMap holes := by
  induction templates with
  | nil => rfl
  | cons first rest induction =>
      cases rest with
      | nil => simp [joined]
      | cons second others =>
          rw [joined, holes_append, holes_text, induction]
          · rfl
          · simp

@[simp] theorem holes_junction (separator empty : String) (templates : List Template) :
    holes (junction separator empty templates) = templates.flatMap holes := by
  match templates with
  | [] => rfl
  | [only] => simp [junction]
  | first :: second :: others => simp [junction]

mutual

/-- The holes of an expression's template are the parameters that are written with
it, whatever the dialect. -/
theorem holes_ofExpr (dialect : Dialect) (expression : Expr) :
    (ofExpr dialect expression).holes = expression.writtenNames := by
  cases expression with
  | column name =>
      rw [ofExpr]
      split <;> rfl
  | param name => rfl
  | literal text => rfl
  | call function arguments =>
      simp [ofExpr, Expr.writtenNames, holes_ofExprs dialect arguments]
  | cast operand type => simp [ofExpr, Expr.writtenNames, holes_ofExpr dialect operand]
  | tryCast operand type => simp [ofExpr, Expr.writtenNames, holes_ofExpr dialect operand]
  | choose condition consequent alternative =>
      simp [ofExpr, Expr.writtenNames, holes_ofCondition dialect condition,
        holes_ofExpr dialect consequent, holes_ofExpr dialect alternative]

theorem holes_ofExprs (dialect : Dialect) (items : List Expr) :
    (ofExprs dialect items).flatMap holes = Expr.writtenNamesList items := by
  cases items with
  | nil => rfl
  | cons item items =>
      simp [ofExprs, Expr.writtenNamesList, holes_ofExpr dialect item,
        holes_ofExprs dialect items]

theorem holes_ofCondition (dialect : Dialect) (condition : Condition) :
    (ofCondition dialect condition).holes = condition.writtenNames := by
  cases condition with
  | compare left operator right =>
      simp [ofCondition, Condition.writtenNames, holes_ofExpr dialect left,
        holes_ofExpr dialect right]
      -- what is left is the clause behind a match with wildcards
      split
      · split <;> rfl
      · rfl
  | among operand values negated =>
      rw [ofCondition, Condition.writtenNames]
      split
      · rfl
      · simp [holes_ofExpr dialect operand, holes_ofExprs dialect values]
  | all members =>
      simp [ofCondition, Condition.writtenNames, holes_ofConditions dialect members]
  | any members =>
      simp [ofCondition, Condition.writtenNames, holes_ofConditions dialect members]

theorem holes_ofConditions (dialect : Dialect) (members : List Condition) :
    (ofConditions dialect members).flatMap holes = Condition.writtenNamesList members := by
  cases members with
  | nil => rfl
  | cons member members =>
      simp [ofConditions, Condition.writtenNamesList, holes_ofCondition dialect member,
        holes_ofConditions dialect members]

end

/-- Filling a template succeeds exactly with the values of its holes, in their
order. -/
theorem values_eq_ok_iff {params : Params} {template : Template} {found : List Value} :
    template.values params = .ok found ↔
      template.holes.map params.get? = found.map some := by
  induction template generalizing found with
  | nil => cases found <;> simp [values]
  | cons slot rest induction =>
      cases slot with
      | text content => exact induction
      | hole name =>
          simp only [values, holes_hole, List.map_cons]
          cases bound : params.get? name with
          | none => cases found <;> simp
          | some value =>
              cases found with
              | nil => cases values params rest <;> simp [Except.map]
              | cons head tail =>
                  rw [List.map_cons, List.cons.injEq, ← induction]
                  cases values params rest <;> simp [Except.map]

end Template

namespace Condition

theorem paramNamesList_eq_flatMap (members : List Condition) :
    paramNamesList members = members.flatMap paramNames := by
  induction members with
  | nil => rfl
  | cons member members induction => rw [paramNamesList, induction, List.flatMap_cons]

theorem listedAll_iff {members : List Condition} :
    ListedAll members ↔ ∀ member ∈ members, member.Listed := by
  induction members with
  | nil => simp [ListedAll]
  | cons member members induction => simp [ListedAll, induction]

theorem paramNames_conjuncts (condition : Condition) :
    condition.conjuncts.flatMap paramNames = condition.paramNames := by
  cases condition with
  | all members => exact (paramNamesList_eq_flatMap members).symm
  | compare left operator right => simp [conjuncts]
  | among operand values negated => simp [conjuncts]
  | any members => simp [conjuncts]

theorem paramNames_disjuncts (condition : Condition) :
    condition.disjuncts.flatMap paramNames = condition.paramNames := by
  cases condition with
  | any members => exact (paramNamesList_eq_flatMap members).symm
  | compare left operator right => simp [disjuncts]
  | among operand values negated => simp [disjuncts]
  | all members => simp [disjuncts]

/-- Flattening a conjunction keeps its parameters and their order. -/
theorem paramNames_conjoin (conditions : List Condition) :
    (conjoin conditions).paramNames = conditions.flatMap paramNames := by
  have spliced : (conditions.flatMap conjuncts).flatMap paramNames =
      conditions.flatMap paramNames := by
    simp only [List.flatMap_assoc, paramNames_conjuncts]
  rw [← spliced]
  fun_cases conjoin conditions with
  | case1 only found => simp [found]
  | case2 => rw [paramNames, paramNamesList_eq_flatMap]

/-- Flattening a disjunction keeps its parameters and their order, unless it
restricts nothing. -/
theorem paramNames_disjoin {conditions : List Condition}
    (restricts : (disjoin conditions).isAlways = false) :
    (disjoin conditions).paramNames = conditions.flatMap paramNames := by
  have spliced : (conditions.flatMap disjuncts).flatMap paramNames =
      conditions.flatMap paramNames := by
    simp only [List.flatMap_assoc, paramNames_disjuncts]
  unfold disjoin at restricts ⊢
  by_cases plain : conditions.any isAlways
  · rw [if_pos plain]
    simp [plain, always, isAlways] at restricts
  · rw [if_neg plain, ← spliced]
    split
    · next only found => simp [found]
    · rw [paramNames, paramNamesList_eq_flatMap]

theorem listed_conjuncts {condition : Condition} (listed : condition.Listed) :
    ∀ conjunct ∈ condition.conjuncts, conjunct.Listed := by
  cases condition with
  | all members => exact listedAll_iff.mp listed
  | compare left operator right => simpa [conjuncts] using listed
  | among operand values negated => simpa [conjuncts] using listed
  | any members => simpa [conjuncts] using listed

theorem listed_disjuncts {condition : Condition} (listed : condition.Listed) :
    ∀ disjunct ∈ condition.disjuncts, disjunct.Listed := by
  cases condition with
  | any members => exact listedAll_iff.mp listed
  | compare left operator right => simpa [disjuncts] using listed
  | among operand values negated => simpa [disjuncts] using listed
  | all members => simpa [disjuncts] using listed

theorem listed_conjoin {conditions : List Condition}
    (listed : ∀ condition ∈ conditions, condition.Listed) :
    (conjoin conditions).Listed := by
  have spliced : ∀ member ∈ conditions.flatMap conjuncts, member.Listed := by
    intro member found
    obtain ⟨condition, inside, part⟩ := List.mem_flatMap.mp found
    exact listed_conjuncts (listed condition inside) member part
  fun_cases conjoin conditions with
  | case1 only found => exact spliced only (by simp [found])
  | case2 => exact listedAll_iff.mpr spliced

theorem listed_disjoin {conditions : List Condition}
    (listed : ∀ condition ∈ conditions, condition.Listed) :
    (disjoin conditions).Listed := by
  have spliced : ∀ member ∈ conditions.flatMap disjuncts, member.Listed := by
    intro member found
    obtain ⟨condition, inside, part⟩ := List.mem_flatMap.mp found
    exact listed_disjuncts (listed condition inside) member part
  fun_cases disjoin conditions with
  | case1 => trivial
  | case2 _ only found => exact spliced only (by simp [found])
  | case3 => exact listedAll_iff.mpr spliced

mutual

theorem paramNames_negate (condition : Condition) :
    condition.negate.paramNames = condition.paramNames := by
  cases condition with
  | compare left operator right => rfl
  | among operand values negated => rfl
  | all members => exact paramNamesList_negateList members
  | any members => exact paramNamesList_negateList members

theorem paramNamesList_negateList (members : List Condition) :
    paramNamesList (negateList members) = paramNamesList members := by
  cases members with
  | nil => rfl
  | cons member members =>
      rw [negateList, paramNamesList, paramNamesList, paramNames_negate member,
        paramNamesList_negateList members]

end

mutual

theorem listed_negate {condition : Condition} (listed : condition.Listed) :
    condition.negate.Listed := by
  cases condition with
  | compare left operator right => exact listed
  | among operand values negated => exact listed
  | all members => exact listedAll_negateList listed
  | any members => exact listedAll_negateList listed

theorem listedAll_negateList {members : List Condition} (listed : ListedAll members) :
    ListedAll (negateList members) := by
  cases members with
  | nil => trivial
  | cons member members =>
      exact ⟨listed_negate listed.1, listedAll_negateList listed.2⟩

end

theorem paramNames_negateIf (wanted : Bool) (condition : Condition) :
    (condition.negateIf wanted).paramNames = condition.paramNames := by
  cases wanted with
  | false => rfl
  | true => exact paramNames_negate condition

theorem listed_negateIf {condition : Condition} (listed : condition.Listed)
    (wanted : Bool) : (condition.negateIf wanted).Listed := by
  cases wanted with
  | false => exact listed
  | true => exact listed_negate listed

end Condition

namespace Tree

/-- All fragments of a tree, from left to right. -/
def fragments (tree : Tree) : List Fragment := tree.groups.flatten

/-- The parameters of the combined condition are those of the fragments, one
after the other. -/
theorem paramNames_condition {tree : Tree} {condition : Condition}
    (combined : tree.condition = some condition) :
    condition.paramNames =
      tree.fragments.flatMap fun fragment => fragment.condition.paramNames := by
  obtain ⟨-, restricts, rfl⟩ := condition_eq_some_iff.mp combined
  rw [Condition.paramNames_disjoin restricts, List.flatMap_map, fragments,
    List.flatten_eq_flatMap, List.flatMap_assoc]
  congr 1
  funext group
  rw [groupCondition, Condition.paramNames_conjoin, List.flatMap_map]
  rfl

theorem listed_condition {tree : Tree} {condition : Condition}
    (combined : tree.condition = some condition)
    (listed : ∀ fragment ∈ tree.fragments, fragment.condition.Listed) :
    condition.Listed := by
  obtain ⟨-, -, rfl⟩ := condition_eq_some_iff.mp combined
  apply Condition.listed_disjoin
  intro condition found
  obtain ⟨group, member, rfl⟩ := List.mem_map.mp found
  apply Condition.listed_conjoin
  intro condition inside
  obtain ⟨fragment, part, rfl⟩ := List.mem_map.mp inside
  exact listed fragment (List.mem_flatten.mpr ⟨group, member, part⟩)

end Tree

end ColumnFilter
