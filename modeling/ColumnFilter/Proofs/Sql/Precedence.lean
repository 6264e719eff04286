import ColumnFilter.Proofs.Sql.Formula
import ColumnFilter.Sql.Template

/-!
# Precedence in the text of a condition

Parentheses stand around every junction of several members, a single member stands for
itself, and constants stand for junctions and lists without members.  That is enough
for the text of a condition to have the same reading whichever connective binds
tighter, and this reading means what the condition means.
-/

namespace ColumnFilter

open Formula

mutual

/-- The text of a condition in outline.  A comparison or a membership is an atom, of
which `view` shows what is to be seen. -/
def Condition.tokens {α : Type} (view : Condition → α) : Condition → List (Token α)
  | .compare left operator right => [.atom (view (.compare left operator right))]
  | .among operand values negated =>
      if values.isEmpty then [.constant negated]
      else [.atom (view (.among operand values negated))]
  | .all members => Token.junction .and (Condition.tokensList view members)
  | .any members => Token.junction .or (Condition.tokensList view members)

def Condition.tokensList {α : Type} (view : Condition → α) :
    List Condition → List (List (Token α))
  | [] => []
  | member :: members => member.tokens view :: Condition.tokensList view members

end

mutual

/-- The condition as a formula over what is seen of its comparisons. -/
def Condition.formula {α : Type} (view : Condition → α) : Condition → Formula α
  | .compare left operator right => .atom (view (.compare left operator right))
  | .among operand values negated =>
      if values.isEmpty then .constant negated else .atom (view (.among operand values negated))
  | .all members => junction .and (Condition.formulas view members)
  | .any members => junction .or (Condition.formulas view members)

def Condition.formulas {α : Type} (view : Condition → α) : List Condition → List (Formula α)
  | [] => []
  | member :: members => member.formula view :: Condition.formulas view members

end

/-- A row in which comparisons and memberships have the truth of what is seen of them,
and an empty list has no members. -/
def Valuation.ofAtoms {α : Type} (view : Condition → α) (worth : α → Truth) : Valuation where
  compare left operator right := worth (view (.compare left operator right))
  among operand values negated :=
    if values.isEmpty then .ofBool negated else worth (view (.among operand values negated))

namespace Condition

variable {α : Type} (view : Condition → α)

mutual

theorem reads_tokens (tighter : Connective) (condition : Condition) :
    Reads tighter .operand (condition.tokens view) (condition.formula view) := by
  cases condition with
  | compare left operator right => exact .atom _
  | among operand values negated =>
      rw [tokens, formula]
      split
      · exact .constant negated
      · exact .atom _
  | all members => exact reads_junction .and (reads_tokensList tighter members)
  | any members => exact reads_junction .or (reads_tokensList tighter members)

theorem reads_tokensList (tighter : Connective) (members : List Condition) :
    List.Forall₂ (Reads tighter .operand) (tokensList view members) (formulas view members) := by
  cases members with
  | nil => exact .nil
  | cons member members =>
      exact .cons (reads_tokens tighter member) (reads_tokensList tighter members)

end

mutual

theorem value_formula (worth : α → Truth) (condition : Condition) :
    (condition.formula view).value worth = condition.truth (.ofAtoms view worth) := by
  cases condition with
  | compare left operator right => rfl
  | among operand values negated =>
      rw [formula, truth]
      simp only [Valuation.ofAtoms]
      split <;> rfl
  | all members =>
      rw [formula, value_junction, value_formulas worth members]
      rfl
  | any members =>
      rw [formula, value_junction, value_formulas worth members]
      rfl

theorem value_formulas (worth : α → Truth) (members : List Condition) :
    (formulas view members).map (Formula.value worth) =
      truths (.ofAtoms view worth) members := by
  cases members with
  | nil => rfl
  | cons member members =>
      rw [formulas, List.map_cons, value_formula worth member, value_formulas worth members,
        truths]

end

end Condition

/-- The text of a token, where an atom shows its own. -/
def Formula.Token.spell : Token Template → Template
  | .atom template => template
  | .constant holds => [.text (if holds then "1 = 1" else "1 = 0")]
  | .opening => [.text "("]
  | .closing => [.text ")"]
  | .connective kind => [.text kind.text]

namespace Template

def spelled (tokens : List (Token Template)) : Template := tokens.flatMap Token.spell

theorem joined_cons (separator : String) (first : Template) (others : List Template) :
    joined separator (first :: others) = first ++ others.flatMap (.text separator :: ·) := by
  induction others generalizing first with
  | nil => simp [joined]
  | cons second others induction =>
      rw [joined, induction, List.flatMap_cons, List.cons_append]
      simp

theorem spelled_junction (connective : Connective) (texts : List (List (Token Template))) :
    spelled (Token.junction connective texts) =
      junction connective.text (if connective.neutral then "1 = 1" else "1 = 0")
        (texts.map spelled) := by
  match texts with
  | [] => rfl
  | [only] => rfl
  | first :: second :: others =>
      simp [spelled, Token.junction, Token.spell, junction, joined_cons, List.flatMap_assoc,
        List.flatMap_map]

mutual

/-- The tokens of a condition spell its template. -/
theorem spelled_tokens (dialect : Dialect) (condition : Condition) :
    spelled (condition.tokens (ofCondition dialect)) = ofCondition dialect condition := by
  cases condition with
  | compare left operator right => simp [spelled, Condition.tokens, Token.spell]
  | among operand values negated =>
      rw [Condition.tokens]
      by_cases vacant : values.isEmpty
      · rw [if_pos vacant]
        simp [spelled, Token.spell, ofCondition, vacant]
      · rw [if_neg vacant]
        simp [spelled, Token.spell]
  | all members =>
      rw [Condition.tokens, spelled_junction, spelled_tokensList dialect members]
      rfl
  | any members =>
      rw [Condition.tokens, spelled_junction, spelled_tokensList dialect members]
      rfl

theorem spelled_tokensList (dialect : Dialect) (members : List Condition) :
    (Condition.tokensList (ofCondition dialect) members).map spelled =
      ofConditions dialect members := by
  cases members with
  | nil => rfl
  | cons member members =>
      rw [Condition.tokensList, List.map_cons, spelled_tokens dialect member,
        spelled_tokensList dialect members, ofConditions]

end

end Template

namespace Condition

/-- Whichever connective binds tighter, the text of a condition has exactly one reading,
the same one for both, and it means what the condition means.  So conditions with the
same text are equivalent. -/
theorem reads_iff {α : Type} (view : Condition → α) (condition : Condition) :
    (∃ formula : Formula α,
      (∀ tighter reading,
        Reads tighter .loose (condition.tokens view) reading ↔ reading = formula) ∧
      ∀ worth, formula.value worth = condition.truth (.ofAtoms view worth)) ∧
    (∀ dialect, Template.spelled (condition.tokens (Template.ofCondition dialect)) =
      Template.ofCondition dialect condition) ∧
    ∀ other : Condition, other.tokens view = condition.tokens view →
      ∀ worth, other.truth (.ofAtoms view worth) = condition.truth (.ofAtoms view worth) := by
  have reads : ∀ (tighter : Connective) (condition : Condition),
      Reads tighter .loose (condition.tokens view) (condition.formula view) :=
    fun tighter condition => .chain (.operand (reads_tokens view tighter condition))
  refine ⟨⟨condition.formula view, ?_, fun worth => value_formula view worth condition⟩,
    fun dialect => Template.spelled_tokens dialect condition, ?_⟩
  · intro tighter reading
    constructor
    · exact fun reads' => reads'.unique (reads tighter condition)
    · rintro rfl
      exact reads tighter condition
  · intro other same worth
    have reads' := reads .and other
    rw [same] at reads'
    rw [← value_formula view worth other, ← value_formula view worth condition,
      reads'.unique (reads .and condition)]

/-- Single members and an empty list of values leave no trace in the text. -/
theorem reads_iff_single :
    let leaf : Condition := .compare (.column "a") .less (.param "p")
    let written : Condition := .all [leaf, .all []]
    let other : Condition := .any [.all [.any [leaf], .among (.column "b") [] true]]
    other.tokens id = written.tokens id ∧
      ∀ worth, other.truth (.ofAtoms id worth) = written.truth (.ofAtoms id worth) := by
  intro leaf written other
  obtain ⟨-, -, equivalent⟩ := reads_iff id written
  exact ⟨rfl, equivalent other rfl⟩

end Condition

end ColumnFilter
