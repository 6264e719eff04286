import ColumnFilter.Proofs.Sql.Truth
import ColumnFilter.Sql.Params
import Mathlib.Data.Rat.Defs
import Mathlib.Algebra.Field.Rat

/-!
# Expressions in an engine

A database engine says what functions, types and operators mean.  With it and
the columns of a row, an expression is worth a datum and a condition has a
truth.  Only conversions between types can fail, and a failure ends the whole
statement; whether one happens is told apart from what the expression is worth.
-/

namespace ColumnFilter

namespace Truth

open Classical in
noncomputable def ofProp (holds : Prop) : Truth := if holds then .yes else .no

@[simp] theorem ofProp_eq_yes_iff {holds : Prop} : ofProp holds = .yes ↔ holds := by
  unfold ofProp
  split <;> simp_all

theorem not_ofProp (holds : Prop) : (ofProp holds).not = ofProp (¬ holds) := by
  by_cases known : holds <;> simp [ofProp, known, not]

theorem and_ofProp (first second : Prop) :
    (ofProp first).and (ofProp second) = ofProp (first ∧ second) := by
  by_cases known : first <;> by_cases known' : second <;> simp [ofProp, known, known', and]

theorem all_map_ofProp {α : Type} (items : List α) (holds : α → Prop) :
    all (items.map fun item => ofProp (holds item)) = ofProp (∀ item ∈ items, holds item) := by
  induction items with
  | nil => simp [ofProp]
  | cons item items induction =>
      rw [List.map_cons, all_cons, induction, and_ofProp, List.forall_mem_cons]

end Truth

namespace Decimal

theorem digitValue?_of_isDigit {c : Char} (digit : c.isDigit = true) :
    digitValue? c = some (c.toNat - '0'.toNat) := by
  have bounds : '0' ≤ c ∧ c ≤ '9' := by
    rw [Char.isDigit, Bool.and_eq_true, decide_eq_true_iff, decide_eq_true_iff] at digit
    exact digit
  rw [digitValue?, if_pos bounds]

theorem readDigits?_of_isDigit (skipUnderscore : Bool) {digits : List Char}
    (all : ∀ c ∈ digits, c.isDigit = true) (acc : Nat) :
    readDigits? skipUnderscore acc digits = some (Nat.ofDigitChars 10 digits acc) := by
  induction digits generalizing acc with
  | nil => rfl
  | cons c digits induction =>
      obtain ⟨digit, later⟩ := List.forall_mem_cons.mp all
      have plain : (c == '_') = false := by
        rw [beq_eq_false_iff_ne]
        rintro rfl
        simp at digit
      rw [readDigits?, digitValue?_of_isDigit digit, Nat.ofDigitChars_cons]
      simp only [plain, Bool.and_false, Bool.false_eq_true, if_false]
      exact induction later _

theorem ne_of_isDigit {c mark : Char} (digit : c.isDigit = true) (other : mark.isDigit = false) :
    c ≠ mark := by
  rintro rfl
  simp [digit] at other

theorem readMagnitude?_of_isDigit {digits : List Char} (present : digits ≠ [])
    (all : ∀ c ∈ digits, c.isDigit = true) :
    readMagnitude? digits = some (Nat.ofDigitChars 10 digits 0) := by
  have read := readDigits?_of_isDigit true all 0
  cases digits with
  | nil => exact absurd rfl present
  | cons c rest =>
      have digit := all c List.mem_cons_self
      simp [readMagnitude?, ne_of_isDigit digit (show '+'.isDigit = false from rfl),
        ne_of_isDigit digit (show '_'.isDigit = false from rfl), read]

theorem readInteger?_of_isDigit {digits : List Char} (present : digits ≠ [])
    (all : ∀ c ∈ digits, c.isDigit = true) :
    readInteger? digits = some (Nat.ofDigitChars 10 digits 0 : Int) := by
  have magnitude := readMagnitude?_of_isDigit present all
  cases digits with
  | nil => exact absurd rfl present
  | cons c rest =>
      have digit := all c List.mem_cons_self
      simp [readInteger?, ne_of_isDigit digit (show '-'.isDigit = false from rfl), magnitude]

theorem readInteger?_minus_of_isDigit {digits : List Char} (present : digits ≠ [])
    (all : ∀ c ∈ digits, c.isDigit = true) :
    readInteger? ('-' :: digits) = some (-(Nat.ofDigitChars 10 digits 0 : Int)) := by
  have magnitude := readMagnitude?_of_isDigit present all
  cases digits with
  | nil => exact absurd rfl present
  | cons c rest =>
      have digit := all c List.mem_cons_self
      simp [readInteger?, ne_of_isDigit digit (show '+'.isDigit = false from rfl), magnitude]

end Decimal

/-- What an expression is worth for a row. -/
inductive Datum where
  | null
  | text (content : String)
  | number (value : ℚ)

namespace Datum

def ofValue : Value → Datum
  | .int n => .number n.toInt
  | .decimal decimal => .number (decimal.digits * (10 : ℚ) ^ (-decimal.scale))
  | .string content => .text content
  | .null => .null

/-- A text up to the quote that ends it. -/
def unquote : List Char → List Char
  | [] => []
  | '\'' :: '\'' :: rest => '\'' :: unquote rest
  | '\'' :: _ => []
  | c :: rest => c :: unquote rest

/-- What a literal of a statement is worth: a text between quotes, in which a
backslash is an ordinary character, an integer, or nothing. -/
def ofLiteral (literal : String) : Datum :=
  match literal.toList with
  | '\'' :: rest => .text (String.ofList (unquote rest))
  | letters =>
      match Decimal.readInteger? letters with
      | some n => .number n
      | none => .null

theorem unquote_quoted (content : List Char) :
    unquote (content.flatMap (fun c => if c = '\'' then ['\'', '\''] else [c]) ++ ['\'']) =
      content := by
  induction content with
  | nil => rfl
  | cons c content induction =>
      by_cases quote : c = '\''
      · simp [quote, unquote, induction]
      · simp [quote, unquote, induction]

@[simp] theorem ofLiteral_quote (content : String) :
    ofLiteral (Value.quote content) = .text content := by
  simp [ofLiteral, Value.quote, unquote_quoted]

@[simp] theorem ofLiteral_toString (n : Nat) : ofLiteral (toString n) = .number n := by
  have digits : ∀ c ∈ Nat.toDigits 10 n, c.isDigit = true := fun c member =>
    Nat.isDigit_of_mem_toDigits (by decide) (by decide) member
  have read := Decimal.readInteger?_of_isDigit Nat.toDigits_ne_nil digits
  rw [Nat.ofDigitChars_ten_toDigits] at read
  rw [ofLiteral, Nat.toString_eq_ofList_toDigits, String.toList_ofList]
  cases shape : Nat.toDigits 10 n with
  | nil => exact absurd shape Nat.toDigits_ne_nil
  | cons c rest =>
      have quoteless : c ≠ '\'' := by
        rintro rfl
        simpa using digits '\'' (by simp [shape])
      rw [shape] at read
      simp [quoteless, read]

end Datum

/-- What a database engine makes of functions, types and operators. -/
structure Semantics where
  call : String → List Datum → Datum
  /-- A datum as one of another type; none if it cannot be converted. -/
  cast : String → Datum → Option Datum
  compare : Operator → Datum → Datum → Truth

namespace Semantics

variable (engine : Semantics) (columns : String → Datum) (params : Params)

mutual

/-- What an expression is worth for the columns of a row. -/
def worth : Expr → Datum
  | .column name => columns name
  | .param name => (params.get? name).elim .null .ofValue
  | .literal text => .ofLiteral text
  | .call function arguments => engine.call function (worths arguments)
  | .cast operand type => (engine.cast type (worth operand)).getD .null
  | .tryCast operand type => (engine.cast type (worth operand)).getD .null
  | .choose condition consequent alternative =>
      if judge condition = .yes then worth consequent else worth alternative

def worths : List Expr → List Datum
  | [] => []
  | item :: items => worth item :: worths items

/-- The truth of a condition for the columns of a row.  Membership in a list is
equality with one of its values. -/
def judge : Condition → Truth
  | .compare left operator right => engine.compare operator (worth left) (worth right)
  | .among operand values negated =>
      let found := Truth.any ((worths values).map (engine.compare .equal (worth operand)))
      if negated then found.not else found
  | .all members => Truth.all (judges members)
  | .any members => Truth.any (judges members)

def judges : List Condition → List Truth
  | [] => []
  | member :: members => judge member :: judges members

end

mutual

/-- No conversion fails where the expression is evaluated: of a choice, that is
the branch that is taken. -/
def Completes : Expr → Prop
  | .column _ => True
  | .param _ => True
  | .literal _ => True
  | .call _ arguments => CompletesAll arguments
  | .cast operand type =>
      Completes operand ∧ engine.cast type (engine.worth columns params operand) ≠ none
  | .tryCast operand _ => Completes operand
  | .choose condition consequent alternative =>
      ConditionCompletes condition ∧
        if engine.judge columns params condition = .yes then Completes consequent
        else Completes alternative

def CompletesAll : List Expr → Prop
  | [] => True
  | item :: items => Completes item ∧ CompletesAll items

def ConditionCompletes : Condition → Prop
  | .compare left _ right => Completes left ∧ Completes right
  | .among operand values _ => Completes operand ∧ CompletesAll values
  | .all members => ConditionsComplete members
  | .any members => ConditionsComplete members

def ConditionsComplete : List Condition → Prop
  | [] => True
  | member :: members => ConditionCompletes member ∧ ConditionsComplete members

end

/-- What the engine makes of comparisons and memberships for a row. -/
def valuation : Valuation where
  compare left operator right :=
    engine.compare operator (engine.worth columns params left) (engine.worth columns params right)
  among operand values negated := engine.judge columns params (.among operand values negated)

mutual

theorem judge_eq_truth (condition : Condition) :
    engine.judge columns params condition =
      condition.truth (engine.valuation columns params) := by
  cases condition with
  | compare left operator right => simp only [judge, Condition.truth, valuation]
  | among operand values negated => simp only [Condition.truth, valuation]
  | all members => rw [judge, Condition.truth, judges_eq_truths members]
  | any members => rw [judge, Condition.truth, judges_eq_truths members]

theorem judges_eq_truths (members : List Condition) :
    engine.judges columns params members =
      Condition.truths (engine.valuation columns params) members := by
  cases members with
  | nil => simp only [judges, Condition.truths]
  | cons member members =>
      rw [judges, Condition.truths, judge_eq_truth member, judges_eq_truths members]

end

theorem judge_conjoin (conditions : List Condition) :
    engine.judge columns params (.conjoin conditions) =
      Truth.all (conditions.map (engine.judge columns params)) := by
  rw [judge_eq_truth, Condition.truth_conjoin]
  refine congrArg Truth.all (List.map_congr_left fun condition _ => ?_)
  exact (judge_eq_truth engine columns params condition).symm

theorem conditionsComplete_iff (conditions : List Condition) :
    engine.ConditionsComplete columns params conditions ↔
      ∀ condition ∈ conditions, engine.ConditionCompletes columns params condition := by
  induction conditions with
  | nil => simp [ConditionsComplete]
  | cons condition conditions induction =>
      rw [ConditionsComplete, induction, List.forall_mem_cons]

theorem conditionCompletes_conjoin (conditions : List Condition) :
    engine.ConditionCompletes columns params (.conjoin conditions) ↔
      ∀ condition ∈ conditions, engine.ConditionCompletes columns params condition := by
  have conjuncts : ∀ condition : Condition,
      (∀ member ∈ condition.conjuncts, engine.ConditionCompletes columns params member) ↔
        engine.ConditionCompletes columns params condition := by
    intro condition
    cases condition with
    | all members => rw [Condition.conjuncts, ConditionCompletes, conditionsComplete_iff]
    | _ => exact List.forall_mem_singleton
  have spliced : (∀ member ∈ conditions.flatMap Condition.conjuncts,
      engine.ConditionCompletes columns params member) ↔
        ∀ condition ∈ conditions, engine.ConditionCompletes columns params condition := by
    simp only [List.forall_mem_flatMap, conjuncts]
  rw [← spliced]
  fun_cases Condition.conjoin conditions with
  | case1 only single => rw [single, List.forall_mem_singleton]
  | case2 => rw [ConditionCompletes, conditionsComplete_iff]

variable {engine}

/-- Inverse operators hold where the operators themselves fail, and are unknown
where these are. -/
def Inverts (engine : Semantics) : Prop :=
  ∀ operator left right,
    engine.compare operator.inverse left right = (engine.compare operator left right).not

theorem Inverts.complementary (inverts : engine.Inverts) :
    (engine.valuation columns params).Complementary where
  compare_inverse left operator right := inverts operator _ _
  among_not operand values negated := by
    have involutive : ∀ truth : Truth, truth.not.not = truth := by
      intro truth
      cases truth <;> rfl
    cases negated <;> simp [valuation, judge, involutive]

theorem Inverts.judge_negateIf (inverts : engine.Inverts) (negated : Bool)
    (condition : Condition) :
    engine.judge columns params (condition.negateIf negated) =
      if negated then (engine.judge columns params condition).not
      else engine.judge columns params condition := by
  cases negated with
  | false => rfl
  | true =>
      rw [judge_eq_truth, judge_eq_truth]
      exact Condition.truth_negate (inverts.complementary columns params) condition

end Semantics

end ColumnFilter
