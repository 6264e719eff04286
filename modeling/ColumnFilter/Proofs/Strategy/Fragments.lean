import ColumnFilter.Proofs.Result
import ColumnFilter.Proofs.Sql.Bindings
import ColumnFilter.Strategy

/-!
# Fragments of accepted segments

`Strategy.Makes` says once what a strategy can make of a segment: one fragment
for each way in which it accepts.  All that holds of fragments is read off
these cases, first of all that they are well formed.
-/

namespace ColumnFilter

/-- The fragment that a strategy makes of a segment which it accepts. -/
inductive Strategy.Makes (target : Target) (segment : Segment) :
    Strategy → Fragment → Prop where
  | range {ranges : Range} {bounds : List Range.Bound}
      (found : ranges.bounds segment.text = .ok (some bounds)) :
      Makes target segment (.range ranges)
        (Range.fragment ranges.options target segment bounds)
  | exact {options : Marked} {inner : String}
      (marked : options.markers.strip? segment.text = some inner) :
      Makes target segment (.exact options)
        (options.wholeFragment target segment inner)
  | substring {options : Marked} {inner : String}
      (marked : options.markers.strip? segment.text = some inner) :
      Makes target segment (.substring options)
        (options.partFragment target segment inner)
  | regex {options : Marked} {inner : String}
      (marked : options.markers.strip? segment.text = some inner) :
      Makes target segment (.regex options)
        (target.dialect.patternFragment (target.operand options.nullAsEmpty) inner
          segment.negated (parameterName "regex" segment.text target.column))
  | words (options : Words) :
      Makes target segment (.words options) (options.fragment target segment)

namespace Range

/-- A text that has one of the forms describes one bound at least. -/
theorem bounds_ne_nil {ranges : Range} {text : String} {bounds : List Bound}
    (found : ranges.bounds text = .ok (some bounds)) : bounds ≠ [] := by
  have formBounds_ne_nil : ∀ (forms : List (Form × Pattern)) {bounds : List Bound},
      formBounds text.toList forms = .ok (some bounds) → bounds ≠ [] := by
    intro forms
    induction forms with
    | nil => simp [formBounds]
    | cons entry forms induction =>
        intro bounds found
        rw [formBounds] at found
        cases matched : entry.2.search? text.toList with
        | none =>
            simp only [matched] at found
            exact induction found
        | some marks =>
            simp only [matched] at found
            cases number : numberIn entry.2 text.toList marks startGroup with
            | error problem => simp [number, Except.map] at found
            | ok written =>
                simp only [number, Except.map, Except.ok.injEq, Option.some.injEq] at found
                subst found
                cases entry.1 <;> simp [Form.operators]
  unfold Range.bounds at found
  split at found
  · exact formBounds_ne_nil ranges.forms found
  · unfold betweenBounds at found
    split at found
    · simp at found
    · split at found
      · simp at found
      · simp at found
      · simp only [Except.ok.injEq, Option.some.injEq] at found
        subst found
        simp

end Range

namespace Strategy

/-- Whatever was probed before, an accepted segment has one of the fragments
that the strategy can make of it. -/
theorem makes_of_accept {strategy : Strategy} {target : Target} {segment : Segment}
    {earlier : List Probe} {fragment : Fragment}
    (accepted : ((strategy.accept target segment).run earlier).1 = .ok (some fragment)) :
    strategy.Makes target segment fragment := by
  cases strategy with
  | range ranges =>
      simp only [accept, Range.range?, Probed.run_pure] at accepted
      cases found : ranges.bounds segment.text with
      | error problem => simp [found, Except.map] at accepted
      | ok bounds =>
          cases bounds with
          | none => simp [found, Except.map] at accepted
          | some bounds =>
              simp only [found, Except.map, Except.mapError_ok, Option.map_some,
                Except.ok.injEq, Option.some.injEq] at accepted
              subst accepted
              exact .range found
  | exact options =>
      simp only [accept, Marked.searchWhole?, Probed.run_pure, Except.ok.injEq,
        Option.map_eq_some_iff] at accepted
      obtain ⟨inner, marked, rfl⟩ := accepted
      exact .exact marked
  | substring options =>
      simp only [accept, Marked.searchPart?, Probed.run_pure, Except.ok.injEq,
        Option.map_eq_some_iff] at accepted
      obtain ⟨inner, marked, rfl⟩ := accepted
      exact .substring marked
  | regex options =>
      simp only [accept, Marked.searchPattern?] at accepted
      cases marked : options.markers.strip? segment.text with
      | none => simp [marked] at accepted
      | some inner =>
          simp only [marked, Probed.run_map] at accepted
          generalize ((target.dialect.checkPattern target.connection inner).run earlier).1 =
            checked at accepted
          cases checked with
          | error problem => simp [Except.map] at accepted
          | ok valid =>
              cases valid with
              | false => simp [Except.map] at accepted
              | true =>
                  simp only [Except.map, Except.mapError_ok, if_true, Except.ok.injEq,
                    Option.some.injEq] at accepted
                  subst accepted
                  exact .regex marked
  | words options =>
      simp only [accept, Probed.run_pure, Except.ok.injEq, Option.some.injEq] at accepted
      subst accepted
      exact .words options

end Strategy

/-- No parameter occurs in the expression, and no list of values is empty. -/
structure Expr.Constant (expression : Expr) : Prop where
  listed : expression.Listed
  paramNames_eq_nil : expression.paramNames = []

namespace Target

theorem constant_operand (target : Target) (nullAsEmpty : Bool) :
    (target.operand nullAsEmpty).Constant := by
  unfold operand Dialect.nullToEmpty
  cases nullAsEmpty with
  | false => exact ⟨trivial, rfl⟩
  | true =>
      cases target.dialect <;>
        exact ⟨by simp [Dialect.textual, Expr.Listed, Expr.ListedAll, Expr.text], rfl⟩

end Target

namespace Dialect

theorem constant_toDecimal (dialect : Dialect) {operand : Expr} (constant : operand.Constant)
    (digits places : UInt32) (fallback : Option Int) :
    (dialect.toDecimal operand digits places fallback).Constant := by
  have fallbackConstant : (Expr.fallback fallback).Constant := by
    cases fallback <;> exact ⟨trivial, rfl⟩
  obtain ⟨listed, names⟩ := constant
  obtain ⟨fallbackListed, fallbackNames⟩ := fallbackConstant
  cases dialect with
  | mySql =>
      unfold toDecimal
      simp only
      split
      · exact ⟨listed, names⟩
      · constructor <;> simp [Expr.Listed, Condition.Listed, Expr.paramNames,
          Condition.paramNames, Expr.text, listed, names, fallbackListed, fallbackNames]
  | postgres =>
      constructor <;> simp [toDecimal, postgresGuard, Condition.conjoin,
        Condition.conjuncts, Expr.Listed, Expr.ListedAll, Condition.Listed,
        Condition.ListedAll, Expr.paramNames, Expr.paramNamesList, Condition.paramNames,
        Condition.paramNamesList, Expr.text, listed, names, fallbackListed, fallbackNames]
  | sqlServer =>
      constructor <;> simp [toDecimal, sqlServerGuard, Condition.conjoin,
        Condition.conjuncts, Expr.Listed, Expr.ListedAll, Condition.Listed,
        Condition.ListedAll, Expr.paramNames, Expr.paramNamesList, Condition.paramNames,
        Condition.paramNamesList, Expr.text, listed, names, fallbackListed, fallbackNames]
  | sqlServer2012 =>
      unfold toDecimal
      simp only
      split
      · constructor <;> simp [Expr.Listed, Expr.ListedAll, Expr.paramNames,
          Expr.paramNamesList, listed, names, fallbackListed, fallbackNames]
      · exact ⟨listed, names⟩

end Dialect

theorem Condition.paramNames_comparisons {α : Type} {operand : Expr}
    (constant : operand.Constant) (items : List α) (operator : α → Operator)
    (param : α → String) (negated : Bool) :
    ((conjoin (items.map fun item =>
      .compare operand (operator item) (.param (param item)))).negateIf negated).paramNames =
      items.map param := by
  rw [paramNames_negateIf, paramNames_conjoin, List.flatMap_map, List.map_eq_flatMap]
  congr 1
  funext item
  rw [paramNames, constant.paramNames_eq_nil, Expr.paramNames, List.nil_append]

namespace Fragment

/-- Comparisons of one operand with parameters that are bound along with them
make a well-formed fragment, inverted or not, and it restricts something. -/
theorem wellFormed_comparisons {α : Type} {operand : Expr} (constant : operand.Constant)
    {items : List α} (present : items ≠ []) (operator : α → Operator)
    (param : α → String) (value : α → Value) (negated : Bool) :
    let condition := Condition.conjoin
      (items.map fun item => .compare operand (operator item) (.param (param item)))
    (Fragment.mk (condition.negateIf negated)
        (.ofList (items.map fun item => (param item, value item)))).WellFormed ∧
      (condition.negateIf negated).isAlways = false := by
  intro condition
  have leaves : ∀ member ∈ items.map fun item =>
      Condition.compare operand (operator item) (.param (param item)), member.IsLeaf := by
    intro member found
    obtain ⟨item, _, rfl⟩ := List.mem_map.mp found
    trivial
  have joined := Condition.flat_conjoin (by simpa using present) leaves
  have final := joined.1.negateIf joined.2 negated
  refine ⟨⟨final.1, ?_, ?_⟩, final.2⟩
  · apply Condition.listed_negateIf
    apply Condition.listed_conjoin
    intro member found
    obtain ⟨item, _, rfl⟩ := List.mem_map.mp found
    exact ⟨constant.listed, trivial⟩
  · intro name inside
    rw [Condition.paramNames_comparisons constant] at inside
    apply Params.isSome_get?_ofList
    rw [List.map_map]
    exact inside

theorem wellFormed_leaf {condition : Condition} (leaf : condition.IsLeaf)
    (listed : condition.Listed) {param : String}
    (names : condition.paramNames = [param]) (value : Value) (negated : Bool) :
    (Fragment.mk (condition.negateIf negated) (.single param value)).WellFormed ∧
      (condition.negateIf negated).isAlways = false := by
  have final := (Condition.Flat.leaf leaf).negateIf leaf.isAlways_eq_false negated
  refine ⟨⟨final.1, Condition.listed_negateIf listed negated, ?_⟩, final.2⟩
  intro name inside
  rw [Condition.paramNames_negateIf, names, List.mem_singleton] at inside
  subst inside
  exact Params.isSome_get?_ofList (by simp)

end Fragment

namespace Dialect

theorem patternCondition_leaf (dialect : Dialect) {operand : Expr}
    (constant : operand.Constant) (negated : Bool) (param : String) :
    let condition := dialect.patternCondition operand negated param
    condition.IsLeaf ∧ condition.Listed ∧ condition.paramNames = [param] := by
  obtain ⟨listed, names⟩ := constant
  cases dialect <;>
    simp [patternCondition, Condition.IsLeaf, Condition.Listed, Expr.Listed,
      Expr.ListedAll, Condition.paramNames, Expr.paramNames, Expr.paramNamesList,
      listed, names]

end Dialect

namespace Strategy.Makes

variable {strategy : Strategy} {target : Target} {segment : Segment} {fragment : Fragment}

/-- Every fragment is well formed, and one that restricts nothing binds
nothing. -/
theorem wellFormed (makes : strategy.Makes target segment fragment) :
    fragment.WellFormed ∧ (fragment.isAlways = true → fragment.params = ∅) := by
  have restricting : ∀ {fragment : Fragment},
      fragment.WellFormed ∧ fragment.isAlways = false →
        fragment.WellFormed ∧ (fragment.isAlways = true → fragment.params = ∅) :=
    fun made => ⟨made.1, fun plain => by simp [made.2] at plain⟩
  have operand := target.constant_operand
  cases makes with
  | @range ranges bounds found =>
      apply restricting
      exact Fragment.wellFormed_comparisons
        (target.dialect.constant_toDecimal (operand _) _ _ _)
        (Range.bounds_ne_nil found) _ _ _ segment.negated
  | exact marked =>
      apply restricting
      apply Fragment.wellFormed_leaf
      · trivial
      · exact ⟨rfl, (operand _).listed, trivial, trivial⟩
      · simp [Condition.paramNames, (operand _).paramNames_eq_nil, Expr.paramNamesList,
          Expr.paramNames]
  | @substring options inner marked =>
      unfold Marked.partFragment
      split
      · exact ⟨Fragment.wellFormed_always, fun _ => rfl⟩
      · apply restricting
        apply Fragment.wellFormed_leaf
        · trivial
        · exact ⟨(operand _).listed, trivial⟩
        · simp [Condition.paramNames, (operand _).paramNames_eq_nil, Expr.paramNames]
  | @regex options inner marked =>
      apply restricting
      obtain ⟨leaf, listed, names⟩ := target.dialect.patternCondition_leaf
        (operand options.nullAsEmpty) segment.negated
        (parameterName "regex" segment.text target.column)
      exact Fragment.wellFormed_leaf leaf listed names _ false
  | words options =>
      unfold Words.fragment
      simp only
      by_cases present : (options.words segment.text).isEmpty
      · rw [if_pos present]
        exact ⟨Fragment.wellFormed_always, fun _ => rfl⟩
      · rw [if_neg present]
        apply restricting
        exact Fragment.wellFormed_comparisons (operand _) (by simpa using present)
          (fun _ => .like) _ _ segment.negated

end Strategy.Makes

end ColumnFilter
