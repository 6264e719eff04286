import ColumnFilter.Proofs.Strategy.Fragments

/-!
# Fragments in two dialects

What a strategy makes of a segment is spelled differently in every dialect, but
the operand that is spelled so has no parameters.  So the fragments of two
dialects bind the same parameters and mention them in the same order.
-/

namespace ColumnFilter

/-- Fragments that bind and mention the same parameters, and that both restrict
something or both nothing. -/
structure Fragment.Alike (fragment other : Fragment) : Prop where
  params : fragment.params = other.params
  paramNames : fragment.condition.paramNames = other.condition.paramNames
  isAlways : fragment.isAlways = other.isAlways

namespace Fragment

theorem Alike.refl (fragment : Fragment) : fragment.Alike fragment := ⟨rfl, rfl, rfl⟩

/-- The operand that several parameters are compared with can be any other. -/
theorem alike_comparisons {α : Type} {operand other : Expr} (constant : operand.Constant)
    (constant' : other.Constant) {items : List α} (present : items ≠ [])
    (operator : α → Operator) (param : α → String) (value : α → Value) (negated : Bool) :
    let compared (operand : Expr) : Fragment :=
      ⟨(Condition.conjoin (items.map fun item =>
          .compare operand (operator item) (.param (param item)))).negateIf negated,
        .ofList (items.map fun item => (param item, value item))⟩
    (compared operand).Alike (compared other) where
  params := rfl
  paramNames := by
    rw [Condition.paramNames_comparisons constant, Condition.paramNames_comparisons constant']
  isAlways := by
    rw [isAlways, isAlways,
      (wellFormed_comparisons constant present operator param value negated).2,
      (wellFormed_comparisons constant' present operator param value negated).2]

/-- A single comparison can be any other one of the same parameter. -/
theorem alike_leaf {condition other : Condition} (leaf : condition.IsLeaf)
    (leaf' : other.IsLeaf) (names : condition.paramNames = other.paramNames)
    (params : Params) (negated : Bool) :
    (Fragment.mk (condition.negateIf negated) params).Alike ⟨other.negateIf negated, params⟩ where
  params := rfl
  paramNames := by
    rw [Condition.paramNames_negateIf, Condition.paramNames_negateIf, names]
  isAlways := by
    rw [isAlways, isAlways,
      ((Condition.Flat.leaf leaf).negateIf leaf.isAlways_eq_false negated).2,
      ((Condition.Flat.leaf leaf').negateIf leaf'.isAlways_eq_false negated).2]

end Fragment

/-- Of one segment a strategy makes like fragments for one column, whatever the dialect
and the connection. -/
theorem Strategy.Makes.alike {strategy : Strategy} {target target' : Target}
    {segment : Segment} {fragment other : Fragment} (column : target.column = target'.column)
    (makes : strategy.Makes target segment fragment)
    (makes' : strategy.Makes target' segment other) : fragment.Alike other := by
  obtain ⟨name, dialect, connection⟩ := target
  obtain ⟨name', dialect', connection'⟩ := target'
  obtain rfl : name = name' := column
  have operand := Target.constant_operand ⟨name, dialect, connection⟩
  have operand' := Target.constant_operand ⟨name, dialect', connection'⟩
  cases makes with
  | @range ranges bounds found =>
      cases makes' with
      | range found' =>
          obtain rfl := Option.some.inj (Except.ok.inj (found.symm.trans found'))
          exact Fragment.alike_comparisons (dialect.constant_toDecimal (operand _) _ _ _)
            (dialect'.constant_toDecimal (operand' _) _ _ _) (Range.bounds_ne_nil found)
            _ _ _ segment.negated
  | @exact options inner marked =>
      cases makes' with
      | exact marked' =>
          obtain rfl := Option.some.inj (marked.symm.trans marked')
          refine Fragment.alike_leaf ?_ ?_ ?_ _ segment.negated
          · trivial
          · trivial
          · simp only [Condition.paramNames, (operand _).paramNames_eq_nil,
              (operand' _).paramNames_eq_nil]
  | @substring options inner marked =>
      cases makes' with
      | substring marked' =>
          obtain rfl := Option.some.inj (marked.symm.trans marked')
          unfold Marked.partFragment
          split
          · exact .refl _
          · refine Fragment.alike_leaf ?_ ?_ ?_ _ segment.negated
            · trivial
            · trivial
            · simp only [Condition.paramNames, (operand _).paramNames_eq_nil,
                (operand' _).paramNames_eq_nil]
  | @regex options inner marked =>
      cases makes' with
      | regex marked' =>
          obtain rfl := Option.some.inj (marked.symm.trans marked')
          obtain ⟨leaf, -, names⟩ := dialect.patternCondition_leaf (operand options.nullAsEmpty)
            segment.negated (parameterName "regex" segment.text name)
          obtain ⟨leaf', -, names'⟩ := dialect'.patternCondition_leaf
            (operand' options.nullAsEmpty) segment.negated
            (parameterName "regex" segment.text name)
          exact Fragment.alike_leaf leaf leaf' (names.trans names'.symm) _ false
  | words options =>
      cases makes' with
      | words _ =>
          unfold Words.fragment
          simp only
          by_cases vacant : (options.words segment.text).isEmpty
          · rw [if_pos vacant, if_pos vacant]
            exact .refl _
          · rw [if_neg vacant, if_neg vacant]
            exact Fragment.alike_comparisons (operand _) (operand' _) (by simpa using vacant)
              (fun _ => .like) _ _ segment.negated

end ColumnFilter
