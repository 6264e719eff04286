import Mathlib.Control.Monad.Basic
import ColumnFilter.Proofs.Strategy.Fragments
import ColumnFilter.Proofs.Strategy.Numbers

/-!
# Ranges that are whole texts

Where the pattern of a number is one by itself, a segment is a range as a whole or not at
all, and every number of it is known.  Where it is not, its parentheses can pair up with
those around it.  Then it reaches out of its group, and a part of a segment is enough, or a
number is missing.
-/

namespace ColumnFilter

namespace Range

/-- What the pattern finds in a text is the whole of it, with a text for each group. -/
def FindsWhole (pattern : Pattern) (groups : List String) (text : List Char) : Prop :=
  ∀ marks, pattern.search? text = some marks →
    pattern.regex.Captures [] text [] [] marks ∧
      ∀ group ∈ groups, ∃ number, numberIn pattern text marks group = .ok number

theorem findsWhole_of_provides {pattern : Pattern} {groups : List String}
    (provides : ∀ group ∈ groups, pattern.Provides group) (spans : pattern.regex.Spans)
    (text : List Char) : FindsWhole pattern groups text := by
  intro marks matched
  refine ⟨spans.captures_of_search? matched, ?_⟩
  intro group listed
  exact numberIn_of_provides (provides group listed) matched

/-- If the pattern of a number is one by itself, all patterns find whole texts with all of
their numbers, and a text has bounds or none of the forms. -/
theorem search_whole {options : Options} {number : Pattern} {range : Range}
    (valid : Pattern.ofText? options.number.toList = .ok number)
    (made : ofOptions? options = .ok range) (text : String) :
    FindsWhole range.between [startGroup, endGroup] text.toList ∧
    (∀ entry ∈ range.forms, FindsWhole entry.2 [startGroup] text.toList) ∧
    (range.bounds text = .ok none ∨
      ∃ bounds, bounds ≠ [] ∧ range.bounds text = .ok (some bounds)) := by
  obtain ⟨⟨first, second, spans⟩, forms⟩ := provides_of_ofOptions? valid made
  refine ⟨?_, ?_, ?_⟩
  · apply findsWhole_of_provides _ spans
    simp [first, second]
  · intro entry member
    obtain ⟨provides, spans⟩ := forms entry member
    apply findsWhole_of_provides _ spans
    simp [provides]
  · obtain ⟨found, tried⟩ := bounds_total valid made text
    cases found with
    | none => exact .inl tried
    | some bounds => exact .inr ⟨bounds, bounds_ne_nil tried, tried⟩

/-- A choice at the top of the pattern stays inside its group. -/
theorem search_whole_choice :
    ∃ range, ofOptions? { Options.standard with number := "[0-9]+|none" } = .ok range ∧
      range.bounds "<none" = .ok (some [⟨.less, "none"⟩]) ∧
      ∀ marks, range.between.search? "1 to none".toList = some marks →
        range.between.regex.Captures [] "1 to none".toList [] [] marks := by
  have evaluated : (ofOptions? { Options.standard with number := "[0-9]+|none" }).toOption.any
      (fun range => decide (range.bounds "<none" = .ok (some [⟨.less, "none"⟩]))) = true := by
    decide +kernel
  have readable : (Pattern.ofText? "[0-9]+|none".toList).toOption.any (fun _ => true) = true := by
    decide +kernel
  obtain ⟨range, made, found⟩ := Except.exists_of_any_toOption evaluated
  obtain ⟨number, valid, -⟩ := Except.exists_of_any_toOption readable
  refine ⟨range, made, of_decide_eq_true found, ?_⟩
  intro marks matched
  exact ((search_whole valid made "1 to none").1 marks matched).1

/-- A choice between two groups reaches out of the group that it is put into: the front of
a text is enough, and a number can be missing. -/
theorem search_part :
    ∃ range, ofOptions? { Options.standard with number := "[0-9]+)|(none" } = .ok range ∧
      range.bounds "<5 apples" = .ok (some [⟨.less, "5"⟩]) ∧
      range.bounds "none" = .error ⟨startGroup⟩ := by
  have evaluated : (ofOptions? { Options.standard with number := "[0-9]+)|(none" }).toOption.any
      (fun range => decide (range.bounds "<5 apples" = .ok (some [⟨.less, "5"⟩]) ∧
        range.bounds "none" = .error ⟨startGroup⟩)) = true := by
    decide +kernel
  obtain ⟨range, made, found⟩ := Except.exists_of_any_toOption evaluated
  exact ⟨range, made, of_decide_eq_true found⟩

end Range

end ColumnFilter
