import ColumnFilter.Text.Class

/-!
# Decimal digits

A decimal digit of any script is no white space.
-/

namespace ColumnFilter.Text

theorem Run.mem_range' {run : Run} {code : Nat} (inside : run.contains code = true) :
    code ∈ List.range' run.first (run.last + 1 - run.first) := by
  simp only [contains, Bool.and_eq_true, decide_eq_true_eq] at inside
  obtain ⟨⟨low, high⟩, -⟩ := inside
  rw [List.mem_range'_1]
  omega

/-- What is checked of the few codes of white space is true of all white space. -/
theorem of_isSpace (holds : Nat → Prop) {c : Char} (space : isSpace c = true)
    (checked : ∀ run ∈ spaceRuns, ∀ code ∈ List.range' run.first (run.last + 1 - run.first),
      holds code) : holds c.toNat := by
  obtain ⟨run, member, inside⟩ := List.any_eq_true.mp space
  exact checked run member c.toNat (Run.mem_range' inside)

theorem not_isDecimalDigit_of_isSpace {c : Char} (space : isSpace c = true) :
    isDecimalDigit c = false := by
  have apart := of_isSpace (fun code => ∀ other ∈ Category.decimalNumber.runs,
    other.contains code = false) space (by decide +kernel)
  refine List.any_eq_false.mpr fun other member => ?_
  rw [apart other member]
  exact Bool.false_ne_true

end ColumnFilter.Text
