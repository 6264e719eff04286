import ColumnFilter.Text.Case

/-!
# Where a shift leads

A table of shifts changes a code point by one of its shifts, or not at all.
-/

namespace ColumnFilter.Text

theorem toNat_of_ofNat {code : Nat} {c : Char} (shown : Char.ofNat code = c)
    (nonzero : c.toNat ≠ 0) : c.toNat = code := by
  by_cases valid : code.isValidChar
  · rw [← shown, Char.ofNat, dif_pos valid]
    rfl
  · rw [← shown, Char.ofNat, dif_neg valid] at nonzero
    exact absurd rfl nonzero

/-- A character that a code point is sent to is its own, or some shift comes to it. -/
theorem eq_or_exists_shift_of_apply {table : List Shift} {code : Nat} {c : Char}
    (shifted : Char.ofNat (Shift.apply table code) = c) (nonzero : c.toNat ≠ 0) :
    Char.ofNat code = c ∨ ∃ shift ∈ table,
      shift.run.contains code = true ∧ (code + shift.offset : Int).toNat = c.toNat := by
  revert shifted
  fun_cases Shift.apply table code with
  | case1 shift found =>
      intro shifted
      have inside : shift.run.contains code = true := by simpa using List.find?_some found
      exact .inr ⟨shift, List.mem_of_find?_eq_some found, inside,
        (toNat_of_ofNat shifted nonzero).symm⟩
  | case2 => exact .inl

end ColumnFilter.Text
