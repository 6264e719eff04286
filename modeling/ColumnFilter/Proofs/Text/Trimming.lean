import Mathlib.Data.List.TakeWhile
import ColumnFilter.Proofs.Text.Digit
import ColumnFilter.Proofs.Text.Shifting
import ColumnFilter.Proofs.Text.Tight

/-!
# What trimming takes away

White space that is put at either end of a text is taken away again.  It has no case,
so that it agrees with no character but itself.
-/

namespace ColumnFilter.Text

theorem lowerChar_of_isSpace {c : Char} (space : isSpace c = true) : lowerChar c = [c] := by
  have fixed := of_isSpace (fun code => code ≠ 'İ'.toNat ∧
    Shift.apply lowercaseShifts code = code) space (by decide +kernel)
  have other : c ≠ 'İ' := by
    rintro rfl
    exact fixed.1 rfl
  rw [lowerChar, if_neg other, fixed.2, Char.ofNat_toNat]

/-- White space is sent to by nothing else, if every shift stays away from it. -/
theorem eq_of_apply_eq_space {table : List Shift} {c mark : Char} (nonzero : c.toNat ≠ 0)
    (apart : ∀ shift ∈ table,
      shift.run.last + shift.offset < c.toNat ∨ c.toNat < shift.run.first + shift.offset)
    (shifted : Char.ofNat (Shift.apply table mark.toNat) = c) : mark = c := by
  rcases eq_or_exists_shift_of_apply shifted nonzero with same | ⟨shift, member, inside, valued⟩
  · rwa [Char.ofNat_toNat] at same
  · simp only [Run.contains, Bool.and_eq_true, decide_eq_true_eq] at inside
    have outside := apart shift member
    omega

theorem ne_of_isSpace {c mark : Char} (space : isSpace c = true)
    (visible : isSpace mark = false) : mark ≠ c := by
  rintro rfl
  rw [space] at visible
  exact Bool.noConfusion visible

theorem sameLetter_of_isSpace {c mark : Char} (space : isSpace c = true)
    (visible : isSpace mark = false) : sameLetter c mark = false := by
  have different := ne_of_isSpace space visible
  have apart := of_isSpace (fun code => code ≠ 0 ∧ ∀ shift ∈ lowercaseShifts,
    shift.run.last + shift.offset < code ∨ code < shift.run.first + shift.offset) space
    (by decide +kernel)
  rw [sameLetter, lowerChar_of_isSpace space, Bool.or_eq_false_iff, beq_eq_false_iff_ne,
    beq_eq_false_iff_ne]
  refine ⟨different.symm, fun same => ?_⟩
  unfold lowerChar at same
  split at same
  · simp at same
  · have shifted : Char.ofNat (Shift.apply lowercaseShifts mark.toNat) = c := by
      simpa using same.symm
    exact different (eq_of_apply_eq_space apart.1 apart.2 shifted)

/-- Case folding leaves white space alone, and makes it of nothing else. -/
theorem fold_eq_iff_of_isSpace {c : Char} (space : isSpace c = true) (mark : Char) :
    fold mark = fold c ↔ mark = c := by
  have fixed := of_isSpace (fun code => Shift.apply foldingShifts code = code) space
    (by decide +kernel)
  have apart := of_isSpace (fun code => code ≠ 0 ∧ ∀ shift ∈ foldingShifts,
    shift.run.last + shift.offset < code ∨ code < shift.run.first + shift.offset) space
    (by decide +kernel)
  have folded : fold c = c := by rw [fold, fixed, Char.ofNat_toNat]
  constructor
  · rw [folded]
    exact eq_of_apply_eq_space apart.1 apart.2
  · rintro rfl
    rfl

theorem trimStart_append {before : List Char} (blank : ∀ c ∈ before, isSpace c = true)
    (text : List Char) : trimStart (before ++ text) = trimStart text :=
  List.dropWhile_append_of_pos blank

theorem trim_append_left {before : List Char} (blank : ∀ c ∈ before, isSpace c = true)
    (text : List Char) : trim (before ++ text) = trim text := by
  rw [trim, trimStart_append blank, trim]

theorem trim_append_right {after : List Char} (blank : ∀ c ∈ after, isSpace c = true)
    (text : List Char) : trim (text ++ after) = trim text := by
  have vanished : trimStart after = [] := List.dropWhile_eq_nil_iff.mpr blank
  rw [trim, trim, trimStart, List.dropWhile_append]
  by_cases empty : (List.dropWhile isSpace text).isEmpty
  · rw [if_pos empty]
    have nothing : trimStart text = [] := List.isEmpty_iff.mp empty
    rw [nothing]
    exact congrArg trimEnd vanished
  · rw [if_neg empty, trimEnd, List.reverse_append, trimStart_append (by simpa using blank)]
    rfl

/-- A text is what trimming leaves of it, with white space around. -/
theorem exists_eq_trim (text : List Char) :
    ∃ before after, text = before ++ trim text ++ after ∧
      (∀ c ∈ before, isSpace c = true) ∧ ∀ c ∈ after, isSpace c = true := by
  let rest := trimStart text
  refine ⟨text.takeWhile isSpace, (rest.reverse.takeWhile isSpace).reverse, ?_,
    fun c => List.mem_takeWhile_imp,
    fun c member => List.mem_takeWhile_imp (List.mem_reverse.mp member)⟩
  have back : trim text ++ (rest.reverse.takeWhile isSpace).reverse = rest := by
    rw [trim, trimEnd, ← List.reverse_append, trimStart, List.takeWhile_append_dropWhile,
      List.reverse_reverse]
  rw [List.append_assoc, back]
  exact List.takeWhile_append_dropWhile.symm

theorem trim_infix (text : List Char) : trim text <:+: text := by
  obtain ⟨before, after, shape, -, -⟩ := exists_eq_trim text
  exact ⟨before, after, shape.symm⟩

theorem trim_trim (text : List Char) : trim (trim text) = trim text := by
  obtain ⟨before, after, shape, blank, blank'⟩ := exists_eq_trim text
  calc
    trim (trim text) = trim (before ++ trim text ++ after) := by
      rw [trim_append_right blank', trim_append_left blank]
    _ = trim text := by rw [← shape]

theorem tight_trim {text : List Char} (present : trim text ≠ []) : Tight (trim text) :=
  .of_trim (trim_trim text) present

theorem head_of_trim {text : List Char} (kept : trim text = text) :
    ∀ c ∈ text.head?, isSpace c = false := fun c here =>
  (Tight.of_trim kept (List.ne_nil_of_mem (List.mem_of_mem_head? here))).of_mem_head? c here

theorem getLast_of_trim {text : List Char} (kept : trim text = text) :
    ∀ c ∈ text.getLast?, isSpace c = false := fun c here =>
  (Tight.of_trim kept (List.ne_nil_of_mem (List.mem_of_getLast? here))).of_mem_getLast? c here

end ColumnFilter.Text
