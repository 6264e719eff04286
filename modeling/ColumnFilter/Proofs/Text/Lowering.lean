import ColumnFilter.Proofs.Text.Shifting

/-!
# Names that are ASCII words in lowercase

Two characters beyond ASCII have lowercases with letters of ASCII in them: the Kelvin sign
has `k`, and the dotted capital I has `i` with a mark behind it.  So a name whose lowercase
is an ASCII word without `k` has the letters of this word, in either case, and nothing
else.
-/

namespace ColumnFilter.Text

/-- A character of ASCII that is the lowercase of such characters only. -/
structure LoweredAscii (c : Char) : Prop where
  positive : 0 < c.toNat
  ascii : c.toNat < 128
  not_k : c ≠ 'k'

instance (c : Char) : Decidable (LoweredAscii c) :=
  decidable_of_iff (0 < c.toNat ∧ c.toNat < 128 ∧ c ≠ 'k')
    ⟨fun ⟨positive, ascii, not_k⟩ => ⟨positive, ascii, not_k⟩,
      fun lowered => ⟨lowered.positive, lowered.ascii, lowered.not_k⟩⟩

/-- In ASCII both notions of lowercase agree. -/
theorem lowerChar_of_ascii {c : Char} (ascii : c.toNat < 128) : lowerChar c = [c.toLower] := by
  have checked : ∀ code < 128,
      lowerChar (Char.ofNat code) = [(Char.ofNat code).toLower] := by decide +kernel
  simpa using checked c.toNat ascii

theorem ascii_of_toLower {c : Char} (ascii : c.toLower.toNat < 128) : c.toNat < 128 := by
  rcases Nat.lt_or_ge c.toNat 128 with small | beyond
  · exact small
  · have unchanged : c.toLower = c := by
      unfold Char.toLower
      by_cases capital : c.val ≥ 'A'.val ∧ c.val ≤ 'Z'.val
      · rw [dif_pos capital]
        have value : c.toNat = c.val.toNat := rfl
        simp [UInt32.le_iff_toNat_le] at capital
        omega
      · rw [dif_neg capital]
    rwa [unchanged] at ascii

/-- The shifts that end in ASCII begin there, but for the one of the Kelvin sign. -/
theorem ascii_of_shifted {c d : Char} (lowered : LoweredAscii d)
    (shifted : Char.ofNat (Shift.apply lowercaseShifts c.toNat) = d) : c.toNat < 128 := by
  have table : ∀ shift ∈ lowercaseShifts, shift.run.last < 128 ∨
      128 ≤ shift.run.first + shift.offset ∨
      shift.run.first = shift.run.last ∧ shift.run.last + shift.offset = 'k'.toNat := by
    decide +kernel
  have positive := lowered.positive
  have ascii := lowered.ascii
  rcases eq_or_exists_shift_of_apply shifted (by omega) with
    same | ⟨shift, member, inside, valued⟩
  · rw [Char.ofNat_toNat] at same
    rwa [same]
  · simp only [Run.contains, Bool.and_eq_true, decide_eq_true_eq] at inside
    have not_k : d.toNat ≠ 'k'.toNat := fun same => lowered.not_k (Char.toNat_inj.mp same)
    have source := table shift member
    omega

theorem ascii_of_lowerChar {c : Char} (lowered : ∀ d ∈ lowerChar c, LoweredAscii d) :
    c.toNat < 128 := by
  unfold lowerChar at lowered
  split at lowered
  · have mark := lowered '\u0307' (by simp)
    exact absurd mark (by decide)
  · exact ascii_of_shifted (lowered _ List.mem_cons_self) rfl

theorem lowercaseFrom_cons_of_ascii {c : Char} (ascii : c.toNat < 128) (before rest : List Char) :
    lowercaseFrom before (c :: rest) = c.toLower :: lowercaseFrom (c :: before) rest := by
  have other : c ≠ 'Σ' := by
    rintro rfl
    exact absurd ascii (by decide)
  rw [lowercaseFrom, if_neg other, lowerChar_of_ascii ascii]
  rfl

theorem ascii_of_lowercaseFrom_cons {c : Char} {before rest : List Char}
    (lowered : ∀ d ∈ lowercaseFrom before (c :: rest), LoweredAscii d) : c.toNat < 128 := by
  rw [lowercaseFrom] at lowered
  have image := fun d member => lowered d (List.mem_append_left _ member)
  split at image
  · split at image
    · exact absurd (image 'ς' List.mem_cons_self) (by decide)
    · exact absurd (image 'σ' List.mem_cons_self) (by decide)
  · exact ascii_of_lowerChar image

/-- A text has an ASCII word without `k` for its lowercase if it is the word but for the
case of its letters. -/
theorem lowercaseFrom_eq_iff {letters : List Char} (lowered : ∀ d ∈ letters, LoweredAscii d)
    (before text : List Char) :
    lowercaseFrom before text = letters ↔ text.map Char.toLower = letters := by
  induction text generalizing before letters with
  | nil => rfl
  | cons c rest induction =>
      constructor
      · rintro rfl
        have ascii := ascii_of_lowercaseFrom_cons lowered
        rw [lowercaseFrom_cons_of_ascii ascii] at lowered ⊢
        rw [List.map_cons, (induction (List.forall_mem_cons.mp lowered).2 _).mp rfl]
      · rintro rfl
        obtain ⟨first, later⟩ := List.forall_mem_cons.mp lowered
        rw [lowercaseFrom_cons_of_ascii (ascii_of_toLower first.ascii),
          (induction later _).mpr rfl, List.map_cons]

end ColumnFilter.Text
