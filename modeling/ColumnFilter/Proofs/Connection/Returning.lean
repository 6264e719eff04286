import ColumnFilter.Connection.Parameter
import ColumnFilter.Proofs.Value.Equality
import ColumnFilter.Proofs.Value.LeadingPoint
import ColumnFilter.Proofs.Value.Writing

/-!
# Decimals as texts

A decimal is sent as a text: a numeral, with an exponent behind it or without one.  When the
text is read, the places of the numeral less the exponent are the scale again, so that the same
number returns.
-/

namespace ColumnFilter

namespace Decimal

/-- What stands behind a numeral: nothing, or a mark and a number with its sign. -/
inductive Exponent : List Char → Int → Prop
  | absent : Exponent [] 0
  | marked {mark : Char} (marks : isExponentMark mark = true) (n : Int) :
      Exponent (mark :: signed n) n

theorem natDigits_visible {n : Nat} : ∀ c ∈ natDigits n, Text.isSpace c = false := by
  obtain ⟨digits, -, spelled, -⟩ := exists_natDigits n
  rw [← spelled]
  intro c member
  obtain ⟨digit, -, rfl⟩ := List.mem_map.mp member
  exact Numeral.digitChar_visible digit

theorem signed_visible (n : Int) : ∀ c ∈ signed n, Text.isSpace c = false := by
  refine List.forall_mem_cons.mpr ⟨?_, natDigits_visible⟩
  split <;> decide +kernel

theorem readExponent?_signed {n : Int} (low : -limit128 ≤ n) (high : n < limit128) :
    readExponent? (signed n) = some n := by
  have present (m : Nat) : (natDigits m).isEmpty = false :=
    List.isEmpty_eq_false_iff.mpr Nat.toDigits_ne_nil
  by_cases negative : n < 0
  · obtain ⟨m, rfl⟩ : ∃ m : Nat, n = -(m : Int) := ⟨n.natAbs, by omega⟩
    rw [signed_of_neg negative, neg_neg, Int.toNat_natCast, readExponent?]
    simp only [present, readDigits?_natDigits, Bool.false_eq_true, if_false, if_true]
    exact if_pos ⟨low, high⟩
  · obtain ⟨m, rfl⟩ : ∃ m : Nat, n = m := ⟨n.natAbs, by omega⟩
    rw [signed_of_nonneg (by omega), Int.toNat_natCast, readExponent?]
    simp only [present, readDigits?_natDigits, Bool.false_eq_true, if_false]
    exact if_pos ⟨low, high⟩

namespace Exponent

variable {tail : List Char} {n : Int} (exponent : Exponent tail n)

include exponent

theorem visible : ∀ c ∈ tail, Text.isSpace c = false := by
  cases exponent with
  | absent => simp
  | marked marks n =>
      refine List.forall_mem_cons.mpr ⟨?_, signed_visible n⟩
      rcases (by simpa [isExponentMark] using marks) with rfl | rfl <;> decide +kernel

theorem takeWhile_eq : tail.takeWhile (!isExponentMark ·) = [] := by
  cases exponent with
  | absent => rfl
  | marked marks n => exact List.takeWhile_cons_of_neg (by simp [marks])

theorem dropWhile_eq : tail.dropWhile (!isExponentMark ·) = tail := by
  cases exponent with
  | absent => rfl
  | marked marks n => exact List.dropWhile_cons_of_neg (by simp [marks])

theorem exponentOf_eq (low : -limit128 ≤ n) (high : n < limit128) :
    exponentOf tail = some n := by
  cases exponent with
  | absent => rfl
  | marked marks n => exact readExponent?_signed low high

end Exponent

end Decimal

namespace Numeral

open Decimal

/-- A numeral and an exponent are read as the digits of the numeral, with the places less the
exponent for their scale. -/
theorem Shows.read?_eq {numeral : Numeral} {number : Decimal} {tail : List Char} {n : Int}
    (shows : numeral.Shows ⟨number.digits, number.scale + n⟩) (exponent : Exponent tail n)
    (read : exponentOf tail = some n)
    (low : -limit64 ≤ number.scale) (high : number.scale < limit64) :
    read? (Value.withLeadingZero (numeral.text ++ tail)) = some number := by
  obtain ⟨padded, spelled, digits, fraction⟩ := numeral.exists_withLeadingZero
  have places : (numeral.fraction.length : Int) = number.scale + n := shows.places
  have scale : (numeral.fraction.length : Int) - n = number.scale := by omega
  rw [spelled, read?_append padded.no_exponent, exponent.takeWhile_eq,
    exponent.dropWhile_eq, List.append_nil, readBase?_text]
  simp only [complete?, read, fraction, scale, if_pos (And.intro low high)]
  rw [digits, shows.digits]

end Numeral

namespace Decimal

variable (number : Decimal)

/-- A decimal is written as a numeral, with an exponent that makes up for the places of the
numeral and is no larger than the scale. -/
theorem exists_written :
    ∃ (numeral : Numeral) (tail : List Char) (n : Int), Exponent tail n ∧
      n.natAbs ≤ number.scale.natAbs ∧ number.toText.toList = numeral.text ++ tail ∧
      numeral.Shows ⟨number.expanded.digits, number.expanded.scale + n⟩ := by
  have scale : number.writtenScale = 0 ∨ number.writtenScale = number.scale := by
    unfold writtenScale
    split <;> simp
  by_cases low : number.IsScientific
  · obtain ⟨numeral, -, spelled, shows⟩ := exists_scientific low
    have positive := number.digitCount_pos
    have wide : number.digitCount + 5 < number.writtenScale := low
    -- All digits but the first are places, and the exponent takes them off again.
    let n := number.digitCount - 1 - number.writtenScale
    have exponent : signed n =
        '-' :: natDigits (number.writtenScale - (number.digitCount - 1)).toNat := by
      rw [signed_of_neg (by omega), neg_sub]
    have places : number.writtenScale + n = number.digitCount - 1 := by omega
    have mark : isExponentMark 'E' = true := rfl
    refine ⟨numeral, _, n, .marked mark n, by omega, by rw [spelled, exponent], ?_⟩
    rwa [expanded_of_kept (by omega), places]
  · by_cases high : number.IsExponential
    · obtain ⟨numeral, -, spelled, shows⟩ := exists_exponential low high
      have far : 15 < -number.writtenScale := high
      let n := -number.writtenScale
      have exponent : signed n = '+' :: natDigits (-number.writtenScale).toNat :=
        signed_of_nonneg (by omega)
      have mark : isExponentMark 'e' = true := rfl
      refine ⟨numeral, _, n, .marked mark n, by omega, by rw [spelled, exponent], ?_⟩
      rwa [expanded_of_kept (by omega), add_neg_cancel]
    · obtain ⟨numeral, spelled, shows⟩ := exists_plain low high
      refine ⟨numeral, [], 0, .absent, Nat.zero_le _, by rw [spelled, List.append_nil], ?_⟩
      rwa [add_zero]

theorem toText_ne_nil : number.toText.toList ≠ [] := by
  obtain ⟨numeral, tail, n, -, -, spelled, -⟩ := number.exists_written
  rw [spelled]
  exact List.append_ne_nil_of_left_ne_nil numeral.text_ne_nil tail

theorem toText_visible : ∀ c ∈ number.toText.toList, Text.isSpace c = false := by
  obtain ⟨numeral, tail, n, exponent, -, spelled, -⟩ := number.exists_written
  rw [spelled]
  intro c member
  rcases List.mem_append.mp member with inside | inside
  · exact numeral.text_visible c inside
  · exact exponent.visible c inside

/-- What is written of a decimal is read again. -/
theorem read?_toText {number : Decimal} (low : -limit64 < number.scale)
    (high : number.scale < limit64) :
    read? (Value.withLeadingZero number.toText.toList) = some number.expanded := by
  obtain ⟨numeral, tail, n, exponent, size, spelled, shows⟩ := number.exists_written
  -- An exponent of 128 bits is read, which is room enough for any scale of 64.
  have far : limit64 < limit128 := by decide
  have read : exponentOf tail = some n := exponent.exponentOf_eq (by omega) (by omega)
  have scale : number.expanded.scale = 0 ∨ number.expanded.scale = number.scale := by
    unfold expanded writtenScale
    split <;> split <;> simp
  have zero : (0 : Int) < limit64 := by decide
  rw [spelled]
  exact shows.read?_eq exponent read (by omega) (by omega)

/-- Only zeros in front of the point and the scale of zero are not written. -/
theorem expanded_eq_self_iff :
    number.expanded = number ↔
      (number.digits = 0 → number.scale = 0) ∧ ¬(-15 ≤ number.scale ∧ number.scale < 0) := by
  obtain ⟨digits, scale⟩ := number
  by_cases zero : digits = 0
  · have unscaled : writtenScale ⟨digits, scale⟩ = 0 := if_pos zero
    rw [expanded_of_kept (by omega), unscaled, mk.injEq]
    constructor
    · rintro ⟨-, rfl⟩
      exact ⟨fun _ => rfl, by simp⟩
    · rintro ⟨kept, -⟩
      exact ⟨rfl, (kept zero).symm⟩
  · have scaled : writtenScale ⟨digits, scale⟩ = scale := if_neg zero
    by_cases padded : -15 ≤ scale ∧ scale < 0
    · rw [expanded_of_padded (by omega) (by omega), mk.injEq]
      exact iff_of_false (by omega) (fun kept => kept.2 padded)
    · rw [expanded_of_kept (by omega), scaled]
      exact iff_of_true rfl ⟨fun vanishes => absurd vanishes zero, padded⟩

end Decimal

namespace Value

theorem ofNumberLiteral_toText {number : Decimal} (low : -Decimal.limit64 < number.scale)
    (high : number.scale < Decimal.limit64) :
    ofNumberLiteral number.toText = .decimal number.expanded := by
  have read := ofNumberLiteral_of_visible number.toText_ne_nil number.toText_visible
  rwa [String.ofList_toList, Decimal.read?_toText low high] at read

end Value

namespace MySqlParameter

/-- A decimal is sent as a text that is bound as the same number again.  The digits and the scale
are the same, too, unless zeros are written out in front of the point or zero has a scale.  Scales
are numbers of 64 bits, of which the least is left out. -/
theorem ofValue_returns {number : Decimal} (low : -Decimal.limit64 < number.scale)
    (high : number.scale < Decimal.limit64) :
    ∃ text back, ofValue (.decimal number) = .text text ∧
      Value.ofNumberLiteral text = .decimal back ∧
      Value.same (.decimal back) (.decimal number) = true ∧ back.toRat = number.toRat ∧
      (back = number ↔
        (number.digits = 0 → number.scale = 0) ∧ ¬(-15 ≤ number.scale ∧ number.scale < 0)) := by
  have same : number.expanded.toRat = number.toRat := number.toRat_expanded
  refine ⟨number.toText, number.expanded, rfl, Value.ofNumberLiteral_toText low high, ?_, same,
    number.expanded_eq_self_iff⟩
  exact (Decimal.sameNumber_iff _ _).mpr same

/-- The largest scale: the exponent is counted from the first of the three digits. -/
theorem ofValue_returns_tiny :
    let number : Decimal := ⟨-150, 9223372036854775807⟩
    let text := "-1.50E-9223372036854775805"
    (-Decimal.limit64 < number.scale ∧ number.scale < Decimal.limit64) ∧
      ofValue (.decimal number) = .text text ∧ Value.ofNumberLiteral text = .decimal number ∧
      Value.same (.decimal number) (.decimal number) = true := by
  intro number text
  have low : -Decimal.limit64 < number.scale := by decide
  have high : number.scale < Decimal.limit64 := by decide
  have written : ofValue (.decimal number) = .text text := by decide +kernel
  obtain ⟨text', back, sent, bound, same, -, kept⟩ := ofValue_returns low high
  obtain rfl : text' = text := MySqlParameter.text.inj (sent.symm.trans written)
  obtain rfl : back = number := kept.mpr ⟨by decide, by decide⟩
  exact ⟨⟨low, high⟩, written, bound, same⟩

end MySqlParameter

end ColumnFilter
