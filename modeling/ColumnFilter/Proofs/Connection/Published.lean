import ColumnFilter.Proofs.Connection.Reading

/-!
# Readers of numbers of 96 bits

What is relied on of a reader, and that the standard one has it.  Nothing is relied on for
numbers with an exponent below zero that fits while the places that it adds to those in
front of it do not.
-/

namespace ColumnFilter

open Numeral (value)

/-- What is relied on of the two ways of reading. -/
structure NumericReader.Published (reader : NumericReader) : Prop where
  /-- A numeral is read as the number that it is, if this has 96 bits and 28 places. -/
  exactly (numeral : Numeral) (fits : Numeric.Fits numeral.toRat) :
    ∃ number, reader.plain? numeral.text = .ok number ∧ number.toRat = numeral.toRat
  /-- Other numerals are rounded to a number near them. -/
  rounded {numeral : Numeral} {number : Numeric}
    (read : reader.plain? numeral.text = .ok number) :
    |number.toRat - numeral.toRat| ≤ 1 / 2 / 10 ^ number.places
  /-- This fails where there is no room for the integer next to them. -/
  overflow (numeral : Numeral) :
    (∃ error, reader.plain? numeral.text = .error error) ↔
      (Numeric.limit : ℚ) - 1 / 2 ≤ |numeral.toRat|
  /-- A numeral has no exponent. -/
  plain_mark (numeral : Numeral) {mark : Char} (marks : Decimal.isExponentMark mark = true)
    (tail : List Char) : ∃ error, reader.plain? (numeral.text ++ mark :: tail) = .error error
  /-- The other way of reading asks for one. -/
  unmarked (numeral : Numeral) : ∃ error, reader.scientific? numeral.text = .error error
  /-- An integer is multiplied by a power of ten. -/
  raised {numeral : Numeral} (pointless : numeral.fraction = []) {mark : Char}
    (marks : Decimal.isExponentMark mark = true) {exponent : Nat} (near : exponent ≤ 28)
    (small : value numeral.whole * 10 ^ exponent < Numeric.limit) :
    ∃ number,
      reader.scientific? (numeral.text ++ mark :: '+' :: Decimal.natDigits exponent) =
        .ok number ∧ number.toRat = numeral.toRat * 10 ^ exponent
  /-- This fails where there is no room for the product. -/
  raised_overflow {numeral : Numeral} (pointless : numeral.fraction = []) {mark : Char}
    (marks : Decimal.isExponentMark mark = true) {exponent : Nat}
    (large : Numeric.limit ≤ value numeral.whole * 10 ^ exponent) :
    ∃ error, reader.scientific? (numeral.text ++ mark :: '+' :: Decimal.natDigits exponent) =
      .error error
  /-- A number is divided by a power of ten if there is room for all places. -/
  lowered {numeral : Numeral} (small : value (numeral.whole ++ numeral.fraction) < Numeric.limit)
    {mark : Char} (marks : Decimal.isExponentMark mark = true) {exponent : Nat}
    (room : numeral.fraction.length + exponent ≤ 28) :
    ∃ number,
      reader.scientific? (numeral.text ++ mark :: '-' :: Decimal.natDigits exponent) =
        .ok number ∧ number.toRat = numeral.toRat / 10 ^ exponent
  /-- There is no room for an exponent of more than 28 places. -/
  lowered_overflow (numeral : Numeral) {mark : Char}
    (marks : Decimal.isExponentMark mark = true) {exponent : Nat} (far : 28 < exponent) :
    ∃ error, reader.scientific? (numeral.text ++ mark :: '-' :: Decimal.natDigits exponent) =
      .error error

namespace Numeric

variable {numeral : Numeral}

theorem readExponent?_natDigits (n : Nat) :
    readExponent? (Decimal.natDigits n) = if n < UInt32.size then some n else none := by
  have present : Decimal.natDigits n ≠ [] := Nat.toDigits_ne_nil
  rw [readExponent?, if_neg (by simpa using present), Decimal.readDigits?_natDigits,
    Option.filter_some]
  simp only [decide_eq_true_eq]

theorem unmarked_of_mem (numeral : Numeral) :
    ∀ c ∈ numeral.text, (!Decimal.isExponentMark c) = true := by
  intro c member
  rw [numeral.no_exponent c member, Bool.not_false]

theorem ofScientific?_text (numeral : Numeral) :
    ofScientific? numeral.text = .error .malformed := by
  rw [ofScientific?, List.dropWhile_eq_nil_iff.mpr (unmarked_of_mem numeral)]

section Exponents

variable {mark : Char} (marks : Decimal.isExponentMark mark = true) (tail : List Char)

include marks

theorem takeWhile_mark :
    (numeral.text ++ mark :: tail).takeWhile (!Decimal.isExponentMark ·) = numeral.text := by
  rw [List.takeWhile_append_of_pos (unmarked_of_mem numeral),
    List.takeWhile_cons_of_neg (by simp [marks]), List.append_nil]

theorem dropWhile_mark :
    (numeral.text ++ mark :: tail).dropWhile (!Decimal.isExponentMark ·) = mark :: tail := by
  rw [List.dropWhile_append_of_pos (unmarked_of_mem numeral),
    List.dropWhile_cons_of_neg (by simp [marks])]

theorem ofScientific?_of_error {error : NumericError}
    (read : ofPlain? numeral.text = .error error) :
    ofScientific? (numeral.text ++ mark :: tail) = .error error := by
  rw [ofScientific?, dropWhile_mark marks, takeWhile_mark marks, read]

theorem ofScientific?_down {base : Numeric} (read : ofPlain? numeral.text = .ok base) (n : Nat) :
    ofScientific? (numeral.text ++ mark :: '-' :: Decimal.natDigits n) =
      if n < UInt32.size then base.shiftDown n else .error .malformed := by
  rw [ofScientific?, dropWhile_mark marks, takeWhile_mark marks, read]
  by_cases fits : n < UInt32.size <;> simp [readExponent?_natDigits, fits]

theorem ofScientific?_up {base : Numeric} (read : ofPlain? numeral.text = .ok base) (n : Nat) :
    ofScientific? (numeral.text ++ mark :: '+' :: Decimal.natDigits n) =
      if n < UInt32.size then base.shiftUp n else .error .malformed := by
  rw [ofScientific?, dropWhile_mark marks, takeWhile_mark marks, read]
  by_cases fits : n < UInt32.size <;> simp [readExponent?_natDigits, fits]

end Exponents

theorem lt_size_of_le {n : Nat} (near : n ≤ 28) : n < UInt32.size :=
  near.trans_lt (by decide)

section Shifts

variable {number : Numeric} {exponent : Nat}

/-- With few places, the point is moved. -/
theorem exists_shiftDown (room : number.places + exponent ≤ 28) :
    ∃ moved, number.shiftDown exponent = .ok moved ∧
      moved.toRat = number.toRat / 10 ^ exponent := by
  rw [shiftDown, if_neg (by omega), if_pos room,
    ofParts_of_fits number.negative number.magnitude_lt room]
  refine ⟨_, rfl, ?_⟩
  rw [toRat, toRat, size_mk, size, pow_add, ← div_div]
  cases number.negative with
  | false => rfl
  | true => exact (neg_div _ _).symm

theorem shiftDown_of_lt (far : 28 < exponent) :
    number.shiftDown exponent = .error (.tooManyPlaces exponent) := by
  rw [shiftDown, if_pos far]

/-- An integer is shifted if there is room for the zeros. -/
theorem exists_shiftUp (integer : number.places = 0) (near : exponent ≤ 28)
    (small : number.magnitude * 10 ^ exponent < limit) :
    ∃ raised, number.shiftUp exponent = .ok raised ∧
      raised.toRat = number.toRat * 10 ^ exponent := by
  have shifted : number.shiftUp exponent =
      .ok ⟨number.negative, number.magnitude * 10 ^ exponent, 0, small, Nat.zero_le 28⟩ := by
    rw [shiftUp, integer]
    by_cases zero : exponent = 0
    · subst zero
      rw [if_pos (le_refl 0), ofParts_of_fits _ number.magnitude_lt (Nat.zero_le 28)]
      simp only [pow_zero, mul_one]
    · rw [if_neg (by omega), if_neg (by omega), ofParts?, dif_pos ⟨small, Nat.zero_le 28⟩]
      rfl
  refine ⟨_, shifted, ?_⟩
  rw [toRat, toRat, size_mk, size, integer]
  push_cast
  cases number.negative <;> simp

theorem limit_le_mul_pow {n : Nat} (present : n ≠ 0) (far : 28 < exponent) :
    limit ≤ n * 10 ^ exponent :=
  calc limit ≤ 10 ^ 29 := by decide
    _ ≤ 10 ^ exponent := Nat.pow_le_pow_right (by omega) far
    _ ≤ n * 10 ^ exponent := Nat.le_mul_of_pos_left _ (by omega)

theorem exists_shiftUp_eq_error (integer : number.places = 0)
    (large : limit ≤ number.magnitude * 10 ^ exponent) :
    ∃ error, number.shiftUp exponent = .error error := by
  have positive : exponent ≠ 0 := by
    rintro rfl
    rw [pow_zero, mul_one] at large
    exact absurd number.magnitude_lt (Nat.not_lt.mpr large)
  rw [shiftUp, integer, if_neg (by omega)]
  by_cases far : 28 < exponent
  · exact ⟨_, if_pos far⟩
  · refine ⟨.tooLarge, ?_⟩
    rw [if_neg far, ofParts?, dif_neg (fun fits => absurd fits.1 (Nat.not_lt.mpr large))]

end Shifts

/-- With a bounded exponent, or with none that fits, a failure stays one. -/
theorem exists_ite_eq_error {fits : Prop} [Decidable fits] {result : Except NumericError Numeric}
    {other : NumericError} (failed : ∃ error, result = .error error) :
    ∃ error, (if fits then result else .error other) = .error error := by
  by_cases given : fits
  · rwa [if_pos given]
  · exact ⟨other, if_neg given⟩

end Numeric

theorem Numeral.exists_ofPlain?_integer {numeral : Numeral} (pointless : numeral.fraction = [])
    (small : value numeral.whole < Numeric.limit) :
    ∃ base, Numeric.ofPlain? numeral.text = .ok base ∧ base.toRat = numeral.toRat ∧
      base.places = 0 ∧ base.magnitude = value numeral.whole := by
  have kept : numeral.Kept := by
    refine ⟨?_, by simp [pointless]⟩
    rwa [pointless, List.append_nil]
  obtain ⟨base, read, equal, -, places, magnitude⟩ := ofPlain?_of_kept kept
  rw [pointless, List.length_nil] at places
  rw [pointless, List.append_nil] at magnitude
  exact ⟨base, read, equal, places, magnitude⟩

open Numeric in
theorem NumericReader.standard_published : standard.Published where
  exactly numeral fits := numeral.ofPlain?_eq_ok_iff.mpr fits
  rounded read := Numeral.ofPlain?_near read
  overflow numeral := by
    rw [numeral.abs_toRat]
    exact numeral.ofPlain?_eq_error_iff
  plain_mark numeral _ marks tail := numeral.ofPlain?_of_mark marks tail
  unmarked numeral := ⟨.malformed, ofScientific?_text numeral⟩
  raised {numeral} pointless mark marks exponent near small := by
    have fits : value numeral.whole < limit :=
      (Nat.le_mul_of_pos_right _ (by positivity)).trans_lt small
    obtain ⟨base, read, equal, integer, magnitude⟩ :=
      Numeral.exists_ofPlain?_integer pointless fits
    obtain ⟨number, shifted, product⟩ := exists_shiftUp integer near (by rwa [magnitude])
    refine ⟨number, ?_, by rw [product, equal]⟩
    exact (ofScientific?_up marks read exponent).trans
      ((if_pos (lt_size_of_le near)).trans shifted)
  raised_overflow {numeral} pointless mark marks exponent large := by
    by_cases fits : value numeral.whole < limit
    · obtain ⟨base, read, -, integer, magnitude⟩ :=
        Numeral.exists_ofPlain?_integer pointless fits
      have failed := exists_shiftUp_eq_error integer (by rwa [magnitude])
      simp only [standard, ofScientific?_up marks read]
      exact exists_ite_eq_error failed
    · have error := Numeral.ofPlain?_of_large (Nat.le_of_not_lt fits) []
      rw [List.append_nil] at error
      exact ⟨_, ofScientific?_of_error marks _ error⟩
  lowered {numeral} small mark marks exponent room := by
    obtain ⟨base, read, equal, -, places, -⟩ :=
      Numeral.ofPlain?_of_kept ⟨small, (Nat.le_add_right _ exponent).trans room⟩
    obtain ⟨number, shifted, quotient⟩ := exists_shiftDown (by rwa [places])
    refine ⟨number, ?_, by rw [quotient, equal]⟩
    exact (ofScientific?_down marks read exponent).trans
      ((if_pos (lt_size_of_le ((Nat.le_add_left _ _).trans room))).trans shifted)
  lowered_overflow numeral mark marks exponent far := by
    cases read : ofPlain? numeral.text with
    | error error => exact ⟨error, ofScientific?_of_error marks _ read⟩
    | ok base =>
        simp only [standard, ofScientific?_down marks read]
        exact exists_ite_eq_error ⟨_, shiftDown_of_lt far⟩

end ColumnFilter
