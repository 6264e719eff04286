import ColumnFilter.Proofs.Value.Literal

/-!
# Written decimals

A decimal is written in one of three notations, which its scale and the number of its digits
decide on: plainly, as digits with an exponent behind them, or as one digit with the others
behind the point and an exponent below zero.  In front of the exponent stands a numeral.
-/

namespace ColumnFilter

open Numeral (digitChar value)

namespace Decimal

/-- The scale of the written form. -/
def writtenScale (number : Decimal) : Int := if number.digits = 0 then 0 else number.scale

/-- How many digits are written, before zeros are added. -/
def digitCount (number : Decimal) : Nat := (natDigits number.digits.natAbs).length

/-- There would be more than five zeros behind the point. -/
def IsScientific (number : Decimal) : Prop := number.digitCount + 5 < number.writtenScale

instance (number : Decimal) : Decidable number.IsScientific :=
  inferInstanceAs (Decidable (number.digitCount + 5 < number.writtenScale))

/-- There would be more than fifteen zeros in front of the point. -/
def IsExponential (number : Decimal) : Prop := 15 < -number.writtenScale

theorem isDigit_of_mem_natDigits {n : Nat} : ∀ c ∈ natDigits n, c.isDigit = true :=
  fun _ member => Nat.isDigit_of_mem_toDigits (by omega) (by omega) member

theorem readDigits?_natDigits (n : Nat) : readDigits? false 0 (natDigits n) = some n := by
  rw [readDigits?_of_isDigit false isDigit_of_mem_natDigits, natDigits,
    Nat.ofDigitChars_ten_toDigits]

theorem exists_natDigits (n : Nat) :
    ∃ digits : List (Fin 10), digits ≠ [] ∧ digits.map digitChar = natDigits n ∧
      value digits = n := by
  have all : ∀ c ∈ natDigits n, '0' ≤ c ∧ c ≤ '9' := by
    intro c member
    have digit := isDigit_of_mem_natDigits c member
    rw [Char.isDigit, Bool.and_eq_true, decide_eq_true_iff, decide_eq_true_iff] at digit
    exact digit
  obtain ⟨digits, spelled⟩ := Numeral.exists_map_digitChar_iff.mpr all
  refine ⟨digits, ?_, spelled, ?_⟩
  · rintro rfl
    exact Nat.toDigits_ne_nil spelled.symm
  · have read := Numeral.ofDigitChars_digitChar digits 0
    rw [spelled, natDigits, Nat.ofDigitChars_ten_toDigits] at read
    omega

theorem digitCount_pos (number : Decimal) : 0 < number.digitCount :=
  Nat.length_toDigits_pos

theorem lt_pow_digitCount (number : Decimal) : number.digits.natAbs < 10 ^ number.digitCount :=
  (Nat.length_toDigits_le_iff (by omega) number.digitCount_pos).mp (Nat.le_refl _)

theorem toList_toText (number : Decimal) :
    number.toText.toList = (if number.digits < 0 then ['-'] else []) ++
      magnitudeText (natDigits number.digits.natAbs) number.writtenScale := by
  rw [toText, String.toList_ofList, writtenScale]
  split <;> rfl

/-- Zero is written without its scale, and does not need it. -/
theorem toRat_eq_writtenScale (number : Decimal) :
    number.toRat = toRat ⟨number.digits, number.writtenScale⟩ := by
  unfold writtenScale toRat
  by_cases zero : number.digits = 0
  · rw [if_pos zero]
    simp [zero]
  · rw [if_neg zero]

theorem toRat_eq_mul (number : Decimal) :
    number.toRat = number.digits * (10 : ℚ) ^ (-number.writtenScale) :=
  number.toRat_eq_writtenScale

/-- The number as it is written: up to fifteen zeros in front of the point are digits of it. -/
def expanded (number : Decimal) : Decimal :=
  if -15 ≤ number.writtenScale ∧ number.writtenScale < 0 then
    ⟨number.digits * 10 ^ (-number.writtenScale).toNat, 0⟩
  else ⟨number.digits, number.writtenScale⟩

theorem expanded_of_padded {number : Decimal} (least : -15 ≤ number.writtenScale)
    (padded : number.writtenScale < 0) :
    number.expanded = ⟨number.digits * 10 ^ (-number.writtenScale).toNat, 0⟩ :=
  if_pos ⟨least, padded⟩

theorem expanded_of_kept {number : Decimal}
    (kept : number.writtenScale < -15 ∨ 0 ≤ number.writtenScale) :
    number.expanded = ⟨number.digits, number.writtenScale⟩ :=
  if_neg (by omega)

theorem toRat_expanded (number : Decimal) : number.expanded.toRat = number.toRat := by
  by_cases padded : -15 ≤ number.writtenScale ∧ number.writtenScale < 0
  · have scale : 0 - ((-number.writtenScale).toNat : Int) = number.writtenScale := by omega
    rw [expanded_of_padded padded.1 padded.2, toRat_mul_ten_pow, scale, ← toRat_eq_writtenScale]
  · rw [expanded_of_kept (by omega), ← toRat_eq_writtenScale]

end Decimal

namespace Numeral

/-- The digits are those of the number, so many of them behind the point. -/
structure Shows (numeral : Numeral) (number : Decimal) : Prop where
  digits : numeral.digits = number.digits
  places : numeral.fraction.length = number.scale

theorem Shows.toRat_eq {numeral : Numeral} {number : Decimal} (shows : numeral.Shows number) :
    numeral.toRat = number.toRat := by
  rw [← toRat_digits, shows.digits, shows.places]

theorem natAbs_digits (numeral : Numeral) :
    numeral.digits.natAbs = value (numeral.whole ++ numeral.fraction) := by
  unfold digits
  cases numeral.negative <;> simp

theorem Shows.value_eq {numeral : Numeral} {number : Decimal} (shows : numeral.Shows number) :
    value (numeral.whole ++ numeral.fraction) = number.digits.natAbs := by
  rw [← natAbs_digits, shows.digits]

theorem digits_eq {numeral : Numeral} {n : Int} (negative : numeral.negative = decide (n < 0))
    (magnitude : value (numeral.whole ++ numeral.fraction) = n.natAbs) :
    numeral.digits = n := by
  rw [digits, negative, magnitude]
  by_cases below : n < 0
  · simp only [below, decide_true, if_true]
    omega
  · simp only [below, decide_false, Bool.false_eq_true, if_false]
    omega

theorem sign_eq {numeral : Numeral} {n : Int} (negative : numeral.negative = decide (n < 0)) :
    numeral.sign = if n < 0 then ['-'] else [] := by
  rw [sign, negative]
  simp

theorem value_replicate_zero (count : Nat) : value (List.replicate count 0) = 0 := by
  induction count with
  | zero => rfl
  | succ count induction => simp [List.replicate_succ, value, induction]

/-- Digits with a point in front of the last ones are a numeral. -/
theorem exists_pointed (negative : Bool) {digits : List (Fin 10)} (present : digits ≠ [])
    (places : Nat) :
    ∃ numeral : Numeral, numeral.negative = negative ∧
      numeral.text = numeral.sign ++ Decimal.pointed (digits.map digitChar) places ∧
      numeral.fraction.length = places ∧
      value (numeral.whole ++ numeral.fraction) = value digits := by
  by_cases pointless : places = 0
  · refine ⟨⟨negative, digits, [], .inl present⟩, rfl, ?_, pointless.symm, ?_⟩
    · simp [text, tail, Decimal.pointed, pointless]
    · simp
  · by_cases short : digits.length ≤ places
    · let fraction := List.replicate (places - digits.length) 0 ++ digits
      have behind : fraction ≠ [] := by simp [fraction, present]
      refine ⟨⟨negative, [0], fraction, .inr behind⟩, rfl, ?_, ?_, ?_⟩
      · have zero : digitChar 0 = '0' := rfl
        simp [text, tail, Decimal.pointed, pointless, short, behind, fraction, zero]
      · simp [fraction, short]
      · simp [fraction, value, value_append, value_replicate_zero]
    · have room : digits.length - places < digits.length := by omega
      have behind : digits.drop (digits.length - places) ≠ [] := by simp [room]
      refine ⟨⟨negative, digits.take (digits.length - places), _, .inr behind⟩, rfl, ?_, ?_, ?_⟩
      · simp [text, tail, Decimal.pointed, pointless, short, behind]
      · simp
        omega
      · simp

end Numeral

namespace Decimal

variable {number : Decimal}

theorem signed_of_neg {n : Int} (below : n < 0) : signed n = '-' :: natDigits (-n).toNat := by
  have size : n.natAbs = (-n).toNat := by omega
  rw [signed, if_pos below, size]

theorem signed_of_nonneg {n : Int} (above : 0 ≤ n) : signed n = '+' :: natDigits n.toNat := by
  have size : n.natAbs = n.toNat := by omega
  rw [signed, if_neg (by omega), size]

/-- Within the bounds, a decimal is written as a numeral. -/
theorem exists_plain (low : ¬number.IsScientific) (high : ¬number.IsExponential) :
    ∃ numeral : Numeral, number.toText.toList = numeral.text ∧ numeral.Shows number.expanded := by
  have low' : ¬number.writtenScale > (natDigits number.digits.natAbs).length + 5 := low
  have high' : ¬-number.writtenScale > 15 := high
  obtain ⟨digits, present, spelled, counted⟩ := exists_natDigits number.digits.natAbs
  rw [toList_toText, magnitudeText, if_neg low', if_neg high', ← spelled]
  by_cases padded : number.writtenScale < 0
  · let places := (-number.writtenScale).toNat
    let numeral : Numeral :=
      ⟨decide (number.digits < 0), digits ++ List.replicate places 0, [], by simp [present]⟩
    have positive : (0 : Int) < 10 ^ places := by positivity
    have negative : numeral.negative = decide (number.digits * 10 ^ places < 0) := by
      rw [decide_eq_decide, mul_neg_iff]
      omega
    have magnitude : value (numeral.whole ++ numeral.fraction) =
        (number.digits * 10 ^ places).natAbs := by
      rw [Int.natAbs_mul, Int.natAbs_pow, ← counted, List.append_nil, Numeral.value_append,
        Numeral.value_replicate_zero, List.length_replicate]
      rfl
    have zero : digitChar 0 = '0' := rfl
    refine ⟨numeral, ?_, ?_⟩
    · rw [if_pos padded, Numeral.text, Numeral.sign_eq (n := number.digits) rfl]
      simp [numeral, Numeral.tail, places, zero]
    · rw [expanded_of_padded (by omega) padded]
      exact ⟨Numeral.digits_eq negative magnitude, rfl⟩
  · obtain ⟨numeral, negative, text, places, magnitude⟩ :=
      Numeral.exists_pointed (decide (number.digits < 0)) present number.writtenScale.toNat
    rw [if_neg padded, expanded_of_kept (by omega)]
    refine ⟨numeral, by rw [text, Numeral.sign_eq negative], ?_⟩
    exact ⟨Numeral.digits_eq negative (magnitude.trans counted), by rw [places]; simp; omega⟩

/-- With few digits for its scale, a decimal is written as a numeral with one digit in front of
the point and an exponent below zero. -/
theorem exists_scientific (low : number.IsScientific) :
    ∃ numeral : Numeral, numeral.whole.length = 1 ∧
      number.toText.toList = numeral.text ++
        'E' :: '-' :: natDigits (number.writtenScale - (number.digitCount - 1)).toNat ∧
      numeral.Shows ⟨number.digits, number.digitCount - 1⟩ := by
  have low' : number.writtenScale > (natDigits number.digits.natAbs).length + 5 := low
  obtain ⟨digits, present, spelled, counted⟩ := exists_natDigits number.digits.natAbs
  have count : number.digitCount = digits.length := by
    rw [digitCount, ← spelled, List.length_map]
  have negative : (digits.length : Int) - 1 - number.writtenScale < 0 := by
    rw [← count]
    unfold IsScientific at low
    omega
  have exponent : -((digits.length : Int) - 1 - number.writtenScale) =
      number.writtenScale - (number.digitCount - 1) := by
    rw [count]
    omega
  rw [toList_toText, magnitudeText, if_pos low', ← spelled]
  unfold scientific
  rw [List.length_map, signed_of_neg negative, exponent]
  cases digits with
  | nil => exact absurd rfl present
  | cons digit rest =>
      refine ⟨⟨decide (number.digits < 0), [digit], rest, .inl (by simp)⟩, rfl, ?_, ?_, ?_⟩
      · rw [Numeral.text, Numeral.sign_eq (n := number.digits) rfl]
        cases rest <;> simp [Numeral.tail]
      · exact Numeral.digits_eq rfl counted
      · simp [count]

/-- With a scale far below zero, a decimal is written as its digits and an exponent. -/
theorem exists_exponential (low : ¬number.IsScientific) (high : number.IsExponential) :
    ∃ numeral : Numeral, numeral.fraction = [] ∧
      number.toText.toList =
        numeral.text ++ 'e' :: '+' :: natDigits (-number.writtenScale).toNat ∧
      numeral.Shows ⟨number.digits, 0⟩ := by
  have low' : ¬number.writtenScale > (natDigits number.digits.natAbs).length + 5 := low
  have high' : -number.writtenScale > 15 := high
  obtain ⟨digits, present, spelled, counted⟩ := exists_natDigits number.digits.natAbs
  have above : 0 ≤ -number.writtenScale := by omega
  rw [toList_toText, magnitudeText, if_neg low', if_pos high', ← spelled,
    signed_of_nonneg above]
  refine ⟨⟨decide (number.digits < 0), digits, [], .inl present⟩, rfl, ?_, ?_, rfl⟩
  · rw [Numeral.text, Numeral.sign_eq (n := number.digits) rfl]
    simp [Numeral.tail]
  · exact Numeral.digits_eq rfl (by rw [List.append_nil, counted])

end Decimal

end ColumnFilter
