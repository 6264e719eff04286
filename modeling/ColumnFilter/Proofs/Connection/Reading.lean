import ColumnFilter.Connection.Numeric
import ColumnFilter.Proofs.Value.Writing

/-!
# Numerals as numbers of 96 bits

A numeral is read digit by digit.  Where its digits no longer fit, or behind 28 places, it is
rounded.  So the number that is read is the one that is written exactly when there is such
a number of 96 bits at all.
-/

namespace ColumnFilter

open Numeral (digitChar value)

namespace Numeric

/-- The number without its sign. -/
def size (number : Numeric) : ℚ := number.magnitude / 10 ^ number.places

/-- The number that is sent. -/
def toRat (number : Numeric) : ℚ := if number.negative then -number.size else number.size

/-- Some number of 96 bits is this one. -/
def Fits (x : ℚ) : Prop := ∃ number : Numeric, number.toRat = x

theorem size_mk (negative : Bool) {magnitude places : Nat} (small : magnitude < limit)
    (short : places ≤ 28) :
    size ⟨negative, magnitude, places, small, short⟩ = magnitude / 10 ^ places := rfl

theorem size_nonneg (number : Numeric) : 0 ≤ number.size := by
  unfold size
  positivity

theorem abs_toRat (number : Numeric) : |number.toRat| = number.size := by
  unfold toRat
  cases number.negative <;> simp [abs_of_nonneg number.size_nonneg]

theorem size_le (number : Numeric) : number.size + 1 ≤ limit := by
  have below : (number.magnitude : ℚ) + 1 ≤ limit := by exact_mod_cast number.magnitude_lt
  have unit : (1 : ℚ) ≤ 10 ^ number.places := one_le_pow₀ (by norm_num)
  have shrunk : number.size ≤ number.magnitude := div_le_self (by positivity) unit
  linarith

theorem ofParts_of_fits (negative : Bool) {magnitude places : Nat} (small : magnitude < limit)
    (short : places ≤ 28) :
    ofParts negative magnitude places = .ok ⟨negative, magnitude, places, small, short⟩ := by
  rw [ofParts, ofParts?, dif_pos ⟨small, short⟩]

/-- A number with more digits at its end. -/
def extended (magnitude : Nat) (digits : List (Fin 10)) : Nat :=
  magnitude * 10 ^ digits.length + value digits

theorem extended_nil (magnitude : Nat) : extended magnitude [] = magnitude := by
  simp [extended, value]

theorem extended_cons (magnitude : Nat) (digit : Fin 10) (digits : List (Fin 10)) :
    extended magnitude (digit :: digits) = extended (10 * magnitude + digit) digits := by
  simp only [extended, value, List.length_cons, pow_succ]
  ring

theorem extended_value (front back : List (Fin 10)) :
    extended (value front) back = value (front ++ back) :=
  (Numeral.value_append front back).symm

theorem le_extended (magnitude : Nat) (digits : List (Fin 10)) :
    magnitude ≤ extended magnitude digits := by
  have positive : 0 < 10 ^ digits.length := by positivity
  have := Nat.le_mul_of_pos_right magnitude positive
  unfold extended
  omega

theorem digitValue?_digitChar (digit : Fin 10) :
    Decimal.digitValue? (digitChar digit) = some (digit : Nat) := by
  revert digit
  decide

section Steps

variable {negative : Bool} {magnitude places : Nat} (digit : Fin 10) (rest : List Char)

theorem readFrom_whole_digit :
    readFrom negative false magnitude places (digitChar digit :: rest) =
      if 10 * magnitude + digit < limit then
        readFrom negative false (10 * magnitude + digit) places rest
      else .error .tooManyDigits := by
  simp [readFrom, Numeral.digitChar_ne_point, digitValue?_digitChar]

theorem readFrom_fraction_digit (short : places < 28) :
    readFrom negative true magnitude places (digitChar digit :: rest) =
      if 10 * magnitude + digit < limit then
        readFrom negative true (10 * magnitude + digit) (places + 1) rest
      else roundAt negative magnitude places (digitChar digit) rest := by
  simp [readFrom, digitValue?_digitChar, Nat.not_le.mpr short]

theorem readFrom_full (c : Char) :
    readFrom negative true magnitude 28 (c :: rest) = roundAt negative magnitude 28 c rest := by
  simp [readFrom]

theorem readFrom_point :
    readFrom negative false magnitude places ('.' :: rest) =
      readFrom negative true magnitude places rest := by
  simp [readFrom]

theorem readFrom_mark {pointed : Bool} {mark : Char}
    (marks : Decimal.isExponentMark mark = true) :
    readFrom negative pointed magnitude places (mark :: rest) = .error .malformed := by
  have foreign : Decimal.digitValue? mark = none := by
    rcases (by simpa [Decimal.isExponentMark] using marks) with rfl | rfl <;> rfl
  have point : mark ≠ '.' := by
    rintro rfl
    exact absurd marks (by decide)
  simp [readFrom, roundAt, foreign, point]

end Steps

variable {negative : Bool}

/-- In front of the point all digits have to fit. -/
theorem readFrom_whole {magnitude : Nat} (small : magnitude < limit) (digits : List (Fin 10))
    (places : Nat) (rest : List Char) :
    readFrom negative false magnitude places (digits.map digitChar ++ rest) =
      if extended magnitude digits < limit then
        readFrom negative false (extended magnitude digits) places rest
      else .error .tooManyDigits := by
  induction digits generalizing magnitude with
  | nil => rw [extended_nil, if_pos small]; rfl
  | cons digit digits induction =>
      rw [List.map_cons, List.cons_append, readFrom_whole_digit, extended_cons]
      by_cases fits : 10 * magnitude + ↑digit < limit
      · rw [if_pos fits]
        exact induction fits
      · rw [if_neg fits]
        have := le_extended (10 * magnitude + digit) digits
        rw [if_neg (by omega)]

theorem readFrom_fraction {magnitude places : Nat} {digits : List (Fin 10)}
    (fits : extended magnitude digits < limit) (short : places + digits.length ≤ 28)
    (rest : List Char) :
    readFrom negative true magnitude places (digits.map digitChar ++ rest) =
      readFrom negative true (extended magnitude digits) (places + digits.length) rest := by
  induction digits generalizing magnitude places with
  | nil => rw [extended_nil]; rfl
  | cons digit digits induction =>
      rw [extended_cons] at fits ⊢
      rw [List.length_cons] at short ⊢
      have first := le_extended (10 * magnitude + digit) digits
      rw [List.map_cons, List.cons_append, readFrom_fraction_digit digit _ (by omega),
        if_pos (by omega), induction fits (by omega), Nat.add_assoc, Nat.add_comm 1]

/-- Behind the point, the first digit for which there is no room is where the number is
rounded. -/
theorem readFrom_cut (negative : Bool) {magnitude places : Nat} (small : magnitude < limit)
    (short : places ≤ 28) (digits : List (Fin 10))
    (large : ¬(extended magnitude digits < limit ∧ places + digits.length ≤ 28)) :
    ∃ front digit back, digits = front ++ digit :: back ∧ extended magnitude front < limit ∧
      places + front.length ≤ 28 ∧
      (places + front.length = 28 ∨ limit ≤ extended magnitude (front ++ [digit])) ∧
      ∀ rest, readFrom negative true magnitude places (digits.map digitChar ++ rest) =
        roundAt negative (extended magnitude front) (places + front.length)
          (digitChar digit) (back.map digitChar ++ rest) := by
  induction digits generalizing magnitude places with
  | nil => exact absurd ⟨by rwa [extended_nil], short⟩ large
  | cons digit digits induction =>
      by_cases full : places = 28
      · subst full
        refine ⟨[], digit, digits, rfl, by rwa [extended_nil], le_refl _, .inl rfl, fun rest => ?_⟩
        rw [List.map_cons, List.cons_append, readFrom_full, extended_nil]
        rfl
      · have room : places < 28 := by omega
        by_cases fits : 10 * magnitude + digit < limit
        · rw [extended_cons, List.length_cons] at large
          obtain ⟨front, last, back, rfl, front', short', stop, read⟩ :=
            induction fits (show places + 1 ≤ 28 from room) (by omega)
          refine ⟨digit :: front, last, back, rfl, ?_, ?_, ?_, fun rest => ?_⟩
          · rwa [extended_cons]
          · rw [List.length_cons]
            omega
          · rw [List.length_cons, List.cons_append, extended_cons]
            exact stop.imp_left (by omega)
          · rw [List.map_cons, List.cons_append, readFrom_fraction_digit digit _ room,
              if_pos fits, read, extended_cons, List.length_cons, Nat.add_assoc,
              Nat.add_comm 1]
        · refine ⟨[], digit, digits, rfl, by rwa [extended_nil], short, .inr ?_, fun rest => ?_⟩
          · rw [List.nil_append, extended_cons, extended_nil]
            omega
          · rw [List.map_cons, List.cons_append, readFrom_fraction_digit digit _ room,
              if_neg fits, extended_nil]
            rfl

/-- The number is not below the digits that are kept, is just these if the next one is a zero,
and is off by at most a half of its last place. -/
structure Rounds (magnitude places : Nat) (digit : Fin 10) (number : Numeric) : Prop where
  least : (magnitude : ℚ) / 10 ^ places ≤ number.size
  exactly : (digit : Nat) = 0 → number.size = magnitude / 10 ^ places
  near : ∀ part : ℚ, (digit : Nat) / 10 ≤ part → part < ((digit : Nat) + 1) / 10 →
    |number.size - (magnitude + part) / 10 ^ places| ≤ 1 / 2 / 10 ^ number.places

theorem abs_sub_le_half {x y : ℚ} (places : Nat) (near : |x - y| ≤ 1 / 2) :
    |x / 10 ^ places - y / 10 ^ places| ≤ 1 / 2 / 10 ^ places := by
  rw [← sub_div, abs_div, abs_of_pos (by positivity : (0 : ℚ) < 10 ^ places)]
  gcongr

section Rounding

variable {magnitude places : Nat} {digit : Fin 10}

theorem rounds_down (small : magnitude < limit) (short : places ≤ 28)
    (low : (digit : Nat) < 5) :
    Rounds magnitude places digit ⟨negative, magnitude, places, small, short⟩ := by
  refine ⟨le_refl _, fun _ => rfl, fun part above below => ?_⟩
  have low' : (digit : Nat) + (1 : ℚ) ≤ 5 := by exact_mod_cast low
  have nonneg : (0 : ℚ) ≤ (digit : Nat) / 10 := by positivity
  refine abs_sub_le_half places ?_
  rw [abs_le]
  constructor <;> linarith

theorem rounds_up (small : magnitude + 1 < limit) (short : places ≤ 28)
    (high : 5 ≤ (digit : Nat)) :
    Rounds magnitude places digit ⟨negative, magnitude + 1, places, small, short⟩ := by
  refine ⟨?_, by omega, fun part above below => ?_⟩
  · rw [size_mk]
    push_cast
    gcongr
    linarith
  · have high' : (5 : ℚ) ≤ (digit : Nat) := by exact_mod_cast high
    have largest : ((digit : Nat) : ℚ) ≤ 9 := by exact_mod_cast Nat.le_of_lt_succ digit.isLt
    refine abs_sub_le_half places ?_
    rw [abs_le]
    push_cast
    constructor <;> linarith

/-- Where the digits overflow, one more place is given up. -/
theorem rounds_over {fewer : Nat} (small : fewer < limit) (short : places - 1 ≤ 28)
    (high : 5 ≤ (digit : Nat)) (present : places ≠ 0) (tens : fewer * 10 = magnitude + 5) :
    Rounds magnitude places digit ⟨negative, fewer, places - 1, small, short⟩ := by
  have tens' : (fewer : ℚ) * 10 = magnitude + 5 := by exact_mod_cast tens
  have power : (10 : ℚ) ^ places = 10 * 10 ^ (places - 1) := (mul_pow_sub_one present 10).symm
  refine ⟨?_, by omega, fun part above below => ?_⟩
  · rw [size_mk, power, ← div_div]
    gcongr
    linarith
  · have high' : (5 : ℚ) ≤ (digit : Nat) := by exact_mod_cast high
    have largest : ((digit : Nat) : ℚ) ≤ 9 := by exact_mod_cast Nat.le_of_lt_succ digit.isLt
    rw [size_mk, power, ← div_div]
    refine abs_sub_le_half (places - 1) ?_
    rw [abs_le]
    constructor <;> linarith

end Rounding

theorem all_isDigit_map (digits : List (Fin 10)) :
    (digits.map digitChar).all Char.isDigit = true := by
  simp [Numeral.isDigit_digitChar]

/-- Rounding at a digit fails where no place is left to be given up. -/
theorem roundAt_digitChar (negative : Bool) {magnitude places : Nat}
    (small : magnitude < limit) (short : places ≤ 28) (digit : Fin 10)
    (back : List (Fin 10)) :
    let result := roundAt negative magnitude places (digitChar digit) (back.map digitChar)
    (5 ≤ (digit : Nat) ∧ magnitude + 1 = limit ∧ places = 0 ∧
      result = .error .tooManyDigits) ∨
    ¬(5 ≤ (digit : Nat) ∧ magnitude + 1 = limit ∧ places = 0) ∧
      ∃ number : Numeric, result = .ok number ∧
        number.negative = negative ∧ Rounds magnitude places digit number := by
  intro result
  have read : result =
      if (digit : Nat) < 5 then ofParts negative magnitude places
      else if magnitude + 1 < limit then ofParts negative (magnitude + 1) places
      else if places = 0 then .error .tooManyDigits
      else ofParts negative ((magnitude + 5) / 10) (places - 1) := by
    simp only [result, roundAt, digitValue?_digitChar, all_isDigit_map, Bool.not_true,
      Bool.false_eq_true, if_false]
  rw [read]
  by_cases low : (digit : Nat) < 5
  · refine .inr ⟨by omega, _, ?_, rfl, rounds_down small short low⟩
    rw [if_pos low, ofParts_of_fits negative small short]
  · have high : 5 ≤ (digit : Nat) := by omega
    by_cases room : magnitude + 1 < limit
    · refine .inr ⟨by omega, _, ?_, rfl, rounds_up room short high⟩
      rw [if_neg low, if_pos room, ofParts_of_fits negative room short]
    · by_cases bare : places = 0
      · exact .inl ⟨high, by omega, bare, by rw [if_neg low, if_neg room, if_pos bare]⟩
      · have nines : magnitude + 1 = limit := by omega
        have tens : (magnitude + 5) / 10 * 10 = magnitude + 5 := by
          unfold limit at nines
          omega
        have fewer : (magnitude + 5) / 10 < limit := by
          unfold limit at nines ⊢
          omega
        have shorter : places - 1 ≤ 28 := by omega
        refine .inr ⟨by omega, _, ?_, rfl, rounds_over fewer shorter high bare tens⟩
        rw [if_neg low, if_neg room, if_neg bare, ofParts_of_fits negative fewer shorter]

end Numeric

namespace Numeral

open Numeric

/-- All digits of the numeral fit. -/
def Kept (numeral : Numeral) : Prop :=
  value (numeral.whole ++ numeral.fraction) < limit ∧ numeral.fraction.length ≤ 28

/-- There is room for the digits in front of the point and for those of `front`, but not for
the next one, `digit`. -/
structure Cut (numeral : Numeral) (front : List (Fin 10)) (digit : Fin 10)
    (back : List (Fin 10)) : Prop where
  fraction : numeral.fraction = front ++ digit :: back
  small : value (numeral.whole ++ front) < limit
  short : front.length ≤ 28
  stop : front.length = 28 ∨ limit ≤ value (numeral.whole ++ front ++ [digit])

theorem ofPlain?_text (numeral : Numeral) (rest : List Char) :
    ofPlain? (numeral.text ++ rest) =
      readFrom numeral.negative false 0 0
        (numeral.whole.map digitChar ++ (numeral.tail ++ rest)) := by
  have head : numeral.whole.map digitChar ++ (numeral.tail ++ rest) ≠ [] ∧
      (numeral.whole.map digitChar ++ (numeral.tail ++ rest)).head? ≠ some '-' := by
    cases front : numeral.whole with
    | nil =>
        have behind := numeral.present.resolve_left (fun present => present front)
        simp [tail, behind]
    | cons digit whole => simp [digitChar_ne_minus]
  rw [text, sign, List.append_assoc, List.append_assoc]
  generalize numeral.whole.map digitChar ++ (numeral.tail ++ rest) = letters at head
  cases numeral.negative with
  | true => rfl
  | false =>
      cases letters with
      | nil => exact absurd rfl head.1
      | cons c letters =>
          have minus : c ≠ '-' := by simpa using head.2
          simp [ofPlain?, minus]

theorem value_whole_le (numeral : Numeral) (front : List (Fin 10)) :
    value numeral.whole ≤ value (numeral.whole ++ front) := by
  rw [← extended_value]
  exact le_extended _ _

theorem ofPlain?_of_large {numeral : Numeral} (large : limit ≤ value numeral.whole)
    (rest : List Char) : ofPlain? (numeral.text ++ rest) = .error .tooManyDigits := by
  have zero : extended 0 numeral.whole = value numeral.whole := by simp [extended]
  rw [ofPlain?_text, readFrom_whole (by decide), zero, if_neg (by omega)]

/-- Where all digits fit, they are read up to the end of the numeral. -/
theorem readFrom_of_kept {numeral : Numeral} (kept : numeral.Kept) (rest : List Char) :
    ofPlain? (numeral.text ++ rest) =
      readFrom numeral.negative (!numeral.fraction.isEmpty)
        (value (numeral.whole ++ numeral.fraction)) numeral.fraction.length rest := by
  have zero : extended 0 numeral.whole = value numeral.whole := by simp [extended]
  have small : value numeral.whole < limit :=
    (numeral.value_whole_le numeral.fraction).trans_lt kept.1
  rw [ofPlain?_text, readFrom_whole (by decide), zero, if_pos small, tail]
  by_cases pointless : numeral.fraction = []
  · rw [if_pos pointless]
    simp [pointless]
  · rw [if_neg pointless, List.cons_append, readFrom_point,
      readFrom_fraction (by rw [extended_value]; exact kept.1) (by simpa using kept.2),
      extended_value, Nat.zero_add, List.isEmpty_eq_false_iff.mpr pointless, Bool.not_false]

theorem ofPlain?_of_cut {numeral : Numeral}
    (small : value numeral.whole < limit) (unkept : ¬numeral.Kept) :
    ∃ front digit back, numeral.Cut front digit back ∧ ∀ rest,
      ofPlain? (numeral.text ++ rest) =
        roundAt numeral.negative (value (numeral.whole ++ front)) front.length
          (digitChar digit) (back.map digitChar ++ rest) := by
  have zero : extended 0 numeral.whole = value numeral.whole := by simp [extended]
  have behind : numeral.fraction ≠ [] := by
    intro pointless
    exact unkept ⟨by simpa [pointless] using small, by simp [pointless]⟩
  obtain ⟨front, digit, back, split, fits, short, stop, read⟩ :=
    readFrom_cut numeral.negative small (Nat.zero_le 28) numeral.fraction
      (by simpa [extended_value, Kept] using unkept)
  rw [extended_value] at fits
  rw [Nat.zero_add] at short
  rw [Nat.zero_add, extended_value, ← List.append_assoc] at stop
  refine ⟨front, digit, back, ⟨split, fits, short, stop⟩, fun rest => ?_⟩
  rw [ofPlain?_text, readFrom_whole (by decide), zero, if_pos small, tail, if_neg behind,
    List.cons_append, readFrom_point, read, extended_value, Nat.zero_add]

theorem magnitude_nonneg (numeral : Numeral) : 0 ≤ numeral.magnitude := by
  have := numeral.fractional_nonneg
  unfold magnitude
  positivity

theorem abs_toRat (numeral : Numeral) : |numeral.toRat| = numeral.magnitude := by
  unfold toRat
  cases numeral.negative <;> simp [abs_of_nonneg numeral.magnitude_nonneg]

theorem size_eq_magnitude {number : Numeric} {numeral : Numeral}
    (same : number.toRat = numeral.toRat) : number.size = numeral.magnitude := by
  rw [← number.abs_toRat, same, numeral.abs_toRat]

/-- The first places, and the digits behind them as a fraction of the last of these. -/
theorem magnitude_append {numeral : Numeral} {front back : List (Fin 10)}
    (split : numeral.fraction = front ++ back) :
    numeral.magnitude =
      (value (numeral.whole ++ front) + (value back : ℚ) / 10 ^ back.length) /
        10 ^ front.length := by
  rw [magnitude, fractional, split, value_append, value_append, List.length_append, pow_add]
  push_cast
  field_simp
  ring

theorem magnitude_eq (numeral : Numeral) :
    numeral.magnitude =
      value (numeral.whole ++ numeral.fraction) / 10 ^ numeral.fraction.length := by
  rw [magnitude_append (List.append_nil _).symm]
  simp [value]

theorem fraction_cons (digit : Fin 10) (back : List (Fin 10)) :
    (digit : ℚ) / 10 ≤ value (digit :: back) / 10 ^ (digit :: back).length ∧
      (value (digit :: back) : ℚ) / 10 ^ (digit :: back).length < (digit + 1) / 10 := by
  have below : (value back : ℚ) < 10 ^ back.length := by exact_mod_cast value_lt back
  have nonneg : (0 : ℚ) ≤ value back := by positivity
  have positive : (0 : ℚ) < 10 ^ back.length := by positivity
  rw [value, List.length_cons, pow_succ]
  push_cast
  constructor
  · rw [div_le_div_iff₀ (by positivity) (by positivity)]
    nlinarith
  · rw [div_lt_div_iff₀ (by positivity) (by positivity)]
    nlinarith

/-- Digits for which there is no room are zeros if the number is one of 96 bits. -/
theorem Cut.value_eq_zero {numeral : Numeral} {front back : List (Fin 10)} {digit : Fin 10}
    (cut : numeral.Cut front digit back) (carried : Numeric.Fits numeral.toRat) :
    value (digit :: back) = 0 := by
  obtain ⟨number, same⟩ := carried
  have equal : (number.magnitude : ℚ) / 10 ^ number.places =
      value (numeral.whole ++ numeral.fraction) / 10 ^ numeral.fraction.length := by
    rw [← magnitude_eq, ← size_eq_magnitude same, Numeric.size]
  rw [div_eq_div_iff (by positivity) (by positivity)] at equal
  have scaled : number.magnitude * 10 ^ numeral.fraction.length =
      value (numeral.whole ++ numeral.fraction) * 10 ^ number.places := by
    exact_mod_cast equal
  rw [cut.fraction, ← List.append_assoc, List.length_append, List.length_cons] at scaled
  by_cases room : number.places ≤ front.length
  · -- With no more places than there is room for, all that is behind is a multiple of its unit.
    obtain ⟨more, count⟩ := Nat.exists_eq_add_of_le room
    rw [value_append, List.length_cons, count, Nat.add_assoc, pow_add,
      Nat.mul_left_comm, Nat.mul_comm _ (10 ^ number.places)] at scaled
    have unit : number.magnitude * 10 ^ (more + (back.length + 1)) =
        value (numeral.whole ++ front) * 10 ^ (back.length + 1) + value (digit :: back) :=
      Nat.eq_of_mul_eq_mul_left (by positivity) scaled
    have divides : 10 ^ (back.length + 1) ∣ value (digit :: back) := by
      rw [← Nat.dvd_add_right (Dvd.intro_left _ rfl), ← unit, pow_add]
      exact ⟨number.magnitude * 10 ^ more, by ring⟩
    exact Nat.eq_zero_of_dvd_of_lt divides (value_lt (digit :: back))
  · -- With more places, the digits that do not fit would be among those of the number.
    obtain ⟨more, count⟩ := Nat.exists_eq_add_of_lt (Nat.lt_of_not_le room)
    have full : front.length ≠ 28 := by
      have := number.places_le
      omega
    have large := cut.stop.resolve_left full
    have unit : number.magnitude * 10 ^ back.length =
        value (numeral.whole ++ front ++ digit :: back) * 10 ^ more := by
      have power : 10 ^ (front.length + (back.length + 1)) =
          10 ^ (front.length + 1) * 10 ^ back.length := by ring
      have power' : 10 ^ number.places = 10 ^ (front.length + 1) * 10 ^ more := by
        rw [count]
        ring
      rw [power, power', Nat.mul_left_comm, Nat.mul_left_comm (value _)] at scaled
      exact Nat.eq_of_mul_eq_mul_left (by positivity) scaled
    have regroup : numeral.whole ++ front ++ digit :: back =
        (numeral.whole ++ front ++ [digit]) ++ back := by simp
    have enough : limit * 10 ^ back.length ≤ number.magnitude * 10 ^ back.length :=
      calc limit * 10 ^ back.length
          ≤ value (numeral.whole ++ front ++ [digit]) * 10 ^ back.length :=
            Nat.mul_le_mul_right _ large
        _ ≤ value (numeral.whole ++ front ++ digit :: back) := by
            rw [regroup, value_append _ back]
            exact Nat.le_add_right _ _
        _ ≤ value (numeral.whole ++ front ++ digit :: back) * 10 ^ more :=
            Nat.le_mul_of_pos_right _ (by positivity)
        _ = number.magnitude * 10 ^ back.length := unit.symm
    have := Nat.le_of_mul_le_mul_right enough (by positivity)
    have := number.magnitude_lt
    omega

theorem ofPlain?_of_kept {numeral : Numeral} (kept : numeral.Kept) :
    ∃ number : Numeric, ofPlain? numeral.text = .ok number ∧ number.toRat = numeral.toRat ∧
      number.negative = numeral.negative ∧ number.places = numeral.fraction.length ∧
      number.magnitude = value (numeral.whole ++ numeral.fraction) := by
  have read := readFrom_of_kept kept []
  rw [List.append_nil, readFrom, ofParts_of_fits _ kept.1 kept.2] at read
  refine ⟨_, read, ?_, rfl, rfl, rfl⟩
  rw [Numeric.toRat, Numeric.size_mk, toRat, magnitude_eq]

theorem value_whole_le_magnitude (numeral : Numeral) :
    (value numeral.whole : ℚ) ≤ numeral.magnitude :=
  le_add_of_nonneg_right numeral.fractional_nonneg

/-- A numeral is read as the number that it is, if there is such a number of 96 bits. -/
theorem ofPlain?_eq_ok_iff (numeral : Numeral) :
    (∃ number, ofPlain? numeral.text = .ok number ∧ number.toRat = numeral.toRat) ↔
      Numeric.Fits numeral.toRat := by
  refine ⟨fun ⟨number, _, same⟩ => ⟨number, same⟩, fun carried => ?_⟩
  by_cases kept : numeral.Kept
  · obtain ⟨number, read, same, -⟩ := ofPlain?_of_kept kept
    exact ⟨number, read, same⟩
  · have small : value numeral.whole < limit := by
      obtain ⟨number, same⟩ := carried
      have sizes := size_eq_magnitude same
      have bound := number.size_le
      have whole := numeral.value_whole_le_magnitude
      have below : (value numeral.whole : ℚ) < limit := by linarith
      exact_mod_cast below
    obtain ⟨front, digit, back, cut, read⟩ := ofPlain?_of_cut small kept
    have empty := cut.value_eq_zero carried
    have zero : (digit : Nat) = 0 := by
      rw [value, Nat.add_eq_zero_iff] at empty
      exact (Nat.mul_eq_zero.mp empty.1).resolve_right (by positivity)
    obtain ⟨five, -⟩ | ⟨-, number, rounded, negative, rounds⟩ :=
      roundAt_digitChar numeral.negative cut.small cut.short digit back
    · omega
    · refine ⟨number, ?_, ?_⟩
      · rw [← rounded, ← List.append_nil (back.map digitChar), ← read [], List.append_nil]
      · rw [Numeric.toRat, toRat, negative, rounds.exactly zero,
          magnitude_append cut.fraction, empty]
        simp

theorem Cut.magnitude_lt_iff {numeral : Numeral} {front back : List (Fin 10)} {digit : Fin 10}
    (cut : numeral.Cut front digit back) :
    numeral.magnitude < limit - 1 / 2 ↔
      ¬(5 ≤ (digit : Nat) ∧ value (numeral.whole ++ front) + 1 = limit ∧ front.length = 0) := by
  obtain ⟨above, below⟩ := fraction_cons digit back
  rw [magnitude_append cut.fraction]
  generalize (value (digit :: back) : ℚ) / 10 ^ (digit :: back).length = part at above below
  have fits := cut.small
  generalize value (numeral.whole ++ front) = kept at fits
  have small : (kept : ℚ) + 1 ≤ limit := by exact_mod_cast fits
  have nonneg : (0 : ℚ) ≤ kept + part := by
    have : (0 : ℚ) ≤ (digit : Nat) / 10 := by positivity
    have : (0 : ℚ) ≤ kept := by positivity
    linarith
  have largest : (9 : ℚ) ≥ (digit : Nat) := by exact_mod_cast Nat.le_of_lt_succ digit.isLt
  by_cases bare : front.length = 0
  · rw [bare, pow_zero, div_one]
    by_cases high : 5 ≤ (digit : Nat)
    · have high' : (5 : ℚ) ≤ (digit : Nat) := by exact_mod_cast high
      by_cases full : kept + 1 = limit
      · have full' : (kept : ℚ) + 1 = limit := by exact_mod_cast full
        exact iff_of_false (by linarith) (not_not.mpr ⟨high, full, rfl⟩)
      · have room : (kept : ℚ) + 2 ≤ limit := by
          exact_mod_cast Nat.lt_of_le_of_ne fits full
        exact iff_of_true (by linarith) (fun refused => full refused.2.1)
    · have low : (digit : Nat) + (1 : ℚ) ≤ 5 := by exact_mod_cast Nat.lt_of_not_le high
      exact iff_of_true (by linarith) (fun refused => high refused.1)
  · have tens : (10 : ℚ) ≤ 10 ^ front.length := le_self_pow₀ (by norm_num) bare
    have many : (2 : ℚ) ≤ limit := by exact_mod_cast (by decide : 2 ≤ limit)
    have shrunk : (kept + part) / 10 ^ front.length ≤ (kept + part) / 10 :=
      div_le_div_of_nonneg_left nonneg (by norm_num) tens
    exact iff_of_true (by linarith) (fun refused => bare refused.2.2)

/-- A numeral is no number of 96 bits if rounding it to an integer gives one that is too large. -/
theorem ofPlain?_eq_error_iff (numeral : Numeral) :
    (∃ error, ofPlain? numeral.text = .error error) ↔
      (limit : ℚ) - 1 / 2 ≤ numeral.magnitude := by
  by_cases small : value numeral.whole < limit
  · by_cases kept : numeral.Kept
    · obtain ⟨number, read, same, -⟩ := ofPlain?_of_kept kept
      have sizes := size_eq_magnitude same
      have bound := number.size_le
      rw [read]
      exact iff_of_false (fun ⟨error, failed⟩ => (by cases failed)) (by linarith)
    · obtain ⟨front, digit, back, cut, read⟩ := ofPlain?_of_cut small kept
      have read := read []
      rw [List.append_nil, List.append_nil] at read
      rw [← not_lt, cut.magnitude_lt_iff, not_not, read]
      obtain ⟨high, full, bare, error⟩ | ⟨room, number, rounded, -⟩ :=
        roundAt_digitChar numeral.negative cut.small cut.short digit back
      · exact ⟨fun _ => ⟨high, full, bare⟩, fun _ => ⟨_, error⟩⟩
      · rw [rounded]
        exact ⟨fun ⟨error, failed⟩ => (by cases failed), fun refused => absurd refused room⟩
  · have large : (limit : ℚ) ≤ value numeral.whole := by exact_mod_cast Nat.le_of_not_lt small
    have error := ofPlain?_of_large (Nat.le_of_not_lt small) []
    rw [List.append_nil] at error
    refine ⟨fun _ => ?_, fun _ => ⟨_, error⟩⟩
    have := numeral.value_whole_le_magnitude
    linarith

/-- What is read is off by at most a half of its last place. -/
theorem ofPlain?_near {numeral : Numeral} {number : Numeric}
    (read : ofPlain? numeral.text = .ok number) :
    |number.toRat - numeral.toRat| ≤ 1 / 2 / 10 ^ number.places := by
  by_cases small : value numeral.whole < limit
  · by_cases kept : numeral.Kept
    · obtain ⟨number', read', same, -⟩ := ofPlain?_of_kept kept
      obtain rfl : number' = number := Except.ok.inj (read'.symm.trans read)
      rw [same, sub_self, abs_zero]
      positivity
    · obtain ⟨front, digit, back, cut, read'⟩ := ofPlain?_of_cut small kept
      have read' := read' []
      rw [List.append_nil, List.append_nil, read] at read'
      obtain ⟨-, -, -, error⟩ | ⟨-, number', rounded, negative, rounds⟩ :=
        roundAt_digitChar numeral.negative cut.small cut.short digit back
      · cases read'.trans error
      · obtain rfl : number = number' := Except.ok.inj (read'.trans rounded)
        obtain ⟨above, below⟩ := fraction_cons digit back
        have near := rounds.near _ above below
        rw [← magnitude_append cut.fraction] at near
        rw [Numeric.toRat, toRat, negative]
        cases numeral.negative with
        | false => exact near
        | true => simpa only [if_true, neg_sub_neg, abs_sub_comm] using near
  · have error := ofPlain?_of_large (Nat.le_of_not_lt small) []
    rw [List.append_nil, read] at error
    cases error

/-- An exponent is no part of a numeral. -/
theorem ofPlain?_of_mark (numeral : Numeral) {mark : Char}
    (marks : Decimal.isExponentMark mark = true) (rest : List Char) :
    ∃ error, ofPlain? (numeral.text ++ mark :: rest) = .error error := by
  by_cases small : value numeral.whole < limit
  · by_cases kept : numeral.Kept
    · exact ⟨.malformed, by rw [readFrom_of_kept kept, readFrom_mark rest marks]⟩
    · obtain ⟨front, digit, back, -, read⟩ := ofPlain?_of_cut small kept
      have foreign : mark.isDigit = false := by
        rcases (by simpa [Decimal.isExponentMark] using marks) with rfl | rfl <;> rfl
      refine ⟨.malformed, ?_⟩
      simp [read, roundAt, digitValue?_digitChar, foreign]
  · exact ⟨.tooManyDigits, ofPlain?_of_large (Nat.le_of_not_lt small) _⟩

end Numeral

end ColumnFilter
