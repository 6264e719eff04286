import ColumnFilter.Proofs.Value.Literal

/-!
# Decimals that are the same number

Two decimals agree if they have the same normal form, which has no trailing zero and no scale
for zero.  A number has one such form only, so that they agree exactly if they are the same
number.
-/

namespace ColumnFilter

namespace Decimal

theorem exists_stripZeros {fuel n : Nat} (present : n ≠ 0) (small : n < 10 ^ fuel) (count : Nat) :
    ∃ kept zeros, stripZeros fuel n count = (kept, count + zeros) ∧ n = kept * 10 ^ zeros ∧
      ¬10 ∣ kept := by
  induction fuel generalizing n count with
  | zero =>
      rw [pow_zero] at small
      omega
  | succ fuel induction =>
      rw [stripZeros]
      by_cases round : n % 10 = 0
      · rw [if_pos round]
        obtain ⟨tenth, rfl⟩ : ∃ tenth, n = tenth * 10 := ⟨n / 10, by omega⟩
        rw [pow_succ] at small
        rw [Nat.mul_div_cancel tenth (by omega)]
        obtain ⟨kept, zeros, stripped, shape, bare⟩ :=
          induction (show tenth ≠ 0 by omega) (by omega) (count + 1)
        refine ⟨kept, zeros + 1, ?_, ?_, bare⟩
        · rw [stripped, Nat.add_assoc, Nat.add_comm 1]
        · rw [shape, pow_succ, Nat.mul_assoc]
      · rw [if_neg round]
        exact ⟨n, 0, rfl, by rw [pow_zero, Nat.mul_one], by omega⟩

/-- No zero that could be taken off, and no scale for zero. -/
structure IsNormal (number : Decimal) : Prop where
  bare : 10 ∣ number.digits → number.digits = 0
  unscaled : number.digits = 0 → number.scale = 0

theorem exists_normal {number : Decimal} (present : number.digits ≠ 0) :
    ∃ (digits : Int) (zeros : Nat), number.normal = ⟨digits, number.scale - zeros⟩ ∧
      number.digits = digits * 10 ^ zeros ∧ ¬10 ∣ digits := by
  have size : number.digits.natAbs ≠ 0 := Int.natAbs_ne_zero.mpr present
  have small : number.digits.natAbs < 10 ^ (natDigits number.digits.natAbs).length :=
    (Nat.length_toDigits_le_iff (by omega) Nat.length_toDigits_pos).mp (Nat.le_refl _)
  obtain ⟨kept, zeros, stripped, shape, bare⟩ := exists_stripZeros size small 0
  rw [Nat.zero_add] at stripped
  have shape' : (number.digits.natAbs : Int) = kept * 10 ^ zeros := by exact_mod_cast shape
  rw [normal, if_neg present]
  simp only [stripped]
  by_cases negative : number.digits < 0
  · rw [if_pos negative]
    refine ⟨-kept, zeros, rfl, ?_, by omega⟩
    rw [Int.neg_mul, ← shape']
    omega
  · rw [if_neg negative]
    refine ⟨kept, zeros, rfl, ?_, by omega⟩
    rw [← shape']
    omega

theorem normal_of_zero {number : Decimal} (zero : number.digits = 0) :
    number.normal = ⟨0, 0⟩ := by
  rw [normal, if_pos zero]

theorem isNormal_normal (number : Decimal) : number.normal.IsNormal := by
  by_cases zero : number.digits = 0
  · rw [normal_of_zero zero]
    exact ⟨fun _ => rfl, fun _ => rfl⟩
  · obtain ⟨digits, zeros, shape, -, bare⟩ := exists_normal zero
    rw [shape]
    refine ⟨fun round => absurd round bare, ?_⟩
    rintro rfl
    exact absurd (dvd_zero 10) bare

theorem toRat_normal (number : Decimal) : number.normal.toRat = number.toRat := by
  by_cases zero : number.digits = 0
  · rw [normal_of_zero zero, toRat, toRat, zero]
    simp
  · obtain ⟨digits, zeros, shape, split, -⟩ := exists_normal zero
    rw [shape, ← toRat_mul_ten_pow, ← split]

/-- With a larger scale, the same number has more digits. -/
theorem digits_eq_mul_ten_pow {left right : Decimal} {more : Nat}
    (scale : right.scale = left.scale + more) (same : left.toRat = right.toRat) :
    right.digits = left.digits * 10 ^ more := by
  have aligned : toRat ⟨left.digits * 10 ^ more, right.scale⟩ = right.toRat := by
    rw [toRat_mul_ten_pow, scale, add_sub_cancel_right]
    exact same
  have nonzero : (10 : ℚ) ^ (-right.scale) ≠ 0 := zpow_ne_zero _ (by norm_num)
  have digits := mul_right_cancel₀ nonzero aligned
  exact_mod_cast digits.symm

namespace IsNormal

variable {left right : Decimal}

theorem eq_of_scale_le (normal : left.IsNormal) (normal' : right.IsNormal)
    (least : left.scale ≤ right.scale) (same : left.toRat = right.toRat) : left = right := by
  obtain ⟨more, scale⟩ : ∃ more : Nat, right.scale = left.scale + more :=
    ⟨(right.scale - left.scale).toNat, by omega⟩
  have digits := digits_eq_mul_ten_pow scale same
  have none : more = 0 := by
    by_contra positive
    have round : 10 ∣ right.digits := by
      rw [digits]
      exact Dvd.dvd.mul_left (dvd_pow_self 10 positive) _
    -- So many zeros are found behind a zero only, and zero has no scale.
    have zero := normal'.bare round
    have zero' : left.digits = 0 := by
      rw [zero] at digits
      exact (mul_eq_zero.mp digits.symm).resolve_right (pow_ne_zero _ (by omega))
    have := normal.unscaled zero'
    have := normal'.unscaled zero
    omega
  rw [none, pow_zero, mul_one] at digits
  rw [none, Nat.cast_zero, add_zero] at scale
  cases right with
  | mk digits' scale' =>
      obtain rfl : digits' = left.digits := digits
      obtain rfl : scale' = left.scale := scale
      rfl

theorem eq_of_toRat_eq (normal : left.IsNormal) (normal' : right.IsNormal)
    (same : left.toRat = right.toRat) : left = right := by
  rcases Int.le_total left.scale right.scale with least | least
  · exact normal.eq_of_scale_le normal' least same
  · exact (normal'.eq_of_scale_le normal least same.symm).symm

end IsNormal

/-- Equality of normal forms is equality of numbers. -/
theorem sameNumber_iff (left right : Decimal) :
    left.sameNumber right = true ↔ left.toRat = right.toRat := by
  rw [sameNumber, beq_iff_eq]
  constructor
  · intro same
    rw [← left.toRat_normal, same, right.toRat_normal]
  · intro same
    refine left.isNormal_normal.eq_of_toRat_eq right.isNormal_normal ?_
    rw [toRat_normal, toRat_normal, same]

end Decimal

end ColumnFilter
