import Mathlib.Data.List.TakeWhile
import ColumnFilter.Proofs.Dialect.Numeral
import ColumnFilter.Proofs.Sql.Semantics
import ColumnFilter.Proofs.Text.Tight

/-!
# Number literals

A numeral is bound as the decimal that it stands for.  A text with a character in it that
decimals are not written with is bound as it is.
-/

namespace ColumnFilter

namespace Decimal

def toRat (decimal : Decimal) : ℚ := decimal.digits * (10 : ℚ) ^ (-decimal.scale)

/-- Zeros behind the digits count like a smaller scale. -/
theorem toRat_mul_ten_pow (digits scale : Int) (zeros : Nat) :
    toRat ⟨digits * 10 ^ zeros, scale⟩ = toRat ⟨digits, scale - zeros⟩ := by
  have power : (10 : ℚ) ^ (-(scale - zeros)) = 10 ^ zeros * 10 ^ (-scale) := by
    rw [neg_sub, sub_eq_add_neg, zpow_add₀ (by norm_num), zpow_natCast]
  rw [toRat, toRat, power]
  push_cast
  ring

theorem read?_of_no_exponent {text : List Char}
    (plain : ∀ c ∈ text, isExponentMark c = false) :
    read? text = match readBase? text with
      | some (digits, places) => if (places : Int) < limit64 then some ⟨digits, places⟩ else none
      | none => none := by
  have base : text.takeWhile (!isExponentMark ·) = text :=
    List.takeWhile_eq_self_iff.mpr fun c member => by simp [plain c member]
  have tail : text.dropWhile (!isExponentMark ·) = [] :=
    List.dropWhile_eq_nil_iff.mpr fun c member => by simp [plain c member]
  rw [read?]
  simp only [base, tail]
  cases readBase? text with
  | none => rfl
  | some found =>
      obtain ⟨digits, places⟩ := found
      have low : -limit64 ≤ (places : Int) := by
        unfold limit64
        omega
      simp [low]

/-- Characters that decimals without exponent are written with. -/
def IsWritten (c : Char) : Prop :=
  c = '.' ∨ c = '-' ∨ c = '+' ∨ c = '_' ∨ (digitValue? c).isSome = true

theorem written_of_readDigits? {skipUnderscore : Bool} {acc n : Nat} {text : List Char}
    (read : readDigits? skipUnderscore acc text = some n) : ∀ c ∈ text, IsWritten c := by
  induction text generalizing acc with
  | nil => simp
  | cons c text induction =>
      rw [readDigits?] at read
      by_cases skipped : skipUnderscore && c == '_'
      · rw [if_pos skipped] at read
        obtain rfl : c = '_' := by simpa using ((Bool.and_eq_true _ _).mp skipped).2
        exact List.forall_mem_cons.mpr ⟨by simp [IsWritten], induction read⟩
      · rw [if_neg skipped] at read
        cases known : digitValue? c with
        | none => simp [known] at read
        | some digit =>
            simp only [known] at read
            exact List.forall_mem_cons.mpr ⟨by simp [IsWritten, known], induction read⟩

theorem written_of_readMagnitude? {n : Nat} {text : List Char}
    (read : readMagnitude? text = some n) : ∀ c ∈ text, IsWritten c := by
  unfold readMagnitude? at read
  extract_lets unsigned at read
  generalize stripped : unsigned = letters at read
  split at read
  · contradiction
  · contradiction
  · have digits := written_of_readDigits? read
    rw [← stripped] at digits
    unfold unsigned at digits
    split at digits
    · exact digits
    · exact List.forall_mem_cons.mpr ⟨by simp [IsWritten], digits⟩
    · exact digits

theorem written_of_readInteger? {n : Int} {text : List Char}
    (read : readInteger? text = some n) : ∀ c ∈ text, IsWritten c := by
  revert read
  fun_cases readInteger? text with
  | case1 => simp
  | case2 rest _ =>
      intro read
      cases found : readMagnitude? rest with
      | none => simp [found] at read
      | some magnitude =>
          exact List.forall_mem_cons.mpr ⟨by simp [IsWritten], written_of_readMagnitude? found⟩
  | case3 =>
      intro read
      cases found : readMagnitude? text with
      | none => simp [found] at read
      | some magnitude => exact written_of_readMagnitude? found

theorem mem_of_ne_point {c : Char} (other : c ≠ '.') {text : List Char} (member : c ∈ text) :
    c ∈ text.takeWhile (· != '.') ++ (text.dropWhile (· != '.')).drop 1 := by
  induction text with
  | nil => simp at member
  | cons d text induction =>
      by_cases point : d = '.'
      · subst point
        simpa [other] using member
      · have later : c = d ∨ c ∈ text := List.mem_cons.mp member
        rcases later with rfl | later
        · simp [point]
        · have inside := induction later
          rw [List.takeWhile_cons_of_pos (by simpa using point),
            List.dropWhile_cons_of_pos (by simpa using point)]
          exact List.mem_cons_of_mem d inside

theorem readBase?_eq_none {text : List Char} {c : Char} (member : c ∈ text)
    (foreign : ¬IsWritten c) : readBase? text = none := by
  have other : c ≠ '.' := by
    rintro rfl
    exact foreign (.inl rfl)
  fun_cases readBase? text with
  | case1 whole fraction n read =>
      exact absurd (written_of_readInteger? read c (mem_of_ne_point other member)) foreign
  | case2 => rfl

end Decimal

namespace Numeral

open Decimal

theorem isDigit_digitChar (digit : Fin 10) : (digitChar digit).isDigit = true := by
  revert digit
  decide

theorem ofDigitChars_digitChar (digits : List (Fin 10)) (acc : Nat) :
    Nat.ofDigitChars 10 (digits.map digitChar) acc = acc * 10 ^ digits.length + value digits := by
  induction digits generalizing acc with
  | nil => simp [value]
  | cons digit rest induction =>
      have known : (digitChar digit).toNat - '0'.toNat = digit := by
        revert digit
        decide
      rw [List.map_cons, Nat.ofDigitChars_cons, induction, known, value, List.length_cons]
      ring

/-- All digits of a numeral as an integer, with its sign. -/
def digits (numeral : Numeral) : Int :=
  let magnitude : Int := value (numeral.whole ++ numeral.fraction)
  if numeral.negative then -magnitude else magnitude

theorem readInteger?_numeral (numeral : Numeral) :
    readInteger? (numeral.sign ++ (numeral.whole ++ numeral.fraction).map digitChar) =
      some numeral.digits := by
  have present : (numeral.whole ++ numeral.fraction).map digitChar ≠ [] := by
    rcases numeral.present with present | present <;> simp [present]
  have all : ∀ c ∈ (numeral.whole ++ numeral.fraction).map digitChar, c.isDigit = true := by
    intro c member
    obtain ⟨digit, -, rfl⟩ := List.mem_map.mp member
    exact isDigit_digitChar digit
  have value : Nat.ofDigitChars 10 ((numeral.whole ++ numeral.fraction).map digitChar) 0 =
      value (numeral.whole ++ numeral.fraction) := by
    rw [ofDigitChars_digitChar, Nat.zero_mul, Nat.zero_add]
  unfold sign digits
  cases numeral.negative with
  | false =>
      rw [if_neg Bool.false_ne_true, List.nil_append, readInteger?_of_isDigit present all, value]
      rfl
  | true =>
      rw [if_pos rfl, List.singleton_append, readInteger?_minus_of_isDigit present all, value]
      rfl

theorem readBase?_text (numeral : Numeral) :
    readBase? numeral.text = some (numeral.digits, numeral.fraction.length) := by
  have kept : (numeral.fraction.map digitChar).filter (· != '_') =
      numeral.fraction.map digitChar := by
    rw [List.filter_eq_self]
    intro c member
    obtain ⟨digit, -, rfl⟩ := List.mem_map.mp member
    simpa using ne_of_isDigit (isDigit_digitChar digit) rfl
  rw [readBase?]
  simp only [takeWhile_text, drop_dropWhile_text, List.append_assoc]
  rw [← List.map_append, readInteger?_numeral]
  simp [kept]

/-- With a zero in front of a leading point, a numeral has the same digits. -/
theorem exists_withLeadingZero (numeral : Numeral) :
    ∃ padded : Numeral,
      (∀ rest, Value.withLeadingZero (numeral.text ++ rest) = padded.text ++ rest) ∧
      padded.digits = numeral.digits ∧ padded.fraction = numeral.fraction := by
  obtain ⟨negative, whole, fraction, present⟩ := numeral
  cases whole with
  | nil =>
      have behind : fraction ≠ [] := present.resolve_left (by simp)
      refine ⟨⟨negative, [0], fraction, .inr behind⟩, fun rest => ?_, ?_, rfl⟩
      · cases negative <;> simp [text, sign, tail, behind, Value.withLeadingZero, digitChar]
      · simp [digits, value]
  | cons digit whole =>
      have point := digitChar_ne_point digit
      have minus := digitChar_ne_minus digit
      refine ⟨⟨negative, digit :: whole, fraction, present⟩, fun rest => ?_, rfl, rfl⟩
      cases negative <;> simp [text, sign, Value.withLeadingZero, point, minus]

theorem length_fraction_le (numeral : Numeral) :
    numeral.fraction.length ≤ numeral.text.length := by
  by_cases pointless : numeral.fraction = []
  · simp [pointless]
  · simp [text, tail, pointless]
    omega

theorem no_exponent (numeral : Numeral) : ∀ c ∈ numeral.text, isExponentMark c = false := by
  intro c member
  rcases mem_text member with rfl | rfl | ⟨digit, rfl⟩
  · rfl
  · rfl
  · have plain : ∀ digit, isExponentMark (digitChar digit) = false := by decide
    exact plain digit

theorem read?_withLeadingZero (numeral : Numeral)
    (short : (numeral.fraction.length : Int) < limit64) :
    read? (Value.withLeadingZero numeral.text) =
      some ⟨numeral.digits, numeral.fraction.length⟩ := by
  obtain ⟨padded, spelled, digits, fraction⟩ := numeral.exists_withLeadingZero
  have alone := spelled []
  rw [List.append_nil, List.append_nil] at alone
  rw [alone, read?_of_no_exponent padded.no_exponent, readBase?_text]
  simp [digits, fraction, short]

theorem toRat_digits (numeral : Numeral) :
    Decimal.toRat ⟨numeral.digits, numeral.fraction.length⟩ = numeral.toRat := by
  have scaled : (value (numeral.whole ++ numeral.fraction) : ℚ) *
      (10 : ℚ) ^ (-(numeral.fraction.length : ℤ)) = numeral.magnitude := by
    rw [value_append, magnitude, fractional, zpow_neg, zpow_natCast]
    push_cast
    field_simp
  rw [Decimal.toRat, toRat, digits, ← scaled]
  cases numeral.negative <;> simp

end Numeral

namespace Value

theorem ofNumberLiteral_of_visible {text : List Char} (present : text ≠ [])
    (visible : ∀ c ∈ text, Text.isSpace c = false) :
    ofNumberLiteral (String.ofList text) =
      (Decimal.read? (withLeadingZero text)).elim (.string (String.ofList text)) .decimal := by
  rw [ofNumberLiteral, String.toList_ofList, (Text.Tight.of_visible present visible).trim_eq]
  cases Decimal.read? (withLeadingZero text) <;> rfl

/-- A numeral is bound as a decimal that is the same number. -/
theorem ofNumberLiteral_numeral (numeral : Numeral) (short : numeral.text.length < 2 ^ 63) :
    ∃ decimal, ofNumberLiteral (String.ofList numeral.text) = .decimal decimal ∧
      decimal.toRat = numeral.toRat := by
  have fits : (numeral.fraction.length : Int) < Decimal.limit64 := by
    have shorter := numeral.length_fraction_le
    unfold Decimal.limit64
    omega
  refine ⟨_, ?_, numeral.toRat_digits⟩
  rw [ofNumberLiteral_of_visible numeral.text_ne_nil numeral.text_visible,
    numeral.read?_withLeadingZero fits, Option.elim_some]

theorem mem_withLeadingZero {text : List Char} {c : Char} (member : c ∈ text) :
    c ∈ withLeadingZero text := by
  unfold withLeadingZero
  split
  · simp only [List.mem_cons] at member ⊢
    tauto
  · simp only [List.mem_cons] at member ⊢
    tauto
  · exact member

theorem of_mem_withLeadingZero {text : List Char} {c : Char} (member : c ∈ withLeadingZero text) :
    c = '0' ∨ c ∈ text := by
  unfold withLeadingZero at member
  split at member
  · simp only [List.mem_cons] at member ⊢
    tauto
  · simp only [List.mem_cons] at member ⊢
    tauto
  · exact .inr member

/-- A text that no decimal is written like is bound as it is. -/
theorem ofNumberLiteral_of_foreign {text : List Char}
    (visible : ∀ c ∈ text, Text.isSpace c = false)
    (plain : ∀ c ∈ text, Decimal.isExponentMark c = false) {c : Char} (member : c ∈ text)
    (foreign : ¬Decimal.IsWritten c) :
    ofNumberLiteral (String.ofList text) = .string (String.ofList text) := by
  have present : text ≠ [] := List.ne_nil_of_mem member
  have plain' : ∀ d ∈ withLeadingZero text, Decimal.isExponentMark d = false := by
    intro d inside
    rcases of_mem_withLeadingZero inside with rfl | inside
    · rfl
    · exact plain d inside
  rw [ofNumberLiteral_of_visible present visible, Decimal.read?_of_no_exponent plain',
    Decimal.readBase?_eq_none (mem_withLeadingZero member) foreign, Option.elim_none]

end Value

end ColumnFilter
