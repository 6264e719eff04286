import Mathlib.Algebra.Order.Round
import Mathlib.Data.Rat.Floor
import Mathlib.Data.Set.List
import Mathlib.Tactic.FieldSimp
import Mathlib.Tactic.Linarith
import Mathlib.Tactic.NormNum
import Mathlib.Tactic.Positivity
import Mathlib.Tactic.Ring
import ColumnFilter.Text.Class

/-!
# Numerals

A number without exponent as it is written: digits, a point among them, a sign.
Rounded to some decimal places, it needs more digits in front of the point than
there is room for in two ways: by its own digits, or because they are all nines
and what stands behind the point is rounded up to one.
-/

namespace ColumnFilter

/-- A number as it is written without exponent. -/
structure Numeral where
  negative : Bool
  /-- The digits in front of the point. -/
  whole : List (Fin 10)
  /-- The digits behind the point; there is no point without any. -/
  fraction : List (Fin 10)
  present : whole ≠ [] ∨ fraction ≠ []

namespace Numeral

def digitChar (digit : Fin 10) : Char := Nat.digitChar digit

theorem digitChar_injective : Function.Injective digitChar := by decide

theorem digitChar_ne_point (digit : Fin 10) : digitChar digit ≠ '.' := by
  revert digit
  decide

theorem digitChar_ne_minus (digit : Fin 10) : digitChar digit ≠ '-' := by
  revert digit
  decide

theorem digitChar_visible (digit : Fin 10) : Text.isSpace (digitChar digit) = false := by
  revert digit
  decide +kernel

theorem exists_digitChar_iff {c : Char} : (∃ digit, digitChar digit = c) ↔ '0' ≤ c ∧ c ≤ '9' := by
  constructor
  · rintro ⟨digit, rfl⟩
    revert digit
    decide
  · rintro ⟨low, high⟩
    have above : 48 ≤ c.toNat := low
    have below : c.toNat ≤ 57 := high
    have spelled : ∀ digit : Fin 10, digitChar digit = Char.ofNat (48 + digit) := by decide
    refine ⟨⟨c.toNat - 48, by omega⟩, ?_⟩
    rw [spelled, Nat.add_sub_cancel' above, Char.ofNat_toNat]

theorem exists_map_digitChar_iff {letters : List Char} :
    (∃ digits : List (Fin 10), digits.map digitChar = letters) ↔
      ∀ c ∈ letters, '0' ≤ c ∧ c ≤ '9' := by
  have found : letters ∈ Set.range (List.map digitChar) ↔
      ∀ c ∈ letters, c ∈ Set.range digitChar := by
    rw [Set.range_list_map]
    rfl
  simpa [exists_digitChar_iff] using found

def sign (numeral : Numeral) : List Char := if numeral.negative then ['-'] else []

def tail (numeral : Numeral) : List Char :=
  if numeral.fraction = [] then [] else '.' :: numeral.fraction.map digitChar

def text (numeral : Numeral) : List Char :=
  numeral.sign ++ numeral.whole.map digitChar ++ numeral.tail

/-- The text is the numeral with white space around it. -/
def Spells (numeral : Numeral) (text : String) : Prop :=
  ∃ before after, text.toList = before ++ numeral.text ++ after ∧
    (∀ c ∈ before, Text.isSpace c = true) ∧ ∀ c ∈ after, Text.isSpace c = true

theorem mem_text {numeral : Numeral} {c : Char} (member : c ∈ numeral.text) :
    c = '-' ∨ c = '.' ∨ ∃ digit, digitChar digit = c := by
  have cases : c ∈ numeral.sign ∨ c ∈ numeral.whole.map digitChar ∨ c ∈ numeral.tail := by
    simpa [text, or_assoc] using member
  rcases cases with inside | inside | inside
  · unfold sign at inside
    split at inside
    · exact .inl (List.mem_singleton.mp inside)
    · simp at inside
  · obtain ⟨digit, -, rfl⟩ := List.mem_map.mp inside
    exact .inr (.inr ⟨digit, rfl⟩)
  · unfold tail at inside
    split at inside
    · simp at inside
    · rcases List.mem_cons.mp inside with rfl | later
      · exact .inr (.inl rfl)
      · obtain ⟨digit, -, rfl⟩ := List.mem_map.mp later
        exact .inr (.inr ⟨digit, rfl⟩)

theorem text_visible (numeral : Numeral) : ∀ c ∈ numeral.text, Text.isSpace c = false := by
  intro c member
  rcases mem_text member with rfl | rfl | ⟨digit, rfl⟩
  · decide +kernel
  · decide +kernel
  · exact digitChar_visible digit

theorem text_ne_nil (numeral : Numeral) : numeral.text ≠ [] := by
  intro vacant
  rcases numeral.present with present | present
  · simp [text, present] at vacant
  · simp [text, tail, present] at vacant

/-- A numeral is a sign, digits and a point, all of which may be missing, and digits. -/
theorem exists_text_iff {letters : List Char} :
    (∃ numeral : Numeral, numeral.text = letters) ↔
      ∃ minus point, ∃ front back : List (Fin 10),
        letters = minus ++ front.map digitChar ++ point ++ back.map digitChar ∧
          (minus = [] ∨ minus = ['-']) ∧ (point = [] ∨ point = ['.']) ∧ back ≠ [] := by
  constructor
  · rintro ⟨numeral, rfl⟩
    have signed : numeral.sign = [] ∨ numeral.sign = ['-'] := by
      unfold sign
      split <;> simp
    by_cases pointless : numeral.fraction = []
    · exact ⟨numeral.sign, [], [], numeral.whole, by simp [text, tail, pointless], signed, .inl rfl,
        by simpa [pointless] using numeral.present⟩
    · exact ⟨numeral.sign, ['.'], numeral.whole, numeral.fraction, by simp [text, tail, pointless],
        signed, .inr rfl, pointless⟩
  · rintro ⟨minus, point, front, back, rfl, signed, pointed, present⟩
    have negative : ∃ negative : Bool, minus = if negative then ['-'] else [] := by
      rcases signed with rfl | rfl
      · exact ⟨false, rfl⟩
      · exact ⟨true, rfl⟩
    obtain ⟨negative, rfl⟩ := negative
    -- Without a point, both stretches of digits stand in front of it.
    rcases pointed with rfl | rfl
    · exact ⟨⟨negative, front ++ back, [], by simp [present]⟩, by simp [text, sign, tail]⟩
    · exact ⟨⟨negative, front, back, .inr present⟩, by simp [text, sign, tail, present]⟩

theorem not_point_of_mem {numeral : Numeral} :
    ∀ c ∈ numeral.sign ++ numeral.whole.map digitChar, (c != '.') = true := by
  intro c member
  rcases List.mem_append.mp member with inside | inside
  · unfold sign at inside
    split at inside
    · obtain rfl := List.mem_singleton.mp inside
      rfl
    · simp at inside
  · obtain ⟨digit, -, rfl⟩ := List.mem_map.mp inside
    simpa using digitChar_ne_point digit

theorem takeWhile_text (numeral : Numeral) :
    numeral.text.takeWhile (· != '.') = numeral.sign ++ numeral.whole.map digitChar := by
  rw [text, List.takeWhile_append_of_pos not_point_of_mem]
  unfold tail
  split <;> simp

theorem drop_dropWhile_text (numeral : Numeral) :
    (numeral.text.dropWhile (· != '.')).drop 1 = numeral.fraction.map digitChar := by
  rw [text, List.dropWhile_append_of_pos not_point_of_mem]
  unfold tail
  split <;> simp_all

theorem filter_front (numeral : Numeral) :
    (numeral.sign ++ numeral.whole.map digitChar).filter (· != '-') =
      numeral.whole.map digitChar := by
  have kept : (numeral.whole.map digitChar).filter (· != '-') = numeral.whole.map digitChar := by
    simp [digitChar_ne_minus]
  rw [List.filter_append, kept]
  unfold sign
  split <;> simp

theorem text_injective : Function.Injective text := by
  intro first second same
  have fronts : first.sign ++ first.whole.map digitChar =
      second.sign ++ second.whole.map digitChar := by
    rw [← takeWhile_text, ← takeWhile_text, same]
  have wholes : first.whole.map digitChar = second.whole.map digitChar := by
    rw [← filter_front first, fronts, filter_front]
  have fractions : first.fraction.map digitChar = second.fraction.map digitChar := by
    rw [← drop_dropWhile_text, ← drop_dropWhile_text, same]
  have signs : first.sign = second.sign := by
    rw [wholes] at fronts
    exact List.append_cancel_right fronts
  have negatives : first.negative = second.negative := by
    unfold sign at signs
    cases negative : first.negative <;> cases negative' : second.negative <;>
      simp [negative, negative'] at signs ⊢
  obtain ⟨negative, whole, fraction, present⟩ := first
  obtain ⟨negative', whole', fraction', present'⟩ := second
  obtain rfl : negative = negative' := negatives
  obtain rfl : whole = whole' := digitChar_injective.list_map wholes
  obtain rfl : fraction = fraction' := digitChar_injective.list_map fractions
  rfl

theorem spells_unique {first second : Numeral} {content : String} (spells : first.Spells content)
    (spells' : second.Spells content) : first = second := by
  -- A numeral is what is left without white space.
  have visible : ∀ {numeral : Numeral}, numeral.Spells content →
      content.toList.filter (!Text.isSpace ·) = numeral.text := by
    rintro numeral ⟨before, after, shape, blank, blank'⟩
    have vanish : ∀ {white : List Char}, (∀ c ∈ white, Text.isSpace c = true) →
        white.filter (!Text.isSpace ·) = [] := by
      intro white blank
      rw [List.filter_eq_nil_iff]
      intro c member
      simp [blank c member]
    have stays : numeral.text.filter (!Text.isSpace ·) = numeral.text := by
      rw [List.filter_eq_self]
      intro c member
      simp [numeral.text_visible c member]
    simp [shape, vanish blank, vanish blank', stays]
  exact text_injective ((visible spells).symm.trans (visible spells'))

/-- The number that digits stand for, the most significant one first. -/
def value : List (Fin 10) → Nat
  | [] => 0
  | digit :: rest => digit * 10 ^ rest.length + value rest

theorem value_lt (digits : List (Fin 10)) : value digits < 10 ^ digits.length := by
  induction digits with
  | nil => simp [value]
  | cons digit rest induction =>
      have bound : (digit : Nat) * 10 ^ rest.length ≤ 9 * 10 ^ rest.length :=
        Nat.mul_le_mul_right _ (by omega)
      rw [value, List.length_cons, pow_succ]
      omega

theorem value_append (first second : List (Fin 10)) :
    value (first ++ second) = value first * 10 ^ second.length + value second := by
  induction first with
  | nil => simp [value]
  | cons digit rest induction =>
      rw [List.cons_append, value, value, induction, List.length_append, pow_add]
      ring

/-- With one digit more than there is room for, all depends on whether the first one
is a zero. -/
theorem le_value_iff {digits : List (Fin 10)} {room : Nat} (short : digits.length ≤ room + 1) :
    10 ^ room ≤ value digits ↔ digits.length = room + 1 ∧ digits.head? ≠ some 0 := by
  constructor
  · intro large
    have below := value_lt digits
    have longer : room < digits.length := by
      by_contra short'
      have := Nat.pow_le_pow_right (show 0 < 10 by omega) (Nat.le_of_not_lt short')
      omega
    refine ⟨by omega, ?_⟩
    intro leading
    cases digits with
    | nil => simp at leading
    | cons digit rest =>
        obtain rfl : digit = 0 := by simpa using leading
        have below := value_lt rest
        have length : rest.length = room := by simp at longer short; omega
        rw [length] at below
        simp [value] at large
        omega
  · rintro ⟨length, leading⟩
    cases digits with
    | nil => simp at length
    | cons digit rest =>
        obtain rfl : rest.length = room := by simpa using length
        have nonzero : digit ≠ 0 := by simpa using leading
        have positive : 1 ≤ (digit : Nat) := by
          have := Fin.val_ne_zero_iff.mpr nonzero
          omega
        have bound : 1 * 10 ^ rest.length ≤ (digit : Nat) * 10 ^ rest.length :=
          Nat.mul_le_mul_right _ positive
        rw [value]
        omega

/-- The number rounded to so many decimal places, a half upwards. -/
def roundTo (places : Nat) (number : ℚ) : ℚ := round (number * 10 ^ places) / 10 ^ places

theorem roundTo_natCast_add (places whole : Nat) (number : ℚ) :
    roundTo places (whole + number) = whole + roundTo places number := by
  have scaled : ((whole : ℚ) + number) * 10 ^ places =
      ((whole * 10 ^ places : Nat) : ℚ) + number * 10 ^ places := by
    push_cast
    ring
  rw [roundTo, roundTo, scaled, round_natCast_add]
  push_cast
  field_simp

theorem roundTo_le_one {places : Nat} {number : ℚ} (small : number ≤ 1) :
    roundTo places number ≤ 1 := by
  have positive : (0 : ℚ) < 10 ^ places := by positivity
  have scaled : number * 10 ^ places ≤ 10 ^ places := by nlinarith
  have rounded : round (number * 10 ^ places) ≤ 10 ^ places := by
    rw [round_eq]
    have : ⌊number * 10 ^ places + 1 / 2⌋ < 10 ^ places + 1 := by
      rw [Int.floor_lt]
      push_cast
      linarith
    omega
  rw [roundTo, div_le_one positive]
  exact_mod_cast rounded

theorem roundTo_nonneg {places : Nat} {number : ℚ} (nonneg : 0 ≤ number) :
    0 ≤ roundTo places number := by
  have rounded : 0 ≤ round (number * 10 ^ places) := by
    rw [round_eq, Int.floor_nonneg]
    positivity
  rw [roundTo]
  have : (0 : ℚ) ≤ round (number * 10 ^ places) := by exact_mod_cast rounded
  positivity

def fractional (numeral : Numeral) : ℚ := value numeral.fraction / 10 ^ numeral.fraction.length

/-- The number without its sign. -/
def magnitude (numeral : Numeral) : ℚ := value numeral.whole + numeral.fractional

/-- The number that a numeral stands for. -/
def toRat (numeral : Numeral) : ℚ :=
  if numeral.negative then -numeral.magnitude else numeral.magnitude

theorem fractional_nonneg (numeral : Numeral) : 0 ≤ numeral.fractional := by
  unfold fractional
  positivity

theorem fractional_le_one (numeral : Numeral) : numeral.fractional ≤ 1 := by
  have below : (value numeral.fraction : ℚ) < 10 ^ numeral.fraction.length := by
    exact_mod_cast value_lt numeral.fraction
  rw [fractional, div_le_one (by positivity)]
  exact below.le

/-- The digits in front of the point are too many by themselves. -/
def Exceeds (numeral : Numeral) (room : Nat) : Prop :=
  numeral.negative = false ∧ numeral.whole.length = room + 1 ∧ numeral.whole.head? ≠ some 0

/-- Rounding makes a digit too many: all there is room for are nines. -/
def Carries (numeral : Numeral) (room places : Nat) : Prop :=
  value numeral.whole + 1 = 10 ^ room ∧ roundTo places numeral.fractional = 1

theorem le_roundTo_iff (numeral : Numeral) (room places : Nat) :
    10 ^ room ≤ roundTo places numeral.magnitude ↔
      10 ^ room ≤ value numeral.whole ∨ numeral.Carries room places := by
  have upper : roundTo places numeral.fractional ≤ 1 := roundTo_le_one numeral.fractional_le_one
  have lower : 0 ≤ roundTo places numeral.fractional := roundTo_nonneg numeral.fractional_nonneg
  rw [magnitude, roundTo_natCast_add, Carries]
  constructor
  · intro large
    by_cases whole : 10 ^ room ≤ value numeral.whole
    · exact .inl whole
    · have small : value numeral.whole + 1 ≤ 10 ^ room := by omega
      have small' : (value numeral.whole : ℚ) + 1 ≤ 10 ^ room := by exact_mod_cast small
      have nines : (value numeral.whole : ℚ) + 1 = 10 ^ room := by linarith
      exact .inr ⟨by exact_mod_cast nines, by linarith⟩
  · rintro (whole | ⟨nines, up⟩)
    · have whole' : (10 : ℚ) ^ room ≤ value numeral.whole := by exact_mod_cast whole
      linarith
    · have nines' : (value numeral.whole : ℚ) + 1 = 10 ^ room := by exact_mod_cast nines
      linarith

/-- A numeral that is one character too long at most overflows by its digits or by
rounding. -/
theorem overflows_iff {numeral : Numeral} {room : Nat} (places : Nat)
    (short : numeral.negative.toNat + numeral.whole.length ≤ room + 1) :
    10 ^ room ≤ roundTo places numeral.magnitude ↔
      numeral.Exceeds room ∨ numeral.Carries room places := by
  rw [le_roundTo_iff, le_value_iff (by omega), Exceeds]
  cases sign : numeral.negative with
  | false => simp
  | true =>
      rw [sign] at short
      have shorter : numeral.whole.length ≠ room + 1 := by
        simp at short
        omega
      simp [shorter]

end Numeral

end ColumnFilter
