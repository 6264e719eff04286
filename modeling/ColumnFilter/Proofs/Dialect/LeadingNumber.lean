import Mathlib.Data.List.Infix
import Mathlib.Data.List.TakeWhile
import ColumnFilter.Proofs.Dialect.Numeral

/-!
# The number at the front of a text

MySQL converts a text to a number by as much of its front as can be read as one, with an
exponent if there is one.  A text of which nothing can be read counts as zero.
-/

namespace ColumnFilter

namespace Numeral

def digit? (c : Char) : Option (Fin 10) :=
  (List.finRange 10).find? fun digit => digitChar digit == c

def digits? (letters : List Char) : Option (List (Fin 10)) := letters.mapM digit?

/-- Digits with at most one point, which may also stand in front of them or behind. -/
def unsigned? (letters : List Char) : Option ℚ := do
  let whole ← digits? (letters.takeWhile (· != '.'))
  let fraction ← digits? ((letters.dropWhile (· != '.')).drop 1)
  if whole = [] ∧ fraction = [] then none
  else some (value whole + value fraction / 10 ^ fraction.length)

def signed? {α : Type} [Neg α] (read : List Char → Option α) : List Char → Option α
  | '-' :: letters => (read letters).map (- ·)
  | '+' :: letters => read letters
  | letters => read letters

def exponent? (letters : List Char) : Option Int := do
  let digits ← digits? letters
  if digits = [] then none else some (value digits)

/-- A number as it may be written, all of the letters. -/
def number? (letters : List Char) : Option ℚ :=
  let plain (c : Char) : Bool := c != 'e' && c != 'E'
  match letters.dropWhile plain with
  | [] => signed? unsigned? letters
  | _ :: scale => do
      let number ← signed? unsigned? (letters.takeWhile plain)
      let exponent ← signed? exponent? scale
      some (number * 10 ^ exponent)

def isBlank (c : Char) : Bool := c == ' ' || ('\t' ≤ c && c ≤ '\r')

/-- The longest number that a text starts with behind white space, or else zero. -/
def leading (letters : List Char) : ℚ :=
  (((letters.dropWhile isBlank).inits.filterMap number?).getLast?).getD 0

theorem digits?_map_digitChar (digits : List (Fin 10)) :
    digits? (digits.map digitChar) = some digits := by
  have read : ∀ digit, digit? (digitChar digit) = some digit := by decide
  induction digits with
  | nil => rfl
  | cons digit digits induction =>
      rw [digits?] at induction ⊢
      simp [List.mapM_cons, read, induction]

theorem unsigned?_text {numeral : Numeral} (positive : numeral.negative = false) :
    unsigned? numeral.text = some numeral.magnitude := by
  have unmarked : numeral.sign = [] := by simp [sign, positive]
  have present : ¬ (numeral.whole = [] ∧ numeral.fraction = []) := by
    rintro ⟨whole, fraction⟩
    exact numeral.present.elim (absurd whole) (absurd fraction)
  rw [unsigned?, takeWhile_text, drop_dropWhile_text, unmarked, List.nil_append,
    digits?_map_digitChar, digits?_map_digitChar]
  simp [present, magnitude, fractional]

theorem head?_text {numeral : Numeral} (positive : numeral.negative = false) :
    numeral.text.head? ≠ some '-' ∧ numeral.text.head? ≠ some '+' := by
  have digit : ∀ digit, digitChar digit ≠ '-' ∧ digitChar digit ≠ '+' := by decide
  obtain ⟨negative, whole, fraction, present⟩ := numeral
  obtain rfl : negative = false := positive
  cases whole with
  | cons first whole => simpa [text, sign] using digit first
  | nil =>
      have fraction' : fraction ≠ [] := by simpa using present
      simp [text, sign, tail, fraction']

theorem signed?_text (numeral : Numeral) :
    signed? unsigned? numeral.text = some numeral.toRat := by
  obtain ⟨negative, whole, fraction, present⟩ := numeral
  have positive : (⟨false, whole, fraction, present⟩ : Numeral).negative = false := rfl
  have read := unsigned?_text positive
  cases negative with
  | false =>
      obtain ⟨minus, plus⟩ := head?_text positive
      generalize text ⟨false, whole, fraction, present⟩ = letters at minus plus read ⊢
      fun_cases signed? unsigned? letters with
      | case1 letters => simp at minus
      | case2 letters => simp at plus
      | case3 => exact read
  | true =>
      have shape : (⟨true, whole, fraction, present⟩ : Numeral).text =
          '-' :: (⟨false, whole, fraction, present⟩ : Numeral).text := rfl
      rw [shape, signed?, read]
      rfl

theorem number?_text (numeral : Numeral) : number? numeral.text = some numeral.toRat := by
  have digit : ∀ digit, digitChar digit ≠ 'e' ∧ digitChar digit ≠ 'E' := by decide
  have plain : numeral.text.dropWhile (fun c => c != 'e' && c != 'E') = [] := by
    rw [List.dropWhile_eq_nil_iff]
    intro c member
    rcases mem_text member with rfl | rfl | ⟨digit', rfl⟩
    · rfl
    · rfl
    · simp [digit digit']
  rw [number?, plain]
  exact signed?_text numeral

theorem exists_inits_eq {α : Type} (items : List α) :
    ∃ shorter, items.inits = shorter ++ [items] := by
  induction items with
  | nil => exact ⟨[], rfl⟩
  | cons item items induction =>
      obtain ⟨shorter, split⟩ := induction
      exact ⟨[] :: shorter.map (item :: ·), by simp [split]⟩

/-- What can be read as a number is the number that it starts with. -/
theorem leading_of_number? {letters : List Char} {number : ℚ}
    (visible : ∀ c ∈ letters, isBlank c = false) (read : number? letters = some number) :
    leading letters = number := by
  have shown : letters.dropWhile isBlank = letters := by
    cases letters with
    | nil => rfl
    | cons c letters => simp [visible c List.mem_cons_self]
  obtain ⟨shorter, split⟩ := exists_inits_eq letters
  rw [leading, shown, split, List.filterMap_append]
  simp [read]

theorem leading_text (numeral : Numeral) : leading numeral.text = numeral.toRat := by
  have digit : ∀ digit, isBlank (digitChar digit) = false := by decide
  refine leading_of_number? ?_ numeral.number?_text
  intro c member
  rcases mem_text member with rfl | rfl | ⟨digit', rfl⟩
  · rfl
  · rfl
  · exact digit digit'

example : leading " 12abc".toList = 12 := by decide +kernel

end Numeral

end ColumnFilter
