import Mathlib.Data.List.TakeWhile
import ColumnFilter.Value

/-!
# The zero in front of a leading point

A literal that begins with a point is read with a zero in front of it.  With a digit behind
the point, the zero changes nothing.  Without one it does: a point alone is no decimal, but
`0.` is one, and `.+5` is a decimal, but `0.+5` is none.
-/

namespace ColumnFilter

namespace Decimal

/-- The exponent that follows a number, zero if there is none. -/
def exponentOf : List Char → Option Int
  | [] => some 0
  | _ :: rest => readExponent? rest

/-- A number without exponent, put together with what follows it. -/
def complete? (base : Option (Int × Nat)) (tail : List Char) : Option Decimal :=
  match exponentOf tail, base with
  | some exponent, some (digits, places) =>
      let scale := places - exponent
      if -limit64 ≤ scale ∧ scale < limit64 then some ⟨digits, scale⟩ else none
  | _, _ => none

theorem complete?_none (tail : List Char) : complete? none tail = none := by
  unfold complete?
  cases exponentOf tail <;> rfl

/-- What stands in front of an exponent does not matter for it. -/
theorem read?_append {front : List Char} (plain : ∀ c ∈ front, isExponentMark c = false)
    (rest : List Char) :
    read? (front ++ rest) =
      complete? (readBase? (front ++ rest.takeWhile (!isExponentMark ·)))
        (rest.dropWhile (!isExponentMark ·)) := by
  have kept : ∀ c ∈ front, (!isExponentMark c) = true := fun c member => by simp [plain c member]
  rw [read?, List.takeWhile_append_of_pos kept, List.dropWhile_append_of_pos kept]
  cases rest.dropWhile (!isExponentMark ·) <;> rfl

theorem readMagnitude?_zero (rest : List Char) :
    readMagnitude? ('0' :: rest) = readDigits? true 0 rest := rfl

theorem readMagnitude?_of_digit {c : Char} (digit : (digitValue? c).isSome = true)
    (rest : List Char) : readMagnitude? (c :: rest) = readDigits? true 0 (c :: rest) := by
  have plus : c ≠ '+' := by
    rintro rfl
    exact absurd digit (by decide)
  have underscore : c ≠ '_' := by
    rintro rfl
    exact absurd digit (by decide)
  simp [readMagnitude?, plus, underscore]

theorem readDigits?_of_foreign {c : Char} (foreign : digitValue? c = none) (other : c ≠ '_')
    (acc : Nat) (rest : List Char) : readDigits? true acc (c :: rest) = none := by
  simp [readDigits?, foreign, other]

/-- What may stand in front of a leading point. -/
def IsSign (sign : List Char) : Prop := sign = [] ∨ sign = ['-']

section Sign

variable {sign : List Char} (signed : IsSign sign)

include signed

theorem readBase?_point (rest : List Char) :
    readBase? (sign ++ '.' :: rest) =
      (readInteger? (sign ++ rest)).map fun digits =>
        (digits, (rest.filter (· != '_')).length) := by
  rcases signed with rfl | rfl <;>
  · simp [readBase?]
    split <;> simp_all

theorem readBase?_zero_point (rest : List Char) :
    readBase? (sign ++ '0' :: '.' :: rest) =
      (readInteger? (sign ++ '0' :: rest)).map fun digits =>
        (digits, (rest.filter (· != '_')).length) := by
  rcases signed with rfl | rfl <;>
  · simp [readBase?]
    split <;> simp_all

/-- In front of a digit, a zero counts for nothing. -/
theorem readInteger?_zero_of_digit {c : Char} (digit : (digitValue? c).isSome = true)
    (rest : List Char) :
    readInteger? (sign ++ '0' :: c :: rest) = readInteger? (sign ++ c :: rest) := by
  have minus : c ≠ '-' := by
    rintro rfl
    exact absurd digit (by decide)
  have plus : c ≠ '+' := by
    rintro rfl
    exact absurd digit (by decide)
  have same : readMagnitude? ('0' :: c :: rest) = readMagnitude? (c :: rest) := by
    rw [readMagnitude?_zero, readMagnitude?_of_digit digit]
  rcases signed with rfl | rfl
  · simp [readInteger?, minus, same]
  · simp [readInteger?, plus, same]

/-- A number begins with no underscore, and it does not end before its first digit. -/
theorem readInteger?_of_hollow {rest : List Char} (hollow : ∀ c ∈ rest.head?, c = '_') :
    readInteger? (sign ++ rest) = none := by
  cases rest with
  | nil => rcases signed with rfl | rfl <;> rfl
  | cons c rest =>
      obtain rfl : c = '_' := hollow c rfl
      rcases signed with rfl | rfl <;> rfl

theorem readInteger?_zero_of_foreign {c : Char} (foreign : digitValue? c = none)
    (other : c ≠ '_') (rest : List Char) : readInteger? (sign ++ '0' :: c :: rest) = none := by
  have none' : readMagnitude? ('0' :: c :: rest) = none :=
    readDigits?_of_foreign foreign other 0 rest
  rcases signed with rfl | rfl <;> simp [readInteger?, none']

/-- Only a sign that comes first is read. -/
theorem readInteger?_of_foreign {c : Char} (foreign : digitValue? c = none) (other : c ≠ '_')
    (unsigned : sign = [] → c ≠ '+' ∧ c ≠ '-') (rest : List Char) :
    readInteger? (sign ++ c :: rest) = none := by
  have missing : c ≠ '+' → readMagnitude? (c :: rest) = none := by
    intro plus
    simp [readMagnitude?, plus, other, readDigits?_of_foreign foreign other]
  rcases signed with rfl | rfl
  · obtain ⟨plus, minus⟩ := unsigned rfl
    simp [readInteger?, minus, missing plus]
  · by_cases plus : c = '+'
    · subst plus
      rfl
    · simp [readInteger?, plus, missing plus]

theorem read?_point (rest : List Char) :
    read? (sign ++ '.' :: rest) =
      complete? ((readInteger? (sign ++ rest.takeWhile (!isExponentMark ·))).map fun digits =>
          (digits, ((rest.takeWhile (!isExponentMark ·)).filter (· != '_')).length))
        (rest.dropWhile (!isExponentMark ·)) := by
  have plain : ∀ c ∈ sign ++ ['.'], isExponentMark c = false := by
    rcases signed with rfl | rfl <;> simp [isExponentMark]
  have split := read?_append plain rest
  rw [List.append_assoc, List.append_assoc, List.singleton_append, List.singleton_append,
    readBase?_point signed] at split
  exact split

theorem read?_zero_point (rest : List Char) :
    read? (sign ++ '0' :: '.' :: rest) =
      complete? ((readInteger? (sign ++ '0' :: rest.takeWhile (!isExponentMark ·))).map
          fun digits => (digits, ((rest.takeWhile (!isExponentMark ·)).filter (· != '_')).length))
        (rest.dropWhile (!isExponentMark ·)) := by
  have plain : ∀ c ∈ sign ++ ['0', '.'], isExponentMark c = false := by
    rcases signed with rfl | rfl <;> simp [isExponentMark]
  have split := read?_append plain rest
  rw [List.append_assoc, List.append_assoc] at split
  exact split.trans (by rw [List.cons_append, List.singleton_append, readBase?_zero_point signed])

/-- With a digit behind the point, the zero changes nothing. -/
theorem read?_zero_point_of_digit {c : Char} (digit : (digitValue? c).isSome = true)
    (rest : List Char) :
    read? (sign ++ '0' :: '.' :: c :: rest) = read? (sign ++ '.' :: c :: rest) := by
  have plain : isExponentMark c = false := by
    rw [isExponentMark, Bool.or_eq_false_iff, beq_eq_false_iff_ne, beq_eq_false_iff_ne]
    constructor <;>
    · rintro rfl
      exact absurd digit (by decide)
  rw [read?_point signed, read?_zero_point signed, List.takeWhile_cons_of_pos (by simp [plain]),
    readInteger?_zero_of_digit signed digit]

/-- Nothing behind the point that counts: the text ends there, or an exponent or an underscore
follows. -/
def Hollow (rest : List Char) : Prop := ∀ c ∈ rest.head?, isExponentMark c = true ∨ c = '_'

theorem read?_point_of_hollow {rest : List Char} (hollow : Hollow rest) :
    read? (sign ++ '.' :: rest) = none := by
  have front : ∀ c ∈ (rest.takeWhile (!isExponentMark ·)).head?, c = '_' := by
    cases rest with
    | nil => simp
    | cons c rest =>
        rcases hollow c rfl with mark | rfl
        · simp [mark]
        · simp [isExponentMark]
  rw [read?_point signed, readInteger?_of_hollow signed front, Option.map_none, complete?_none]

section Foreign

variable {c : Char} (foreign : digitValue? c = none) (solid : ¬Hollow [c])

include foreign solid

theorem read?_zero_point_of_foreign (rest : List Char) :
    read? (sign ++ '0' :: '.' :: c :: rest) = none := by
  obtain ⟨plain, other⟩ : isExponentMark c = false ∧ c ≠ '_' := by simpa [Hollow] using solid
  rw [read?_zero_point signed, List.takeWhile_cons_of_pos (by simp [plain]),
    readInteger?_zero_of_foreign signed foreign other, Option.map_none, complete?_none]

theorem read?_point_of_foreign (unsigned : sign = [] → c ≠ '+' ∧ c ≠ '-') (rest : List Char) :
    read? (sign ++ '.' :: c :: rest) = none := by
  obtain ⟨plain, other⟩ : isExponentMark c = false ∧ c ≠ '_' := by simpa [Hollow] using solid
  rw [read?_point signed, List.takeWhile_cons_of_pos (by simp [plain]),
    readInteger?_of_foreign signed foreign other unsigned, Option.map_none, complete?_none]

end Foreign

end Sign

/-- The zero makes a decimal of the text. -/
def Gains (text : List Char) : Prop :=
  ∃ sign rest, IsSign sign ∧ text = sign ++ '.' :: rest ∧ Hollow rest ∧
    (read? (sign ++ '0' :: '.' :: rest)).isSome = true

/-- The text is a decimal without the zero, with a sign behind the point. -/
def Loses (text : List Char) : Prop :=
  ∃ sign rest, (sign = '+' ∨ sign = '-') ∧ text = '.' :: sign :: rest ∧
    (read? text).isSome = true

end Decimal

namespace Value

open Decimal

theorem withLeadingZero_point {sign : List Char} (signed : IsSign sign) (rest : List Char) :
    withLeadingZero (sign ++ '.' :: rest) = sign ++ '0' :: '.' :: rest := by
  rcases signed with rfl | rfl <;> rfl

/-- The zero is put in front of a leading point only. -/
theorem exists_of_withLeadingZero_ne {text : List Char} (changed : withLeadingZero text ≠ text) :
    ∃ sign rest, IsSign sign ∧ text = sign ++ '.' :: rest := by
  revert changed
  fun_cases withLeadingZero text with
  | case1 rest => exact fun _ => ⟨['-'], rest, .inr rfl, rfl⟩
  | case2 rest => exact fun _ => ⟨[], rest, .inl rfl, rfl⟩
  | case3 => exact fun changed => absurd rfl changed

theorem of_gains {text : List Char} (gains : Gains text) :
    read? text = none ∧ (read? (withLeadingZero text)).isSome = true := by
  obtain ⟨sign, rest, signed, rfl, hollow, read⟩ := gains
  rw [withLeadingZero_point signed]
  exact ⟨read?_point_of_hollow signed hollow, read⟩

theorem of_loses {text : List Char} (loses : Loses text) :
    (read? text).isSome = true ∧ read? (withLeadingZero text) = none := by
  obtain ⟨c, rest, signs, rfl, read⟩ := loses
  refine ⟨read, ?_⟩
  have signed : IsSign [] := .inl rfl
  have foreign : digitValue? c = none ∧ ¬Hollow [c] := by
    rcases signs with rfl | rfl <;> simp [Hollow, isExponentMark, digitValue?]
  have zero := read?_zero_point_of_foreign signed foreign.1 foreign.2 rest
  rwa [List.nil_append] at zero

/-- In all other cases the zero does not matter. -/
theorem read?_withLeadingZero_of_not {text : List Char} (gainless : ¬Gains text)
    (lossless : ¬Loses text) : read? (withLeadingZero text) = read? text := by
  by_cases changed : withLeadingZero text = text
  · rw [changed]
  obtain ⟨sign, rest, signed, rfl⟩ := exists_of_withLeadingZero_ne changed
  rw [withLeadingZero_point signed]
  by_cases hollow : Hollow rest
  · have zero : read? (sign ++ '0' :: '.' :: rest) = none := by
      rw [← Option.not_isSome_iff_eq_none]
      exact fun read => gainless ⟨sign, rest, signed, rfl, hollow, read⟩
    rw [zero, read?_point_of_hollow signed hollow]
  · cases rest with
    | nil => exact absurd (by simp [Hollow]) hollow
    | cons c rest =>
        cases digit : digitValue? c with
        | some n => exact read?_zero_point_of_digit signed (by simp [digit]) rest
        | none =>
            rw [read?_zero_point_of_foreign signed digit hollow, eq_comm]
            by_cases unsigned : sign = [] → c ≠ '+' ∧ c ≠ '-'
            · exact read?_point_of_foreign signed digit hollow unsigned rest
            · obtain ⟨rfl, signs⟩ := Classical.not_imp.mp unsigned
              have mark : c = '+' ∨ c = '-' := Decidable.or_iff_not_imp_left.mpr fun plus =>
                Decidable.not_not.mp fun minus => signs ⟨plus, minus⟩
              rw [← Option.not_isSome_iff_eq_none]
              exact fun read => lossless ⟨c, rest, mark, rfl, read⟩

/-- The value of a literal that is read as it was typed. -/
def asTyped (literal : String) : Value :=
  match Decimal.read? (Text.trim literal.toList) with
  | some number => .decimal number
  | none => .string (Text.trimmed literal)

theorem ofNumberLiteral_eq (literal : String) :
    ofNumberLiteral literal =
      match Decimal.read? (withLeadingZero (Text.trim literal.toList)) with
      | some number => .decimal number
      | none => .string (Text.trimmed literal) := rfl

/-- A literal is bound as what it is read as, apart from two kinds of literals.  Where no digit
follows a leading point, a text that is no decimal may be bound as one, and where a sign
follows it, a decimal is bound as a text. -/
theorem ofNumberLiteral_eq_asTyped_iff (literal : String) :
    let text := Text.trim literal.toList
    (ofNumberLiteral literal = asTyped literal ↔ ¬(Gains text ∨ Loses text)) ∧
    (Gains text ↔ asTyped literal = .string (Text.trimmed literal) ∧
      ∃ number, ofNumberLiteral literal = .decimal number) ∧
    (Loses text ↔ ofNumberLiteral literal = .string (Text.trimmed literal) ∧
      ∃ number, asTyped literal = .decimal number) := by
  intro text
  rw [ofNumberLiteral_eq, asTyped]
  by_cases gains : Gains text
  · obtain ⟨missing, read⟩ := of_gains gains
    obtain ⟨number, found⟩ := Option.isSome_iff_exists.mp read
    have lossless : ¬Loses text := fun loses => by simpa [missing] using (of_loses loses).1
    simp [text, missing, found, gains, lossless]
  · by_cases loses : Loses text
    · obtain ⟨read, missing⟩ := of_loses loses
      obtain ⟨number, found⟩ := Option.isSome_iff_exists.mp read
      simp [text, missing, found, gains, loses]
    · rw [read?_withLeadingZero_of_not gains loses]
      cases read? text <;> simp [gains, loses]

/-- A point alone is no decimal, but it is bound as zero. -/
theorem ofNumberLiteral_point :
    Decimal.read? (Text.trim ".".toList) = none ∧ asTyped "." = .string "." ∧
      ofNumberLiteral "." = .decimal ⟨0, 0⟩ ∧
      ¬∀ literal, (∃ number, ofNumberLiteral literal = .decimal number) ↔
        (Decimal.read? (Text.trim literal.toList)).isSome = true := by
  have missing : Decimal.read? (Text.trim ".".toList) = none := by decide +kernel
  have bound : ofNumberLiteral "." = .decimal ⟨0, 0⟩ := by decide +kernel
  refine ⟨missing, by decide +kernel, bound, fun agree => ?_⟩
  have read := (agree ".").mp ⟨_, bound⟩
  rw [missing] at read
  exact Bool.false_ne_true read

end Value

end ColumnFilter
