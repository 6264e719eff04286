import ColumnFilter.Dialect
import ColumnFilter.Proofs.Dialect.Numeral
import ColumnFilter.Proofs.Regex.Matching
import ColumnFilter.Proofs.Result
import ColumnFilter.Regex.Pattern

/-!
# Patterns for numerals

The patterns in front of conversions find the numerals: MySQL's finds them alone, and
PostgreSQL's also with white space around them.
-/

namespace ColumnFilter

/-- What both patterns have in common: a sign, digits, a point and digits, of which only the
last have to be there, in front of something else. -/
def Regex.numeralThen (rest : Regex) : Regex :=
  .seq (.times 0 (some 1) true (.set (.oneOf ['-'])))
    (.seq (.star (.set (.range '0' '9')))
      (.seq (.times 0 (some 1) true (.set (.oneOf ['.'])))
        (.seq (.times 1 none true (.set (.range '0' '9'))) rest)))

namespace Dialect

theorem exists_digits_iff {letters : List Char} :
    (∃ digits : List (Fin 10), digits.map Numeral.digitChar = letters) ↔
      ∀ c ∈ letters, (CharSet.range '0' '9').contains c = true := by
  simp [Numeral.exists_map_digitChar_iff, CharSet.contains]

theorem matches_numeralThen {rest : Regex} {before matched after : List Char} :
    rest.numeralThen.Matches before matched after ↔
      ∃ numeral : Numeral, ∃ behind, matched = numeral.text ++ behind ∧
        rest.Matches (before ++ numeral.text) behind after := by
  have one : ∀ {stretch : List Char} {mark : Char},
      (∃ c, stretch = [c] ∧ (CharSet.oneOf [mark]).contains c = true) ↔ stretch = [mark] := by
    simp [CharSet.contains]
  simp only [Regex.numeralThen, Regex.star, Regex.matches_seq, Regex.matches_star_set,
    Regex.matches_optional, Regex.matches_plus_set, Regex.matches_set, one,
    ← exists_digits_iff]
  constructor
  · rintro ⟨minus, _, rfl, signed, _, _, rfl, ⟨digits, rfl⟩, point, _, rfl, pointed, _, behind, rfl,
      ⟨present, digits', rfl⟩, later⟩
    obtain ⟨numeral, spelled⟩ := Numeral.exists_text_iff.mpr
      ⟨minus, point, digits, digits', rfl, signed, pointed, by simpa using present⟩
    exact ⟨numeral, behind, by simp [spelled], by simpa [spelled] using later⟩
  · rintro ⟨numeral, behind, rfl, later⟩
    obtain ⟨minus, point, digits, digits', spelled, signed, pointed, present⟩ :=
      Numeral.exists_text_iff.mp ⟨numeral, rfl⟩
    rw [spelled] at later
    exact ⟨minus, _, by simp [spelled], signed, _, _, rfl, ⟨digits, rfl⟩, point, _, rfl, pointed, _,
      behind, rfl, ⟨by simpa using present, digits', rfl⟩, by simpa using later⟩

theorem ofText?_postgresNumeral :
    Pattern.ofText? postgresNumeral.toList =
      .ok ⟨.seq (.anchor .textStart) (.seq (.star (.set .space))
        (.numeralThen (.seq (.star (.set .space)) (.anchor .textEnd)))), []⟩ :=
  Except.eq_ok_of_toOption (by decide +kernel)

theorem ofText?_mySqlNumeral :
    Pattern.ofText? mySqlNumeral.toList =
      .ok ⟨.seq (.anchor .textStart) (.numeralThen (.anchor .textEnd)), []⟩ :=
  Except.eq_ok_of_toOption (by decide +kernel)

/-- What the pattern in front of a conversion finds. -/
def FindsNumeral (text : String) : Prop :=
  ∃ pattern, Pattern.ofText? postgresNumeral.toList = .ok pattern ∧
    pattern.regex.Finds text.toList

/-- What is found are the numerals, with white space around them. -/
theorem findsNumeral_iff (text : String) :
    FindsNumeral text ↔ ∃ numeral : Numeral, numeral.Spells text := by
  simp only [FindsNumeral, ofText?_postgresNumeral, Except.ok.injEq, exists_eq_left', Regex.Finds,
    Regex.star, Regex.matches_seq, Regex.matches_anchor, Regex.matches_star_set,
    matches_numeralThen]
  constructor
  · rintro ⟨before, _, after, shape, _, _, rfl, ⟨rfl, atStart⟩, white, _, rfl, blank, numeral, _,
      rfl, white', _, rfl, blank', rfl, atEnd⟩
    obtain rfl : before = [] := by simpa [Anchor.holds] using atStart
    obtain rfl : after = [] := by simpa [Anchor.holds] using atEnd
    exact ⟨numeral, white, white', by simpa using shape, blank, blank'⟩
  · rintro ⟨numeral, white, white', shape, blank, blank'⟩
    exact ⟨[], _, [], by simpa using shape, [], _, rfl, ⟨rfl, rfl⟩, white, numeral.text ++ white',
      by simp, blank, numeral, white', rfl, white', [], by simp, blank', rfl, rfl⟩

/-- What MySQL's pattern in front of a conversion finds. -/
def FindsBareNumeral (text : String) : Prop :=
  ∃ pattern, Pattern.ofText? mySqlNumeral.toList = .ok pattern ∧
    pattern.regex.Finds text.toList

/-- What is found are the numerals, with nothing around them. -/
theorem findsBareNumeral_iff (text : String) :
    FindsBareNumeral text ↔ ∃ numeral : Numeral, numeral.text = text.toList := by
  simp only [FindsBareNumeral, ofText?_mySqlNumeral, Except.ok.injEq, exists_eq_left', Regex.Finds,
    Regex.matches_seq, Regex.matches_anchor, matches_numeralThen]
  constructor
  · rintro ⟨before, _, after, shape, _, _, rfl, ⟨rfl, atStart⟩, numeral, _, rfl, rfl, atEnd⟩
    obtain rfl : before = [] := by simpa [Anchor.holds] using atStart
    obtain rfl : after = [] := by simpa [Anchor.holds] using atEnd
    exact ⟨numeral, by simpa using shape.symm⟩
  · rintro ⟨numeral, spelled⟩
    exact ⟨[], _, [], by simpa using spelled.symm, [], _, rfl, ⟨rfl, rfl⟩, numeral, [], by simp,
      rfl, rfl⟩

end Dialect

end ColumnFilter
