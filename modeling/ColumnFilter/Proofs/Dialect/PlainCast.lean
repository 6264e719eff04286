import ColumnFilter.Proofs.Dialect.LeadingNumber
import ColumnFilter.Proofs.Dialect.NumeralPattern
import ColumnFilter.Proofs.Sql.Semantics

/-!
# Conversion without a guard

In MySQL a text that is no number is to count as zero when the fallback is zero, and then
the conversion is not guarded by a pattern, since it cannot fail.  It makes a number
of every text that starts with one, though.  So it agrees with the guarded form on
numerals, and on the texts whose leading number becomes zero, and on no others.
-/

namespace ColumnFilter

namespace Dialect

/-- The conversion behind a pattern, as MySQL does it for most fallbacks. -/
def mySqlGuarded (operand : Expr) (digits places : UInt32) (fallback : Option Int) : Expr :=
  .choose (.compare operand .regexp (.text mySqlNumeral))
    (.cast operand (numericType "DECIMAL" digits places)) (.fallback fallback)

theorem toDecimal_mySql_zero (operand : Expr) (digits places : UInt32) :
    mySql.toDecimal operand digits places (some 0) =
      .cast operand (numericType "DECIMAL" digits places) := rfl

theorem toDecimal_mySql {fallback : Option Int} (other : fallback ≠ some 0) (operand : Expr)
    (digits places : UInt32) :
    mySql.toDecimal operand digits places fallback =
      mySqlGuarded operand digits places fallback :=
  if_neg other

end Dialect

namespace Numeral

/-- The number with so many digits, some of them behind the point, that is closest.  A half
is rounded away from zero, and what is too large becomes the largest number there is. -/
def fit (digits places : Nat) (number : ℚ) : ℚ :=
  let largest : ℚ := (10 ^ digits - 1) / 10 ^ places
  let size := min (roundTo places |number|) largest
  if number < 0 then -size else size

theorem fit_zero (digits places : Nat) : fit digits places 0 = 0 := by
  have positive : (1 : ℚ) ≤ 10 ^ digits := one_le_pow₀ (by norm_num)
  have room : (0 : ℚ) ≤ (10 ^ digits - 1) / 10 ^ places :=
    div_nonneg (sub_nonneg.mpr positive) (by positivity)
  simp [fit, roundTo, room]

end Numeral

namespace Semantics

/-- What is relied on of MySQL.  The conversion of a text never fails; it is of the number
that the text starts with, which `fit` turns into one of the type. -/
structure MySql (engine : Semantics) (digits places : UInt32) (fit : ℚ → ℚ) : Prop where
  regexp : ∀ text, engine.compare .regexp (.text text) (.text Dialect.mySqlNumeral) =
    .ofProp (Dialect.FindsBareNumeral text)
  decimal : ∀ text, engine.cast (Dialect.numericType "DECIMAL" digits places) (.text text) =
    some (.number (fit (Numeral.leading text.toList)))
  zero : fit 0 = 0

/-- The operator and the conversion that the dialect makes use of; whatever else there is
comes to nothing. -/
noncomputable def mySql (digits places : UInt32) : Semantics where
  call _ _ := .null
  cast
    | _, .text text =>
        some (.number (Numeral.fit digits.toNat places.toNat (Numeral.leading text.toList)))
    | _, other => some other
  compare
    | .regexp, .text text, .text pattern =>
        .ofProp (∃ found, Pattern.ofText? pattern.toList = .ok found ∧
          found.regex.Finds text.toList)
    | _, _, _ => .unknown

theorem lawful_mySql (digits places : UInt32) :
    (mySql digits places).MySql digits places (Numeral.fit digits.toNat places.toNat) where
  regexp _ := rfl
  decimal _ := rfl
  zero := Numeral.fit_zero _ _

namespace MySql

variable {engine : Semantics} {digits places : UInt32} {fit : ℚ → ℚ}
  {columns : String → Datum} {params : Params} {operand : Expr} {text : String}

theorem worth_plain (mySql : engine.MySql digits places fit)
    (stored : engine.worth columns params operand = .text text) :
    engine.worth columns params (Dialect.mySql.toDecimal operand digits places (some 0)) =
      .number (fit (Numeral.leading text.toList)) := by
  rw [Dialect.toDecimal_mySql_zero, worth, stored, mySql.decimal, Option.getD_some]

open Classical in
theorem worth_guarded (mySql : engine.MySql digits places fit)
    (stored : engine.worth columns params operand = .text text) (fallback : Option Int) :
    engine.worth columns params (Dialect.mySqlGuarded operand digits places fallback) =
      if ∃ numeral : Numeral, numeral.text = text.toList then
        .number (fit (Numeral.leading text.toList))
      else engine.worth columns params (.fallback fallback) := by
  have guard : engine.judge columns params (.compare operand .regexp (.text Dialect.mySqlNumeral)) =
      .ofProp (∃ numeral : Numeral, numeral.text = text.toList) := by
    rw [judge, stored, Expr.text, worth, Datum.ofLiteral_quote, mySql.regexp,
      Dialect.findsBareNumeral_iff]
  rw [Dialect.mySqlGuarded, worth, guard, worth, stored, mySql.decimal, Option.getD_some]
  simp only [Truth.ofProp_eq_yes_iff]

/-- Without the guard the result is the same if the text is a numeral, or if the number it
starts with becomes zero. -/
theorem worth_plain_eq_guarded_iff (mySql : engine.MySql digits places fit)
    (stored : engine.worth columns params operand = .text text) :
    let plain :=
      engine.worth columns params (Dialect.mySql.toDecimal operand digits places (some 0))
    let guarded :=
      engine.worth columns params (Dialect.mySqlGuarded operand digits places (some 0))
    (∀ fallback ≠ some 0, Dialect.mySql.toDecimal operand digits places fallback =
        Dialect.mySqlGuarded operand digits places fallback) ∧
      (∀ numeral : Numeral, numeral.text = text.toList →
        plain = .number (fit numeral.toRat) ∧ guarded = .number (fit numeral.toRat)) ∧
      ((¬ ∃ numeral : Numeral, numeral.text = text.toList) →
        plain = .number (fit (Numeral.leading text.toList)) ∧ guarded = .number 0) ∧
      (plain = guarded ↔
        (∃ numeral : Numeral, numeral.text = text.toList) ∨
          fit (Numeral.leading text.toList) = 0) := by
  intro plain guarded
  have converted : plain = .number (fit (Numeral.leading text.toList)) := mySql.worth_plain stored
  have chosen := mySql.worth_guarded stored (some 0)
  have zero : engine.worth columns params (.fallback (some 0)) = .number 0 :=
    Datum.ofLiteral_toString 0
  rw [zero] at chosen
  refine ⟨fun fallback other => Dialect.toDecimal_mySql other operand digits places, ?_⟩
  by_cases spelled : ∃ numeral : Numeral, numeral.text = text.toList
  · have same : guarded = .number (fit (Numeral.leading text.toList)) := by
      rw [if_pos spelled] at chosen
      exact chosen
    refine ⟨?_, absurd spelled, ?_⟩
    · intro numeral text'
      rw [converted, same, ← text', Numeral.leading_text]
      exact ⟨rfl, rfl⟩
    · simp [converted, same, spelled]
  · have other : guarded = .number 0 := by
      rw [if_neg spelled] at chosen
      exact chosen
    refine ⟨?_, fun _ => ⟨converted, other⟩, ?_⟩
    · intro numeral text'
      exact absurd ⟨numeral, text'⟩ spelled
    · simp [converted, other, spelled]

/-- A numeral is converted either way. -/
theorem worth_plain_eq_guarded_iff_numeral :
    (mySql 20 4).worth (fun _ => .text "-1.5") ∅
        (Dialect.mySql.toDecimal (.column "v") 20 4 (some 0)) = .number (-1.5) ∧
      (mySql 20 4).worth (fun _ => .text "-1.5") ∅
        (Dialect.mySqlGuarded (.column "v") 20 4 (some 0)) = .number (-1.5) := by
  have stored : (mySql 20 4).worth (fun _ => .text "-1.5") ∅ (.column "v") = .text "-1.5" := by
    rw [worth]
  obtain ⟨-, converted, -, -⟩ := worth_plain_eq_guarded_iff (lawful_mySql 20 4) stored
  have number : (⟨true, [1], [5], .inl (by simp)⟩ : Numeral).toRat = -1.5 := by decide +kernel
  have fits : Numeral.fit 20 4 (-1.5) = -1.5 := by decide +kernel
  have both := converted ⟨true, [1], [5], .inl (by simp)⟩ (by decide +kernel)
  rw [number] at both
  rw [← fits]
  exact both

/-- Letters behind a number are dropped without the guard, which makes a zero of both. -/
theorem worth_plain_ne_guarded :
    let plain := (mySql 20 4).worth (fun _ => .text "12abc") ∅
      (Dialect.mySql.toDecimal (.column "v") 20 4 (some 0))
    let guarded := (mySql 20 4).worth (fun _ => .text "12abc") ∅
      (Dialect.mySqlGuarded (.column "v") 20 4 (some 0))
    plain = .number 12 ∧ guarded = .number 0 ∧ plain ≠ guarded := by
  intro plain guarded
  have stored : (mySql 20 4).worth (fun _ => .text "12abc") ∅ (.column "v") = .text "12abc" := by
    rw [worth]
  have other : ¬ ∃ numeral : Numeral, numeral.text = "12abc".toList := by
    rintro ⟨numeral, spelled⟩
    have member : 'a' ∈ numeral.text := by rw [spelled]; decide +kernel
    rcases Numeral.mem_text member with same | same | ⟨digit, same⟩
    · exact absurd same (by decide)
    · exact absurd same (by decide)
    · exact absurd same (by revert digit; decide)
  have number : Numeral.fit 20 4 (Numeral.leading "12abc".toList) = 12 := by decide +kernel
  have converted : plain = .number 12 := by
    rw [← number]
    exact (lawful_mySql 20 4).worth_plain stored
  have replaced : guarded = .number 0 := by
    have chosen := (lawful_mySql 20 4).worth_guarded stored (some 0)
    rw [if_neg other] at chosen
    exact chosen.trans (Datum.ofLiteral_toString 0)
  exact ⟨converted, replaced, by simp [converted, replaced]⟩

end MySql

end Semantics

end ColumnFilter
