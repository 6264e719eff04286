import ColumnFilter.Dialect
import ColumnFilter.Proofs.Dialect.Numeral
import ColumnFilter.Proofs.Sql.Semantics

/-!
# A guard by length

Before 2012 SQL Server converts a text to a number where it is a numeral with no more
characters than the number has digits.  Some of these digits are behind the point, though,
and so a numeral that is not too long by this measure can overflow as well.  Only for whole
numbers the guard is always enough.
-/

namespace ColumnFilter

namespace Numeral

/-- The text is the numeral, which may have a point behind its last digit. -/
def Writes (numeral : Numeral) (text : String) : Prop :=
  text.toList = numeral.text ∨ numeral.fraction = [] ∧ text.toList = numeral.text ++ ['.']

theorem text_append_point_ne {numeral other : Numeral} (pointless : numeral.fraction = []) :
    numeral.text ++ ['.'] ≠ other.text := by
  intro same
  have front : numeral.text = numeral.sign ++ numeral.whole.map digitChar := by
    simp [text, tail, pointless]
  have behind := drop_dropWhile_text other
  rw [← same, front, List.dropWhile_append_of_pos not_point_of_mem] at behind
  have pointless' : other.fraction = [] := by simpa using behind.symm
  have member : '.' ∈ other.sign ++ other.whole.map digitChar := by
    have last : '.' ∈ other.text := by simp [← same]
    simpa [text, tail, pointless'] using last
  exact absurd (not_point_of_mem '.' member) (by simp)

theorem writes_unique {first second : Numeral} {content : String} (writes : first.Writes content)
    (writes' : second.Writes content) : first = second := by
  rcases writes with bare | ⟨pointless, pointed⟩
  · rcases writes' with bare' | ⟨pointless', pointed'⟩
    · exact text_injective (bare.symm.trans bare')
    · exact absurd (pointed'.symm.trans bare) (text_append_point_ne pointless')
  · rcases writes' with bare' | ⟨-, pointed'⟩
    · exact absurd (pointed.symm.trans bare') (text_append_point_ne pointless)
    · exact text_injective (List.append_cancel_right (pointed.symm.trans pointed'))

/-- The digits without the zeros in front of them. -/
def significant (digits : List (Fin 10)) : List (Fin 10) :=
  digits.dropWhile fun digit => digit.val == 0

theorem value_significant (digits : List (Fin 10)) : value (significant digits) = value digits := by
  induction digits with
  | nil => rfl
  | cons digit digits induction =>
      rw [significant, List.dropWhile_cons]
      by_cases zero : (digit : Nat) = 0
      · obtain rfl : digit = 0 := Fin.ext zero
        rw [if_pos (by simp), ← significant, induction]
        simp [value]
      · rw [if_neg (by simpa using zero)]

/-- Whether there is room for digits depends on how many of them are significant. -/
theorem le_value_iff_significant {digits : List (Fin 10)} {room : Nat} :
    10 ^ room ≤ value digits ↔ room < (significant digits).length := by
  rw [← value_significant]
  constructor
  · intro large
    by_contra short
    have below := value_lt (significant digits)
    have := Nat.pow_le_pow_right (show 0 < 10 by omega) (Nat.le_of_not_lt short)
    omega
  · intro long
    have leading : (significant digits).head? ≠ some 0 := by
      intro zero
      have kept := List.head?_dropWhile_not (fun digit : Fin 10 => digit.val == 0) digits
      rw [significant] at zero
      simp [zero] at kept
    obtain ⟨rest, shape⟩ := Nat.exists_eq_add_one_of_ne_zero (Nat.ne_zero_of_lt long)
    have large : 10 ^ rest ≤ value (significant digits) :=
      (le_value_iff shape.le).mpr ⟨shape, leading⟩
    have := Nat.pow_le_pow_right (show 0 < 10 by omega) (show room ≤ rest by omega)
    omega

namespace Writes

variable {numeral : Numeral} {content : String}

theorem length_text_le (writes : numeral.Writes content) :
    numeral.text.length ≤ content.toList.length := by
  rcases writes with bare | ⟨-, pointed⟩
  · rw [bare]
  · simp [pointed]

theorem length_significant_whole_le (writes : numeral.Writes content) :
    (significant numeral.whole).length ≤ content.toList.length := by
  have digits : numeral.whole.length ≤ numeral.text.length := by
    simp [text]
    omega
  have fewer : (significant numeral.whole).length ≤ numeral.whole.length :=
    (List.dropWhile_suffix _).length_le
  exact (fewer.trans digits).trans writes.length_text_le

/-- A numeral that rounding makes longer than any whole number of its length has a point. -/
theorem not_carries (writes : numeral.Writes content) {room : Nat}
    (short : content.toList.length ≤ room) : ¬ numeral.Carries room 0 := by
  rintro ⟨nines, up⟩
  have pointed : numeral.fraction ≠ [] := by
    intro pointless
    simp [fractional, pointless, value, roundTo] at up
  have longer : numeral.whole.length < numeral.text.length := by
    simp [text, tail, pointed]
    omega
  have below := value_lt numeral.whole
  have fits : room ≤ numeral.whole.length :=
    (Nat.pow_le_pow_iff_right (by omega)).mp (nines.ge.trans below)
  have := writes.length_text_le
  omega

end Writes

end Numeral

namespace Semantics

/-- What is relied on of SQL Server.  The conversion of a numeral fails when the number
rounded to `places` has too many digits. -/
structure SqlServer (engine : Semantics) (digits places : UInt32) : Prop where
  length : ∀ (numeral : Numeral) (text : String), numeral.Writes text →
    engine.call "LEN" [.text text] = .number text.toList.length
  concat : ∀ text, engine.call "CONCAT" [.text text, .text "e0"] = .text (text ++ "e0")
  isNumeric : ∀ (numeral : Numeral) (text : String), numeral.Writes text →
    engine.call "ISNUMERIC" [.text (text ++ "e0")] = .number 1
  lessOrEqual : ∀ first second : ℚ,
    engine.compare .lessOrEqual (.number first) (.number second) = .ofProp (first ≤ second)
  equal : ∀ first second : ℚ,
    engine.compare .equal (.number first) (.number second) = .ofProp (first = second)
  decimal : places ≤ digits → ∀ (numeral : Numeral) (text : String), numeral.Writes text →
    (engine.cast (Dialect.numericType "DECIMAL" digits places) (.text text) = none ↔
      10 ^ (digits.toNat - places.toNat) ≤ Numeral.roundTo places.toNat numeral.magnitude)

open Classical in
/-- The functions, operators and conversions that the dialect makes use of; whatever
else there is comes to nothing. -/
noncomputable def sqlServer (digits places : UInt32) : Semantics where
  call function arguments :=
    match arguments with
    | [.text text] =>
        if function = "LEN" then .number text.toList.length
        else if function = "ISNUMERIC" then
          let plain := ∃ numeral : Numeral, ∃ front, numeral.Writes front ∧ text = front ++ "e0"
          .number (if plain then 1 else 0)
        else .null
    | [.text first, .text second] =>
        if function = "CONCAT" then .text (first ++ second) else .null
    | _ => .null
  cast _ datum :=
    match datum with
    | .text text =>
        if written : ∃ numeral : Numeral, numeral.Writes text then
          let rounded := Numeral.roundTo places.toNat written.choose.magnitude
          if 10 ^ (digits.toNat - places.toNat) ≤ rounded then none
          else some (.number (if written.choose.negative then -rounded else rounded))
        else none
    | other => some other
  compare
    | .lessOrEqual, .number first, .number second => .ofProp (first ≤ second)
    | .equal, .number first, .number second => .ofProp (first = second)
    | _, _, _ => .unknown

theorem lawful_sqlServer (digits places : UInt32) :
    (sqlServer digits places).SqlServer digits places where
  length _ _ _ := by simp [sqlServer]
  concat _ := by simp [sqlServer]
  isNumeric numeral text writes := by
    have known : ∃ numeral : Numeral, ∃ front,
        numeral.Writes front ∧ text ++ "e0" = front ++ "e0" :=
      ⟨numeral, text, writes, rfl⟩
    simp only [sqlServer, if_pos known]
    simp
  lessOrEqual _ _ := rfl
  equal _ _ := rfl
  decimal _ numeral text writes := by
    have written : ∃ numeral : Numeral, numeral.Writes text := ⟨numeral, writes⟩
    have chosen : written.choose = numeral := Numeral.writes_unique written.choose_spec writes
    simp [sqlServer, written, chosen]

namespace SqlServer

variable {engine : Semantics} {digits places : UInt32} {columns : String → Datum}
  {params : Params} {operand : Expr} {text : String} {numeral : Numeral}

/-- Of a numeral only the length matters. -/
theorem judge_guard (sqlServer : engine.SqlServer digits places)
    (stored : engine.worth columns params operand = .text text) (writes : numeral.Writes text) :
    engine.judge columns params (Dialect.sqlServerGuard operand digits) =
      .ofProp (text.toList.length ≤ digits.toNat) := by
  have one : Datum.ofLiteral "1" = .number 1 := Datum.ofLiteral_toString 1
  rw [Dialect.sqlServerGuard, judge_conjoin, List.map_cons, List.map_cons, List.map_nil, judge,
    judge]
  simp only [worth, worths, stored, Expr.text, Datum.ofLiteral_quote, Datum.ofLiteral_toString,
    one, sqlServer.concat, sqlServer.length numeral text writes,
    sqlServer.isNumeric numeral text writes, sqlServer.lessOrEqual, sqlServer.equal, Nat.cast_le,
    Truth.all_cons, Truth.all_nil, Truth.and_yes, Truth.and_ofProp, and_true]

/-- Behind the guard a numeral is converted if there is room for its significant digits,
beside the digits behind the point, and if rounding does not make it longer.  Where no digits
are behind the point this is always so. -/
theorem completes_toDecimal_iff_fits (sqlServer : engine.SqlServer digits places)
    (ordered : places ≤ digits) (completes : engine.Completes columns params operand)
    (stored : engine.worth columns params operand = .text text) (writes : numeral.Writes text)
    (fallback : Option Int) :
    (engine.judge columns params (Dialect.sqlServerGuard operand digits) = .yes ↔
        text.toList.length ≤ digits.toNat) ∧
      (engine.judge columns params (Dialect.sqlServerGuard operand digits) = .yes →
        (engine.Completes columns params
            (Dialect.sqlServer.toDecimal operand digits places fallback) ↔
          (Numeral.significant numeral.whole).length ≤ digits.toNat - places.toNat ∧
            ¬ numeral.Carries (digits.toNat - places.toNat) places.toNat) ∧
        (places = 0 → engine.Completes columns params
          (Dialect.sqlServer.toDecimal operand digits places fallback))) := by
  have judged := sqlServer.judge_guard stored writes
  have decided : engine.ConditionCompletes columns params
      (Dialect.sqlServerGuard operand digits) := by
    simp only [Dialect.sqlServerGuard, conditionCompletes_conjoin, List.forall_mem_cons,
      ConditionCompletes, Completes, CompletesAll, Expr.text, completes, and_true,
      List.not_mem_nil, false_implies, implies_true]
  refine ⟨by rw [judged, Truth.ofProp_eq_yes_iff], ?_⟩
  intro guarded
  have short : text.toList.length ≤ digits.toNat := by
    rwa [judged, Truth.ofProp_eq_yes_iff] at guarded
  have decides : engine.Completes columns params
      (Dialect.sqlServer.toDecimal operand digits places fallback) ↔
        (Numeral.significant numeral.whole).length ≤ digits.toNat - places.toNat ∧
          ¬ numeral.Carries (digits.toNat - places.toNat) places.toNat := by
    rw [Dialect.toDecimal, Completes, if_pos guarded, Completes, stored, ne_eq,
      sqlServer.decimal ordered numeral text writes, Numeral.le_roundTo_iff,
      Numeral.le_value_iff_significant]
    simp only [decided, completes, true_and, not_or, not_lt]
  refine ⟨decides, ?_⟩
  rintro rfl
  rw [decides]
  have zero : (0 : UInt32).toNat = 0 := rfl
  rw [zero, Nat.sub_zero]
  exact ⟨writes.length_significant_whole_le.trans short, writes.not_carries short⟩

/-- Sixteen digits and a sign pass, and there is room for sixteen digits. -/
theorem completes_toDecimal_iff_fits_largest :
    (sqlServer 20 4).Completes (fun _ => .text "-9999999999999999") ∅
      (Dialect.sqlServer.toDecimal (.column "v") 20 4 none) := by
  have stored : (sqlServer 20 4).worth (fun _ => .text "-9999999999999999") ∅ (.column "v") =
      .text "-9999999999999999" := by
    simp [worth]
  have available : (sqlServer 20 4).Completes (fun _ => .text "-9999999999999999") ∅
      (.column "v") := by
    simp [Completes]
  have writes : (⟨true, List.replicate 16 9, [], .inl (by simp)⟩ : Numeral).Writes
      "-9999999999999999" :=
    .inl (by decide +kernel)
  obtain ⟨passes, decides⟩ := completes_toDecimal_iff_fits (lawful_sqlServer 20 4) (by decide)
    available stored writes none
  rw [(decides (passes.mpr (by decide +kernel))).1]
  refine ⟨by decide, ?_⟩
  rintro ⟨-, up⟩
  simp [Numeral.fractional, Numeral.value, Numeral.roundTo] at up

/-- Seventeen nines are let through, where there is room for sixteen digits. -/
theorem not_completes_toDecimal_long :
    (sqlServer 20 4).judge (fun _ => .text "99999999999999999") ∅
        (Dialect.sqlServerGuard (.column "v") 20) = .yes ∧
      (sqlServer 20 4).cast (Dialect.numericType "DECIMAL" 20 4) (.text "99999999999999999") =
        none ∧
      ¬ (sqlServer 20 4).Completes (fun _ => .text "99999999999999999") ∅
        (Dialect.sqlServer.toDecimal (.column "v") 20 4 none) := by
  have stored : (sqlServer 20 4).worth (fun _ => .text "99999999999999999") ∅ (.column "v") =
      .text "99999999999999999" := by
    simp [worth]
  have writes : (⟨false, List.replicate 17 9, [], .inl (by simp)⟩ : Numeral).Writes
      "99999999999999999" :=
    .inl (by decide +kernel)
  have guarded : (sqlServer 20 4).judge (fun _ => .text "99999999999999999") ∅
      (Dialect.sqlServerGuard (.column "v") 20) = .yes := by
    rw [(lawful_sqlServer 20 4).judge_guard stored writes, Truth.ofProp_eq_yes_iff]
    decide +kernel
  have fails : (sqlServer 20 4).cast (Dialect.numericType "DECIMAL" 20 4)
      (.text "99999999999999999") = none := by
    rw [(lawful_sqlServer 20 4).decimal (by decide) _ _ writes, Numeral.le_roundTo_iff]
    exact .inl (by decide)
  refine ⟨guarded, fails, ?_⟩
  rw [Dialect.toDecimal, Completes, if_pos guarded, Completes, stored, fails]
  simp

end SqlServer

end Semantics

end ColumnFilter
