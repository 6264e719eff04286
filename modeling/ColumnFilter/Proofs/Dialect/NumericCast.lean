import ColumnFilter.Proofs.Dialect.NumeralPattern
import ColumnFilter.Proofs.Sql.Semantics

/-!
# Safe conversion to numbers

In PostgreSQL a text is only converted to a number where it is found to be a
numeral that is not too long.  What counts is the length in front of the point,
with the sign, and one more character than there are digits is let through.  So
a positive numeral of that length overflows, and so does one that rounding makes
longer; no other does.
-/

namespace ColumnFilter

namespace Dialect

theorem numericType_ne_text (base : String) (digits places : UInt32) :
    numericType base digits places ≠ "TEXT" := by
  intro same
  have last := congrArg (fun type => type.toList.getLast?) same
  simp only [numericType, String.toList_append, List.getLast?_append] at last
  simp at last

/-- A text without the spaces at its ends. -/
def stripSpaces (text : List Char) : List Char :=
  ((text.dropWhile (· == ' ')).reverse.dropWhile (· == ' ')).reverse

theorem dropWhile_spaces_append {front core : List Char} (present : core ≠ [])
    (visible : ∀ c ∈ core, Text.isSpace c = false) (behind : List Char) :
    (front ++ core ++ behind).dropWhile (· == ' ') =
      front.dropWhile (· == ' ') ++ core ++ behind := by
  induction front with
  | nil =>
      cases core with
      | nil => exact absurd rfl present
      | cons c core =>
          have other : c ≠ ' ' := by
            rintro rfl
            have shown := visible ' ' List.mem_cons_self
            exact absurd shown (by decide +kernel)
          simp [other]
  | cons c front induction =>
      rw [List.cons_append, List.cons_append, List.dropWhile_cons, List.dropWhile_cons]
      split
      · exact induction
      · rfl

theorem stripSpaces_spelled (numeral : Numeral) (before after : List Char) :
    stripSpaces (before ++ numeral.text ++ after) =
      before.dropWhile (· == ' ') ++ numeral.text ++
        (after.reverse.dropWhile (· == ' ')).reverse := by
  have present := numeral.text_ne_nil
  have visible := numeral.text_visible
  rw [stripSpaces, dropWhile_spaces_append present visible]
  have reversed : (before.dropWhile (· == ' ') ++ numeral.text ++ after).reverse =
      after.reverse ++ numeral.text.reverse ++ (before.dropWhile (· == ' ')).reverse := by
    simp
  rw [reversed, dropWhile_spaces_append (by simpa using present) (by simpa using visible)]
  simp

/-- A bound that starts over at zero lets through less, not more. -/
theorem toNat_wholeLength_le (digits places : UInt32) :
    (wholeLength digits places).toNat ≤ digits.toNat - places.toNat + 1 := by
  rw [wholeLength, UInt32.toNat_add]
  refine (Nat.mod_le _ _).trans ?_
  split_ifs with few
  · simp
  · have many : places ≤ digits := by
      rw [UInt32.le_iff_toNat_le] at few ⊢
      omega
    rw [UInt32.toNat_sub_of_le _ _ many]
    rfl

/-- The length that is bounded counts the sign and the digits in front of the point. -/
theorem length_le_of_spells {numeral : Numeral} {text : String} (spells : numeral.Spells text) :
    numeral.negative.toNat + numeral.whole.length ≤
      ((stripSpaces text.toList).takeWhile (· != '.')).length := by
  obtain ⟨before, after, shape, blank, -⟩ := spells
  have pointless : ∀ c ∈ before.dropWhile (· == ' ') ++
      (numeral.sign ++ numeral.whole.map Numeral.digitChar), (c != '.') = true := by
    intro c member
    rcases List.mem_append.mp member with inside | inside
    · have white := blank c ((List.dropWhile_suffix _).mem inside)
      rw [bne_iff_ne]
      rintro rfl
      exact absurd white (by decide +kernel)
    · exact Numeral.not_point_of_mem c inside
  have sized : numeral.sign.length = numeral.negative.toNat := by
    unfold Numeral.sign
    cases numeral.negative <;> rfl
  rw [shape, stripSpaces_spelled, Numeral.text, ← List.append_assoc, List.append_assoc,
    List.takeWhile_append_of_pos pointless]
  simp [sized]
  omega

end Dialect

namespace Semantics

/-- What is relied on of PostgreSQL.  The conversion of a numeral, with white space
around it, fails when the number rounded to `places` has too many digits. -/
structure Postgres (engine : Semantics) (digits places : UInt32) : Prop where
  textual : ∀ text, engine.cast "TEXT" (.text text) = some (.text text)
  regexp : ∀ text, engine.compare .regexp (.text text) (.text Dialect.postgresNumeral) =
    .ofProp (Dialect.FindsNumeral text)
  trim : ∀ text, engine.call "TRIM" [.text text] =
    .text (String.ofList (Dialect.stripSpaces text.toList))
  splitPart : ∀ text, engine.call "SPLIT_PART" [.text text, .text ".", .number 1] =
    .text (String.ofList (text.toList.takeWhile (· != '.')))
  length : ∀ text, engine.call "LENGTH" [.text text] = .number text.toList.length
  lessOrEqual : ∀ first second : ℚ,
    engine.compare .lessOrEqual (.number first) (.number second) = .ofProp (first ≤ second)
  numeric : places ≤ digits → ∀ (numeral : Numeral) (text : String), numeral.Spells text →
    (engine.cast (Dialect.numericType "NUMERIC" digits places) (.text text) = none ↔
      10 ^ (digits.toNat - places.toNat) ≤ Numeral.roundTo places.toNat numeral.magnitude)

open Classical in
/-- The functions, operators and conversions that the dialect makes use of; whatever
else there is comes to nothing. -/
noncomputable def postgres (digits places : UInt32) : Semantics where
  call function arguments :=
    match arguments with
    | [.text text] =>
        if function = "TRIM" then .text (String.ofList (Dialect.stripSpaces text.toList))
        else if function = "LENGTH" then .number text.toList.length
        else .null
    | [.text text, .text separator, .number place] =>
        if function = "SPLIT_PART" ∧ separator = "." ∧ place = 1 then
          .text (String.ofList (text.toList.takeWhile (· != '.')))
        else .null
    | _ => .null
  cast type datum :=
    if type = "TEXT" then some datum
    else
      match datum with
      | .text text =>
          if spelled : ∃ numeral : Numeral, numeral.Spells text then
            let rounded := Numeral.roundTo places.toNat spelled.choose.magnitude
            if 10 ^ (digits.toNat - places.toNat) ≤ rounded then none
            else some (.number (if spelled.choose.negative then -rounded else rounded))
          else none
      | other => some other
  compare
    | .regexp, .text text, .text pattern =>
        .ofProp (∃ found, Pattern.ofText? pattern.toList = .ok found ∧
          found.regex.Finds text.toList)
    | .lessOrEqual, .number first, .number second => .ofProp (first ≤ second)
    | _, _, _ => .unknown

theorem lawful_postgres (digits places : UInt32) :
    (postgres digits places).Postgres digits places where
  textual _ := by simp [postgres]
  regexp _ := rfl
  trim _ := by simp [postgres]
  splitPart _ := by simp [postgres]
  length _ := by simp [postgres]
  lessOrEqual _ _ := rfl
  numeric _ numeral text spells := by
    have spelled : ∃ numeral : Numeral, numeral.Spells text := ⟨numeral, spells⟩
    have chosen : spelled.choose = numeral := Numeral.spells_unique spelled.choose_spec spells
    simp [postgres, Dialect.numericType_ne_text, spelled, chosen]

namespace Postgres

variable {engine : Semantics} {digits places : UInt32} {columns : String → Datum}
  {params : Params} {operand : Expr} {text : String}

theorem judge_guard (postgres : engine.Postgres digits places)
    (stored : engine.worth columns params operand = .text text) :
    engine.judge columns params (Dialect.postgresGuard operand digits places) =
      .ofProp (Dialect.FindsNumeral text ∧
        ((Dialect.stripSpaces text.toList).takeWhile (· != '.')).length ≤
          (Dialect.wholeLength digits places).toNat) := by
  have one : Datum.ofLiteral "1" = .number 1 := Datum.ofLiteral_toString 1
  have whole : engine.worth columns params (.call "LENGTH"
      [.call "SPLIT_PART" [.call "TRIM" [operand], .text ".", .literal "1"]]) =
        .number ((Dialect.stripSpaces text.toList).takeWhile (· != '.')).length := by
    simp [worth, worths, stored, Expr.text, one, postgres.trim, postgres.splitPart,
      postgres.length]
  rw [Dialect.postgresGuard, judge_conjoin, List.map_cons, List.map_cons, List.map_nil, judge,
    judge, whole, stored]
  simp only [worth, Expr.text, Datum.ofLiteral_quote, Datum.ofLiteral_toString, postgres.regexp,
    postgres.lessOrEqual, Nat.cast_le, Truth.all_cons, Truth.all_nil, Truth.and_yes,
    Truth.and_ofProp]

/-- Behind the guard there is a numeral, and the conversion fails only if it has a digit
too many and no sign, or gets one by rounding. -/
theorem completes_toDecimal_iff (postgres : engine.Postgres digits places)
    (ordered : places ≤ digits) (completes : engine.Completes columns params operand)
    (stored : engine.worth columns params operand = .text text) (fallback : Option Int)
    (guarded : engine.judge columns params
      (Dialect.postgresGuard (.cast operand "TEXT") digits places) = .yes) :
    ∃ numeral : Numeral, numeral.Spells text ∧
      (engine.Completes columns params (Dialect.postgres.toDecimal operand digits places fallback) ↔
        ¬ numeral.Exceeds (digits.toNat - places.toNat) ∧
          ¬ numeral.Carries (digits.toNat - places.toNat) places.toNat) := by
  have textual : engine.worth columns params (.cast operand "TEXT") = .text text := by
    rw [worth, stored, postgres.textual, Option.getD_some]
  have found := postgres.judge_guard textual
  rw [guarded, eq_comm, Truth.ofProp_eq_yes_iff, Dialect.findsNumeral_iff] at found
  obtain ⟨⟨numeral, spells⟩, bound⟩ := found
  refine ⟨numeral, spells, ?_⟩
  have short := (Dialect.length_le_of_spells spells).trans
    (bound.trans (Dialect.toNat_wholeLength_le digits places))
  have converted : engine.Completes columns params (.cast operand "TEXT") := by
    rw [Completes, stored, postgres.textual]
    exact ⟨completes, by simp⟩
  have decided : engine.ConditionCompletes columns params
      (Dialect.postgresGuard (.cast operand "TEXT") digits places) := by
    simp only [Dialect.postgresGuard, conditionCompletes_conjoin, List.forall_mem_cons,
      ConditionCompletes, Completes, CompletesAll, Expr.text, and_true, List.not_mem_nil,
      false_implies, implies_true]
    exact ⟨converted, converted⟩
  rw [Dialect.toDecimal, Completes, if_pos guarded, Completes, textual, ne_eq,
    postgres.numeric ordered numeral text spells, Numeral.overflows_iff _ short]
  simp only [decided, converted, true_and, not_or]

/-- Rounding to two places leaves three of the five digits in front of the point. -/
theorem completes_toDecimal_iff_rounded :
    (postgres 5 2).Completes (fun _ => .text "-12.345 ") ∅
      (Dialect.postgres.toDecimal (.column "v") 5 2 none) := by
  have textual : (postgres 5 2).worth (fun _ => .text "-12.345 ") ∅
      (.cast (.column "v") "TEXT") = .text "-12.345 " := by
    simp [worth, postgres]
  have white : Text.isSpace ' ' = true := by decide +kernel
  have written : (⟨true, [1, 2], [3, 4, 5], .inl (by simp)⟩ : Numeral).Spells "-12.345 " :=
    ⟨[], [' '], by decide +kernel, by simp, by simp [white]⟩
  have guarded : (postgres 5 2).judge (fun _ => .text "-12.345 ") ∅
      (Dialect.postgresGuard (.cast (.column "v") "TEXT") 5 2) = .yes := by
    rw [(lawful_postgres 5 2).judge_guard textual, Truth.ofProp_eq_yes_iff,
      Dialect.findsNumeral_iff]
    exact ⟨⟨_, written⟩, by decide +kernel⟩
  have available : (postgres 5 2).Completes (fun _ => .text "-12.345 ") ∅ (.column "v") := by
    simp [Completes]
  have stored : (postgres 5 2).worth (fun _ => .text "-12.345 ") ∅ (.column "v") =
      .text "-12.345 " := by
    simp [worth]
  obtain ⟨numeral, spells, completes⟩ := completes_toDecimal_iff (lawful_postgres 5 2)
    (by decide) available stored none guarded
  rw [completes, Numeral.spells_unique spells written]
  simp [Numeral.Exceeds, Numeral.Carries, Numeral.value]

/-- Seventeen nines are let through, where there is room for sixteen digits. -/
theorem not_completes_toDecimal :
    (postgres 20 4).judge (fun _ => .text "99999999999999999") ∅
        (Dialect.postgresGuard (.cast (.column "v") "TEXT") 20 4) = .yes ∧
      (postgres 20 4).cast (Dialect.numericType "NUMERIC" 20 4) (.text "99999999999999999") =
        none ∧
      ¬ (postgres 20 4).Completes (fun _ => .text "99999999999999999") ∅
        (Dialect.postgres.toDecimal (.column "v") 20 4 none) := by
  have stored : (postgres 20 4).worth (fun _ => .text "99999999999999999") ∅ (.column "v") =
      .text "99999999999999999" := by
    simp [worth]
  have textual : (postgres 20 4).worth (fun _ => .text "99999999999999999") ∅
      (.cast (.column "v") "TEXT") = .text "99999999999999999" := by
    simp [worth, postgres]
  have written : (⟨false, List.replicate 17 9, [], .inl (by simp)⟩ : Numeral).Spells
      "99999999999999999" :=
    ⟨[], [], by decide +kernel, by simp, by simp⟩
  have guarded : (postgres 20 4).judge (fun _ => .text "99999999999999999") ∅
      (Dialect.postgresGuard (.cast (.column "v") "TEXT") 20 4) = .yes := by
    rw [(lawful_postgres 20 4).judge_guard textual, Truth.ofProp_eq_yes_iff,
      Dialect.findsNumeral_iff]
    exact ⟨⟨_, written⟩, by decide +kernel⟩
  have fails : (postgres 20 4).cast (Dialect.numericType "NUMERIC" 20 4)
      (.text "99999999999999999") = none := by
    rw [(lawful_postgres 20 4).numeric (by decide) _ _ written, Numeral.overflows_iff _ (by decide)]
    exact .inl ⟨rfl, by decide, by decide⟩
  refine ⟨guarded, fails, ?_⟩
  rw [Dialect.toDecimal, Completes, if_pos guarded, Completes, textual, fails]
  simp

end Postgres

end Semantics

end ColumnFilter
