import ColumnFilter.Proofs.Dialect.NumericCast

/-!
# Ordering of values

What ranges rely on: an engine compares numbers exactly, reads a missing value as an empty
text where it is told to, and takes no empty text for a number.  So the conversion to a
number turns a missing value into a missing one.
-/

namespace ColumnFilter

namespace Semantics

/-- An empty text does not pass for a number. -/
def RefusesEmpty (engine : Semantics) : Dialect → Prop
  | .mySql => engine.compare .regexp (.text "") (.text Dialect.mySqlNumeral) = .no
  | .postgres => engine.compare .regexp (.text "") (.text Dialect.postgresNumeral) = .no
  | .sqlServer =>
      engine.call "ISNUMERIC" [engine.call "CONCAT" [.text "", .text "e0"]] = .number 0
  | .sqlServer2012 =>
      ∀ digits places, engine.cast (Dialect.numericType "DECIMAL" digits places) (.text "") = none

/-- What is relied on of an engine that ranges are compiled for. -/
structure Orders (engine : Semantics) (dialect : Dialect) : Prop where
  inverts : engine.Inverts
  equal : ∀ first second : ℚ,
    engine.compare .equal (.number first) (.number second) = .ofProp (first = second)
  less : ∀ first second : ℚ,
    engine.compare .less (.number first) (.number second) = .ofProp (first < second)
  lessOrEqual : ∀ first second : ℚ,
    engine.compare .lessOrEqual (.number first) (.number second) = .ofProp (first ≤ second)
  greater : ∀ first second : ℚ,
    engine.compare .greater (.number first) (.number second) = .ofProp (first > second)
  greaterOrEqual : ∀ first second : ℚ,
    engine.compare .greaterOrEqual (.number first) (.number second) = .ofProp (first ≥ second)
  missing : ∀ operator other, engine.compare operator .null other = .unknown
  castMissing : ∀ type, engine.cast type .null = some .null
  textual : ∀ text, engine.cast "TEXT" (.text text) = some (.text text)
  coalesce : engine.call "COALESCE" [.null, .text ""] = .text ""
  empty : engine.RefusesEmpty dialect

variable {engine : Semantics} {dialect : Dialect} {columns : String → Datum} {params : Params}
  {operand : Expr}

/-- A conjunction does not hold where one of its members does not. -/
theorem judge_conjoin_ne_yes {conditions : List Condition} {condition : Condition}
    (member : condition ∈ conditions) (fails : engine.judge columns params condition ≠ .yes) :
    engine.judge columns params (.conjoin conditions) ≠ .yes := by
  rw [judge_conjoin]
  intro holds
  exact fails (Truth.all_eq_yes_iff.mp holds _ (List.mem_map_of_mem member))

theorem worth_choose_missing {condition : Condition} {conversion : Expr}
    (fails : engine.judge columns params condition ≠ .yes) :
    engine.worth columns params (.choose condition conversion (.fallback none)) = .null := by
  rw [worth, if_neg fails]
  rfl

namespace Orders

theorem worth_nullToEmpty (orders : engine.Orders dialect)
    (absent : engine.worth columns params operand = .null) :
    engine.worth columns params (dialect.nullToEmpty operand) = .text "" := by
  have textual : engine.worth columns params (dialect.textual operand) = .null := by
    cases dialect <;> simp [Dialect.textual, worth, absent, orders.castMissing]
  simp [Dialect.nullToEmpty, worth, worths, Expr.text, textual, orders.coalesce]

theorem judge_postgresGuard_empty (orders : engine.Orders .postgres)
    (empty : engine.worth columns params operand = .text "") (digits places : UInt32) :
    engine.judge columns params (Dialect.postgresGuard operand digits places) ≠ .yes := by
  have refused : engine.compare .regexp (.text "") (.text Dialect.postgresNumeral) = .no :=
    orders.empty
  rw [Dialect.postgresGuard]
  apply judge_conjoin_ne_yes List.mem_cons_self
  simp [judge, worth, empty, Expr.text, refused]

theorem judge_sqlServerGuard_empty (orders : engine.Orders .sqlServer)
    (empty : engine.worth columns params operand = .text "") (digits : UInt32) :
    engine.judge columns params (Dialect.sqlServerGuard operand digits) ≠ .yes := by
  have refused : engine.call "ISNUMERIC" [engine.call "CONCAT" [.text "", .text "e0"]] =
      .number 0 := orders.empty
  have one : Datum.ofLiteral "1" = .number 1 := Datum.ofLiteral_toString 1
  rw [Dialect.sqlServerGuard]
  apply judge_conjoin_ne_yes (List.mem_cons_of_mem _ List.mem_cons_self)
  simp [judge, worth, worths, empty, Expr.text, one, refused, orders.equal]

/-- An empty text becomes a missing number. -/
theorem worth_toDecimal_empty (orders : engine.Orders dialect)
    (empty : engine.worth columns params operand = .text "") (digits places : UInt32) :
    engine.worth columns params (dialect.toDecimal operand digits places none) = .null := by
  cases dialect with
  | mySql =>
      have refused : engine.compare .regexp (.text "") (.text Dialect.mySqlNumeral) = .no :=
        orders.empty
      rw [Dialect.toDecimal, if_neg (by simp)]
      apply worth_choose_missing
      simp [judge, worth, empty, Expr.text, refused]
  | postgres =>
      have textual : engine.worth columns params (.cast operand "TEXT") = .text "" := by
        rw [worth, empty, orders.textual, Option.getD_some]
      exact worth_choose_missing (orders.judge_postgresGuard_empty textual digits places)
  | sqlServer => exact worth_choose_missing (orders.judge_sqlServerGuard_empty empty digits)
  | sqlServer2012 =>
      have refused : ∀ digits places,
          engine.cast (Dialect.numericType "DECIMAL" digits places) (.text "") = none :=
        orders.empty
      rw [Dialect.toDecimal, worth, empty, refused, Option.getD_none]

end Orders

open Classical in
/-- Numbers are compared exactly, and a text is a number if it spells one; whatever else
is compared is unknown. -/
noncomputable def ordering : Semantics where
  call
    | _, [.null, other] => other
    | _, arguments => arguments.headD .null
  cast type datum :=
    match datum with
    | .text text =>
        if type = "TEXT" then some (.text text)
        else if spelled : ∃ numeral : Numeral, numeral.Spells text then
          some (.number spelled.choose.toRat)
        else none
    | other => some other
  compare
    | .equal, .number first, .number second => .ofProp (first = second)
    | .notEqual, .number first, .number second => .ofProp (first ≠ second)
    | .less, .number first, .number second => .ofProp (first < second)
    | .lessOrEqual, .number first, .number second => .ofProp (first ≤ second)
    | .greater, .number first, .number second => .ofProp (first > second)
    | .greaterOrEqual, .number first, .number second => .ofProp (first ≥ second)
    | _, _, _ => .unknown

theorem cast_ordering_spelled {numeral : Numeral} {text : String} (spells : numeral.Spells text)
    (digits places : UInt32) :
    ordering.cast (Dialect.numericType "DECIMAL" digits places) (.text text) =
      some (.number numeral.toRat) := by
  have spelled : ∃ numeral : Numeral, numeral.Spells text := ⟨numeral, spells⟩
  have chosen : spelled.choose = numeral := Numeral.spells_unique spelled.choose_spec spells
  simp [ordering, Dialect.numericType_ne_text, spelled, chosen]

theorem orders_ordering : ordering.Orders .sqlServer2012 where
  inverts operator left right := by
    cases operator <;> cases left <;> cases right <;>
      first | rfl | simp [ordering, Operator.inverse, Truth.not_ofProp]
  equal _ _ := rfl
  less _ _ := rfl
  lessOrEqual _ _ := rfl
  greater _ _ := rfl
  greaterOrEqual _ _ := rfl
  missing operator other := by
    cases operator <;> rfl
  castMissing _ := rfl
  textual _ := by simp [ordering]
  coalesce := rfl
  empty digits places := by
    have unspelled : ¬∃ numeral : Numeral, numeral.Spells "" := by
      rintro ⟨numeral, before, after, shape, -⟩
      have vacant : numeral.text = [] := by
        simp only [String.toList_empty, List.nil_eq, List.append_eq_nil_iff] at shape
        exact shape.1.2
      exact numeral.text_ne_nil vacant
    simp [ordering, Dialect.numericType_ne_text, unspelled]

end Semantics

end ColumnFilter
