import ColumnFilter.Proofs.Dialect.Ordering
import ColumnFilter.Proofs.Strategy.Notation
import ColumnFilter.Proofs.Strategy.NumberValues

/-!
# What ranges ask

A range in the usual notation asks that a number lies between two others, or that it stands
in some relation to one.  With an engine that compares numbers exactly, the fragment of a
range tells which values are as it asks.  A missing value is read as an empty text, which
is no number, and so nothing is known of it.
-/

namespace ColumnFilter

namespace Range

/-- The number is as a form asks, compared with its number. -/
def Form.Holds (form : Form) (x number : ℚ) : Prop :=
  match form with
  | .less => x < number
  | .lessOrEqual => x ≤ number
  | .greater => x > number
  | .greaterOrEqual => x ≥ number
  | .equal => x = number

/-- A text in the usual notation with ASCII digits only, and what it asks of a number. -/
inductive Asks : (text : List Char) → (wanted : ℚ → Prop) → Prop where
  | between {white white' white'' white''' : List Char} {t o : Char} {first last : Numeral} :
      Blank white → Blank white' → t = 't' ∨ t = 'T' → o = 'o' ∨ o = 'O' → Blank white'' →
      Blank white''' →
      Asks (white ++ first.text ++ white' ++ [' ', t, o, ' '] ++ white'' ++ last.text ++ white''')
        fun x => first.toRat ≤ x ∧ x ≤ last.toRat
  | single {form : Form} {white white' : List Char} {number : Numeral} :
      Blank white → Blank white' →
      Asks (form.sign ++ white ++ number.text ++ white') (form.Holds · number.toRat)

variable {text : List Char} {shape : Shape} {bounds : List Bound} {wanted : ℚ → Prop}
  {engine : Semantics}

theorem Usual.exists_asks (usual : Usual text shape bounds) (ascii : ∀ c ∈ text, ¬Foreign c) :
    ∃ wanted, Asks text wanted := by
  rcases usual with ⟨blank, isFirst, blank', isT, isO, blank'', isLast, blank'''⟩ |
    ⟨blank, isNumber, blank'⟩
  · obtain ⟨first, rfl⟩ := isFirst.exists_numeral fun c member => ascii c (by simp [member])
    obtain ⟨last, rfl⟩ := isLast.exists_numeral fun c member => ascii c (by simp [member])
    exact ⟨_, .between blank blank' isT isO blank'' blank'''⟩
  · obtain ⟨number, rfl⟩ := isNumber.exists_numeral fun c member => ascii c (by simp [member])
    exact ⟨_, .single blank blank'⟩

/-- What a bound compares with. -/
def Bound.datum (bound : Bound) : Datum := .ofValue (.ofNumberLiteral bound.number)

theorem datum_numeral (operator : Operator) {number : Numeral}
    (short : number.text.length < 2 ^ 63) :
    Bound.datum ⟨operator, String.ofList number.text⟩ = .number number.toRat := by
  obtain ⟨decimal, bound, same⟩ := Value.ofNumberLiteral_numeral number short
  rw [Bound.datum, bound, ← same]
  rfl

/-- The comparisons with the bounds of a text, taken together, hold for the numbers
that are as it asks. -/
theorem Asks.exists_usual (asks : Asks text wanted) (short : text.length < 2 ^ 63) :
    ∃ shape bounds, Usual text shape bounds ∧
      ∀ (engine : Semantics) (dialect : Dialect), engine.Orders dialect → ∀ x : ℚ,
        Truth.all (bounds.map fun bound => engine.compare bound.operator (.number x) bound.datum) =
          .ofProp (wanted x) := by
  rcases asks with @⟨_, _, _, _, _, _, first, last, blank, blank', isT, isO, blank'', blank'''⟩ |
    @⟨form, _, _, number, blank, blank'⟩
  · refine ⟨_, _, .between blank (isNumber_text first) blank' isT isO blank'' (isNumber_text last)
      blank''', ?_⟩
    intro engine dialect orders x
    simp only [List.length_append] at short
    have first' := datum_numeral .greaterOrEqual (show first.text.length < 2 ^ 63 by omega)
    have last' := datum_numeral .lessOrEqual (show last.text.length < 2 ^ 63 by omega)
    simp only [List.map_cons, List.map_nil, Truth.all_cons, Truth.all_nil, Truth.and_yes, first',
      last', orders.greaterOrEqual, orders.lessOrEqual, Truth.and_ofProp]
  · refine ⟨_, _, .single blank (isNumber_text number) blank', ?_⟩
    intro engine dialect orders x
    simp only [List.length_append] at short
    have datum := fun operator =>
      datum_numeral operator (show number.text.length < 2 ^ 63 by omega)
    cases form <;>
      simp only [Form.operators, List.map_cons, List.map_nil, Truth.all_cons, Truth.all_nil,
        Truth.and_yes, datum, orders.less, orders.lessOrEqual, orders.greater,
        orders.greaterOrEqual, Truth.and_ofProp, Form.Holds]
    rw [and_comm, ge_iff_le, ← le_antisymm_iff]

theorem Usual.agree (usual : Usual text shape bounds) :
    ∀ first ∈ bounds, ∀ second ∈ bounds,
      boundKind first.operator = boundKind second.operator → first.number = second.number := by
  rcases usual with _ | _
  · simp [boundKind]
  · intro first member second member'
    obtain ⟨_, -, rfl⟩ := List.mem_map.mp member
    obtain ⟨_, -, rfl⟩ := List.mem_map.mp member'
    intro
    rfl

/-- A fragment holds where all of its comparisons do. -/
theorem judge_fragment (inverts : engine.Inverts) (options : Options) (target : Target)
    (segment : Segment) (agree : ∀ first ∈ bounds, ∀ second ∈ bounds,
      boundKind first.operator = boundKind second.operator → first.number = second.number)
    (columns : String → Datum) :
    let fragment := fragment options target segment bounds
    let truth := Truth.all (bounds.map fun bound => engine.compare bound.operator
      (engine.worth columns fragment.params (operand options target)) bound.datum)
    engine.judge columns fragment.params fragment.condition =
      if segment.negated then truth.not else truth := by
  simp only [fragment]
  generalize bindings : Params.ofList _ = params
  have bound : ∀ bound ∈ bounds, params.get? (boundParam target segment bound) =
      some (Value.ofNumberLiteral bound.number) := by
    intro bound member
    rw [← bindings]
    refine Params.get?_ofList_map (fun first inside second inside' named => ?_) member
    rw [agree first inside second inside' (parameterName_inj named).1]
  have conjoined : engine.judge columns params (.conjoin (bounds.map fun bound =>
      Condition.compare (operand options target) bound.operator
        (.param (boundParam target segment bound)))) =
      Truth.all (bounds.map fun bound => engine.compare bound.operator
        (engine.worth columns params (operand options target)) bound.datum) := by
    rw [Semantics.judge_conjoin, List.map_map]
    refine congrArg Truth.all (List.map_congr_left fun item member => ?_)
    rw [Function.comp_apply, Semantics.judge, Semantics.worth, bound item member]
    rfl
  rw [inverts.judge_negateIf, conjoined]

theorem operand_missing {target : Target} (orders : engine.Orders target.dialect)
    {columns : String → Datum} (absent : columns target.column = .null) (params : Params) :
    engine.worth columns params (operand .standard target) = .null := by
  have column : engine.worth columns params (.column target.column) = .null := by
    rw [Semantics.worth, absent]
  exact orders.worth_toDecimal_empty (orders.worth_nullToEmpty column) _ _

/-- What an accepted segment with ASCII digits asks is written in it, and its fragment holds
for the values that are so; of an inverted segment, it holds for the others.  It is
unknown of missing values.  A text that is kept in memory is always short enough. -/
theorem judge_range? {range : Range} (made : ofOptions? .standard = .ok range) {target : Target}
    {segment : Segment} (sized : segment.text.length < 2 ^ 63)
    (ascii : ∀ c ∈ segment.text.toList, ¬Foreign c) {fragment : Fragment}
    (accepted : range.range? target segment = .ok (some fragment)) :
    (∃ wanted, Asks segment.text.toList wanted) ∧
      ∀ wanted, Asks segment.text.toList wanted →
        ∀ engine : Semantics, engine.Orders target.dialect → ∀ columns : String → Datum,
          (∀ x, engine.worth columns fragment.params (operand .standard target) = .number x →
            engine.judge columns fragment.params fragment.condition =
              .ofProp (if segment.negated then ¬wanted x else wanted x)) ∧
          (columns target.column = .null →
            engine.judge columns fragment.params fragment.condition = .unknown) := by
  rcases bounds_describes rfl made segment.text with ⟨found, -⟩ | ⟨bounds, found, shape, describes⟩
  · simp [range?, found, Except.map] at accepted
  rw [range?_of_bounds target segment found, Except.ok.injEq, Option.some.injEq,
    (read_of_ofOptions? made).1] at accepted
  subst accepted
  have usual := describes_standard_iff.mp describes
  refine ⟨usual.exists_asks ascii, ?_⟩
  intro wanted asks engine orders columns
  have judged := judge_fragment orders.inverts .standard target segment usual.agree columns
  constructor
  · intro x converted
    obtain ⟨shape', bounds', usual', holds⟩ := asks.exists_usual (by rwa [String.length_toList])
    obtain ⟨-, rfl⟩ := usual.unique usual'
    rw [judged, converted, holds engine _ orders x]
    cases segment.negated with
    | false => rfl
    | true => exact Truth.not_ofProp _
  · intro absent
    rw [judged, operand_missing orders absent]
    simp only [orders.missing, Truth.all_map_unknown (bounds_ne_nil found)]
    cases segment.negated <;> rfl

theorem judge_range?_between :
    ∃ range fragment, ofOptions? .standard = .ok range ∧
      range.range? ⟨"price", .sqlServer2012, none⟩ ⟨"-.5 TO 3", true⟩ = .ok (some fragment) ∧
      Semantics.ordering.judge (fun _ => .text "2.50") fragment.params fragment.condition =
        .no := by
  have evaluated : (ofOptions? .standard).toOption.any (fun range =>
      decide (range.bounds "-.5 TO 3" =
        .ok (some [⟨.greaterOrEqual, "-.5"⟩, ⟨.lessOrEqual, "3"⟩]))) = true := by
    decide +kernel
  obtain ⟨range, made, -, accepted⟩ :=
    exists_accepts evaluated ⟨"price", .sqlServer2012, none⟩ true
  refine ⟨range, _, made, accepted, ?_⟩
  have ascii : ∀ c ∈ "-.5 TO 3".toList, ¬Foreign c :=
    List.forall_iff_forall_mem.mp (by decide +kernel)
  let first : Numeral := ⟨true, [], [5], .inr (by simp)⟩
  let last : Numeral := ⟨false, [3], [], .inl (by simp)⟩
  let stored : Numeral := ⟨false, [2], [5, 0], .inl (by simp)⟩
  have nothing : Blank [] := fun _ => False.elim ∘ List.not_mem_nil
  have asks : Asks ([] ++ first.text ++ [] ++ [' ', 'T', 'O', ' '] ++ [] ++ last.text ++ []) _ :=
    .between nothing nothing (.inr rfl) (.inr rfl) nothing nothing
  have spells : stored.Spells "2.50" := ⟨[], [], by decide +kernel, by simp, by simp⟩
  have inside : first.toRat ≤ stored.toRat ∧ stored.toRat ≤ last.toRat := by
    simp [first, stored, last, Numeral.toRat, Numeral.magnitude, Numeral.fractional, Numeral.value]
    norm_num
  have converted : ∀ params, Semantics.ordering.worth (fun _ => .text "2.50") params
      (operand .standard ⟨"price", .sqlServer2012, none⟩) = .number stored.toRat := by
    intro params
    change (Semantics.ordering.cast (Dialect.numericType "DECIMAL" 20 4)
      (.text "2.50")).getD .null = _
    rw [Semantics.cast_ordering_spelled spells, Option.getD_some]
  have judged := ((judge_range? made (by decide) ascii accepted).2 _ asks _
    Semantics.orders_ordering fun _ => .text "2.50").1 stored.toRat (converted _)
  rw [judged]
  simp [inside, Truth.ofProp]

end Range

end ColumnFilter
