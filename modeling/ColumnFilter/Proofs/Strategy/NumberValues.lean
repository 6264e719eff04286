import ColumnFilter.Proofs.Strategy.Fitting
import ColumnFilter.Proofs.Strategy.Naming
import ColumnFilter.Proofs.Value.Literal

/-!
# The values of numbers

Numbers in the usual notation may have digits of any script, but decimals are written with
ASCII digits only.  A number of a segment is bound as the decimal that it stands for if all
of its digits are ASCII, and as a text otherwise.
-/

namespace ColumnFilter

namespace Range

/-- A decimal digit that is not ASCII. -/
def Foreign (c : Char) : Prop := Text.isDecimalDigit c = true ∧ ¬('0' ≤ c ∧ c ≤ '9')

instance : DecidablePred Foreign := fun _ => inferInstanceAs (Decidable (_ ∧ _))

theorem IsNumber.no_exponent {number : List Char} (isNumber : IsNumber number) {c : Char}
    (member : c ∈ number) : Decimal.isExponentMark c = false := by
  have marks : ∀ c ∈ ['e', 'E'], ¬(c = '-' ∨ c = '.' ∨ Text.isDecimalDigit c = true) :=
    List.forall_iff_forall_mem.mp (by decide +kernel)
  have absent : c ∉ ['e', 'E'] := fun mark => marks c mark (isNumber.mem member)
  simpa [Decimal.isExponentMark] using absent

theorem isNumber_text (numeral : Numeral) : IsNumber numeral.text := by
  have digit : ∀ digit, Text.isDecimalDigit (Numeral.digitChar digit) = true := by
    decide +kernel
  obtain ⟨minus, point, front, back, spelled, signed, pointed, present⟩ :=
    Numeral.exists_text_iff.mp ⟨numeral, rfl⟩
  refine ⟨minus, _, point, _, spelled, signed, ?_, pointed, by simpa using present, ?_⟩
  · simp [digit]
  · simp [digit]

/-- With ASCII digits only, a number is a numeral. -/
theorem IsNumber.exists_numeral {number : List Char} (isNumber : IsNumber number)
    (ascii : ∀ c ∈ number, ¬Foreign c) : ∃ numeral : Numeral, numeral.text = number := by
  obtain ⟨minus, front, point, back, rfl, signed, digits, pointed, present, digits'⟩ := isNumber
  have spelled : ∀ stretch : List Char, (∀ c ∈ stretch, Text.isDecimalDigit c = true) →
      (∀ c ∈ stretch, ¬Foreign c) →
        ∃ digits : List (Fin 10), digits.map Numeral.digitChar = stretch := by
    intro stretch digits ascii
    apply Numeral.exists_map_digitChar_iff.mpr
    intro c member
    by_contra other
    exact ascii c member ⟨digits c member, other⟩
  obtain ⟨first, rfl⟩ := spelled front digits fun c member => ascii c (by simp [member])
  obtain ⟨second, rfl⟩ := spelled back digits' fun c member => ascii c (by simp [member])
  exact Numeral.exists_text_iff.mpr
    ⟨minus, point, first, second, rfl, signed, pointed, by simpa using present⟩

theorem Foreign.not_isWritten {c : Char} (foreign : Foreign c) : ¬Decimal.IsWritten c := by
  obtain ⟨digit, other⟩ := foreign
  have marks : ∀ c ∈ ['.', '-', '+', '_'], Text.isDecimalDigit c = false :=
    List.forall_iff_forall_mem.mp (by decide +kernel)
  have absent : c ∉ ['.', '-', '+', '_'] := by
    intro mark
    rw [marks c mark] at digit
    contradiction
  simp only [List.mem_cons, List.not_mem_nil, not_or] at absent
  simp [Decimal.IsWritten, Decimal.digitValue?, absent, other]

theorem Fits.length_le {parts : List Part} {text : List Char} {numbers : List (List Char)}
    (fits : Fits parts text numbers) : ∀ number ∈ numbers, number.length ≤ text.length := by
  induction fits with
  | nil => simp
  | mark _ _ induction =>
      intro number member
      exact (induction number member).trans (by simp)
  | blank _ _ induction =>
      intro number member
      exact (induction number member).trans (by simp)
  | number _ _ induction =>
      refine List.forall_mem_cons.mpr ⟨by simp, fun number member => ?_⟩
      exact (induction number member).trans (by simp)

theorem Fits.isNumber {parts : List Part} {text : List Char} {numbers : List (List Char)}
    (fits : Fits parts text numbers) : ∀ number ∈ numbers, IsNumber number := by
  induction fits with
  | nil => simp
  | mark _ _ induction => exact induction
  | blank _ _ induction => exact induction
  | number isNumber _ induction => exact List.forall_mem_cons.mpr ⟨isNumber, induction⟩

variable {options : Options} {text : List Char} {shape : Shape} {bounds : List Bound}

/-- Every bound has one of the numbers of the text. -/
theorem Describes.exists_fits (describes : Describes options text shape bounds) :
    ∃ numbers, Fits (shape.parts options) text numbers ∧
      ∀ bound ∈ bounds, bound.number.toList ∈ numbers := by
  cases describes with
  | between fits => exact ⟨_, fits, by simp⟩
  | single fits =>
      refine ⟨_, fits, ?_⟩
      intro bound member
      obtain ⟨operator, -, rfl⟩ := List.mem_map.mp member
      simp

/-- The value is the decimal that the number stands for if its digits are ASCII, and the
number as a text otherwise. -/
def Represents (number : String) (value : Value) : Prop :=
  (∃ (numeral : Numeral) (decimal : Decimal), number.toList = numeral.text ∧
      value = .decimal decimal ∧ decimal.toRat = numeral.toRat) ∨
    (∃ c ∈ number.toList, Foreign c) ∧ value = .string number

theorem represents_ofNumberLiteral {number : String} (isNumber : IsNumber number.toList)
    (short : number.length < 2 ^ 63) : Represents number (Value.ofNumberLiteral number) := by
  by_cases foreign : ∃ c ∈ number.toList, Foreign c
  · obtain ⟨c, member, other⟩ := foreign
    refine .inr ⟨⟨c, member, other⟩, ?_⟩
    have bound := Value.ofNumberLiteral_of_foreign (fun _ => isNumber.visible)
      (fun _ => isNumber.no_exponent) member other.not_isWritten
    rwa [String.ofList_toList] at bound
  · have ascii : ∀ c ∈ number.toList, ¬Foreign c :=
      fun c member other => foreign ⟨c, member, other⟩
    obtain ⟨numeral, spelled⟩ := isNumber.exists_numeral ascii
    have short' : numeral.text.length < 2 ^ 63 := by rwa [spelled, String.length_toList]
    obtain ⟨decimal, bound, same⟩ := Value.ofNumberLiteral_numeral numeral short'
    rw [spelled, String.ofList_toList] at bound
    exact .inl ⟨numeral, decimal, spelled.symm, bound, same⟩

theorem Describes.represents {text : String}
    (describes : Describes options text.toList shape bounds) (sized : text.length < 2 ^ 63) :
    ∀ bound ∈ bounds, Represents bound.number (Value.ofNumberLiteral bound.number) := by
  intro bound member
  obtain ⟨numbers, fits, listed⟩ := describes.exists_fits
  apply represents_ofNumberLiteral (fits.isNumber _ (listed bound member))
  have shorter := fits.length_le _ (listed bound member)
  rw [String.length_toList, String.length_toList] at shorter
  omega

theorem range?_of_bounds {range : Range} (target : Target) (segment : Segment)
    (found : range.bounds segment.text = .ok (some bounds)) :
    range.range? target segment = .ok (some (fragment range.options target segment bounds)) := by
  rw [range?, found]
  rfl

/-- A segment is accepted when its bounds are found. -/
theorem exists_accepts {text : String}
    (evaluated : (ofOptions? options).toOption.any
      (fun range => decide (range.bounds text = .ok (some bounds))) = true)
    (target : Target) (negated : Bool) :
    ∃ range, ofOptions? options = .ok range ∧ range.bounds text = .ok (some bounds) ∧
      range.range? target ⟨text, negated⟩ =
        .ok (some (fragment range.options target ⟨text, negated⟩ bounds)) := by
  obtain ⟨range, made, found⟩ := Except.exists_of_any_toOption evaluated
  have found := of_decide_eq_true found
  exact ⟨range, made, found, range?_of_bounds target ⟨text, negated⟩ found⟩

/-- With the usual numbers and any other options, what an accepted segment binds are its
numbers.  A text that is kept in memory is always short enough. -/
theorem range?_values (usual : options.UsualNumber) {range : Range}
    (made : ofOptions? options = .ok range) {target : Target} {segment : Segment}
    (sized : segment.text.length < 2 ^ 63) {fragment : Fragment}
    (accepted : range.range? target segment = .ok (some fragment)) :
    ∃ shape bounds, range.bounds segment.text = .ok (some bounds) ∧
      Describes options segment.text.toList shape bounds ∧
      ∀ name value, fragment.params.get? name = some value →
        ∃ bound ∈ bounds, name = boundParam target segment bound ∧
          Represents bound.number value := by
  rcases bounds_describes usual made segment.text with
    ⟨found, -⟩ | ⟨bounds, found, shape, describes⟩
  · simp [range?, found, Except.map] at accepted
  · rw [range?_of_bounds target segment found, Except.ok.injEq, Option.some.injEq] at accepted
    subst accepted
    refine ⟨shape, bounds, found, describes, ?_⟩
    intro name value bound
    obtain ⟨item, member, entry⟩ := List.mem_map.mp (Params.mem_of_get?_ofList bound)
    obtain ⟨rfl, rfl⟩ := Prod.mk.inj entry
    exact ⟨item, member, rfl, describes.represents sized item member⟩

theorem range?_values_half :
    ∃ range fragment, ofOptions? .standard = .ok range ∧
      range.range? ⟨"price", .mySql, none⟩ ⟨"<-.5", false⟩ = .ok (some fragment) ∧
      ∀ name value, fragment.params.get? name = some value → Represents "-.5" value := by
  have evaluated : (ofOptions? .standard).toOption.any
      (fun range => decide (range.bounds "<-.5" = .ok (some [⟨.less, "-.5"⟩]))) = true := by
    decide +kernel
  obtain ⟨range, made, known, accepted⟩ := exists_accepts evaluated ⟨"price", .mySql, none⟩ false
  refine ⟨range, _, made, accepted, ?_⟩
  obtain ⟨_, _, found, -, represented⟩ := range?_values rfl made (by decide) accepted
  obtain rfl := Option.some.inj (Except.ok.inj (known.symm.trans found))
  intro name value bound
  obtain ⟨_, member, -, represents⟩ := represented name value bound
  obtain rfl := List.mem_singleton.mp member
  exact represents

/-- A digit of another script is bound as a text. -/
theorem range?_values_foreign :
    ∃ range fragment name, ofOptions? .standard = .ok range ∧
      range.range? ⟨"price", .mySql, none⟩ ⟨"<\u0663", false⟩ = .ok (some fragment) ∧
      fragment.params.get? name = some (.string "\u0663") := by
  have evaluated : (ofOptions? .standard).toOption.any
      (fun range => decide (range.bounds "<\u0663" = .ok (some [⟨.less, "\u0663"⟩]))) = true := by
    decide +kernel
  obtain ⟨range, made, -, accepted⟩ := exists_accepts evaluated ⟨"price", .mySql, none⟩ false
  have text : Value.ofNumberLiteral "\u0663" = .string "\u0663" := by
    decide +kernel
  refine ⟨range, _, boundParam ⟨"price", .mySql, none⟩ ⟨"<\u0663", false⟩ ⟨.less, "\u0663"⟩, made,
    accepted, ?_⟩
  simp [fragment, Params.get?_ofList, text]

end Range

end ColumnFilter
