import ColumnFilter.Connection.Parameter
import ColumnFilter.Proofs.Connection.Published

/-!
# Decimals as parameters of 96 bits

A decimal is sent in the form in which it is written, which is read again.  The forms are
read as they are or fail, with one exception: in the plain one, digits for which there is no
room are rounded away, so that another number is sent.
-/

namespace ColumnFilter

open Numeral (value)

namespace Decimal

variable {number : Decimal}

/-- The exponent of the form with one digit in front of the point, without its sign. -/
def exponent (number : Decimal) : Int := number.writtenScale - (number.digitCount - 1)

/-- There is room for the exponent of the written form, but not for all places. -/
def IsCramped (number : Decimal) : Prop :=
  number.IsScientific ∧ number.exponent ≤ 28 ∧ 28 < number.writtenScale

/-- There is such a number of 96 bits, and the written form leads to it. -/
def IsSent (number : Decimal) : Prop :=
  Numeric.Fits number.toRat ∧ (number.IsScientific → number.writtenScale ≤ 28)

/-- The written form is no number of 96 bits, however much it is rounded. -/
def IsRefused (number : Decimal) : Prop :=
  (¬number.IsScientific ∧ (Numeric.limit : ℚ) - 1 / 2 ≤ |number.toRat|) ∨
    (number.IsScientific ∧ 28 < number.exponent)

/-- What the written form of a decimal is read as. -/
structure ReadAs (number : Decimal) (result : Except NumericError Numeric) : Prop where
  sent : (∃ carried, result = .ok carried ∧ carried.toRat = number.toRat) ↔ number.IsSent
  refused : (∃ error, result = .error error) ↔ number.IsRefused
  near : ∀ carried, result = .ok carried →
    |carried.toRat - number.toRat| ≤ 1 / 2 / 10 ^ carried.places

theorem exponent_le (number : Decimal) : number.exponent ≤ number.writtenScale := by
  have := number.digitCount_pos
  unfold exponent
  omega

theorem IsSent.not_isRefused (sent : number.IsSent) : ¬number.IsRefused := by
  obtain ⟨⟨carried, same⟩, few⟩ := sent
  rintro (⟨-, large⟩ | ⟨scientific, far⟩)
  · have := carried.size_le
    rw [← same, carried.abs_toRat] at large
    linarith
  · have := few scientific
    have := number.exponent_le
    omega

theorem isRefused_iff_of_not (low : ¬number.IsScientific) :
    number.IsRefused ↔ (Numeric.limit : ℚ) - 1 / 2 ≤ |number.toRat| := by
  simp [IsRefused, low]

theorem readAs_of_isSent (sent : number.IsSent) {carried : Numeric}
    (same : carried.toRat = number.toRat) : number.ReadAs (.ok carried) := by
  refine ⟨iff_of_true ⟨carried, rfl, same⟩ sent, iff_of_false (by simp) sent.not_isRefused, ?_⟩
  rintro carried' ⟨⟩
  rw [same, sub_self, abs_zero]
  positivity

theorem readAs_of_isRefused (refused : number.IsRefused) (error : NumericError) :
    number.ReadAs (.error error) :=
  ⟨iff_of_false (by simp) (fun sent => sent.not_isRefused refused),
    iff_of_true ⟨error, rfl⟩ refused, by simp⟩

theorem abs_toRat_of_integer {exponent : Nat} (scale : -number.writtenScale = exponent) :
    |number.toRat| = (number.digits.natAbs * 10 ^ exponent : Nat) := by
  rw [toRat_eq_mul, scale, zpow_natCast, abs_mul,
    abs_of_pos (by positivity : (0 : ℚ) < 10 ^ exponent)]
  push_cast
  rw [Nat.cast_natAbs, Int.cast_abs]

section Reading

variable {reader : NumericReader} (published : reader.Published)

include published

theorem readAs_plain (low : ¬number.IsScientific) (high : ¬number.IsExponential) :
    number.ReadAs (reader.read? number.toText) := by
  obtain ⟨numeral, spelled, shows⟩ := exists_plain low high
  have same : numeral.toRat = number.toRat := shows.toRat_eq.trans number.toRat_expanded
  obtain ⟨unmarked, rejected⟩ := published.unmarked numeral
  have overflow := published.overflow numeral
  rw [same, ← isRefused_iff_of_not low] at overflow
  rw [NumericReader.read?, spelled, rejected]
  cases read : reader.plain? numeral.text with
  | error error => exact readAs_of_isRefused (overflow.mp ⟨error, read⟩) unmarked
  | ok carried =>
      refine ⟨⟨?_, ?_⟩, iff_of_false (by simp) ?_, ?_⟩
      · rintro ⟨carried, -, equal⟩
        exact ⟨⟨carried, equal⟩, fun scientific => absurd scientific low⟩
      · rintro ⟨fits, -⟩
        rw [← same] at fits
        obtain ⟨carried', read', equal⟩ := published.exactly numeral fits
        obtain rfl := Except.ok.inj (read.symm.trans read')
        exact ⟨carried, rfl, equal.trans same⟩
      · intro refused
        obtain ⟨error, failed⟩ := overflow.mpr refused
        cases read.symm.trans failed
      · rintro carried' ⟨⟩
        rw [← same]
        exact published.rounded read

theorem readAs_exponential (low : ¬number.IsScientific) (high : number.IsExponential) :
    number.ReadAs (reader.read? number.toText) := by
  obtain ⟨numeral, pointless, spelled, shows⟩ := exists_exponential low high
  obtain ⟨exponent, scale⟩ : ∃ exponent : Nat, -number.writtenScale = exponent :=
    Int.eq_ofNat_of_zero_le (by unfold IsExponential at high; omega)
  have size := abs_toRat_of_integer scale
  have whole : value numeral.whole = number.digits.natAbs := by
    rw [← shows.value_eq, pointless, List.append_nil]
  have mark : isExponentMark 'e' = true := rfl
  obtain ⟨error, rejected⟩ := published.plain_mark numeral mark ('+' :: natDigits exponent)
  rw [NumericReader.read?, spelled, scale, Int.toNat_natCast, rejected]
  by_cases small : number.digits.natAbs * 10 ^ exponent < Numeric.limit
  · have near : exponent ≤ 28 := by
      have present : number.digits.natAbs ≠ 0 := by
        intro zero
        simp [IsExponential, writtenScale, Int.natAbs_eq_zero.mp zero] at high
      by_contra far
      exact absurd small (Nat.not_lt.mpr (Numeric.limit_le_mul_pow present (by omega)))
    obtain ⟨carried, read, product⟩ :=
      published.raised pointless mark near (by rwa [whole])
    have equal : carried.toRat = number.toRat := by
      rw [product, shows.toRat_eq, toRat_eq_mul number, scale, zpow_natCast, toRat]
      simp
    rw [read]
    exact readAs_of_isSent ⟨⟨carried, equal⟩, fun scientific => absurd scientific low⟩ equal
  · have large : Numeric.limit ≤ number.digits.natAbs * 10 ^ exponent := Nat.le_of_not_lt small
    obtain ⟨error, failed⟩ := published.raised_overflow pointless mark (by rwa [whole])
    have large' : (Numeric.limit : ℚ) ≤ |number.toRat| := by
      rw [size]
      exact_mod_cast large
    rw [failed]
    exact readAs_of_isRefused ((isRefused_iff_of_not low).mpr (by linarith)) error

theorem readAs_scientific (low : number.IsScientific) (roomy : ¬number.IsCramped) :
    number.ReadAs (reader.read? number.toText) := by
  obtain ⟨numeral, -, spelled, shows⟩ := exists_scientific low
  have wide : number.digitCount + 5 < number.writtenScale := low
  have behind : (numeral.fraction.length : Int) = number.digitCount - 1 := shows.places
  obtain ⟨distance, scale⟩ : ∃ distance : Nat,
      number.writtenScale - (number.digitCount - 1) = distance :=
    Int.eq_ofNat_of_zero_le (by omega)
  have mark : isExponentMark 'E' = true := rfl
  obtain ⟨error, rejected⟩ := published.plain_mark numeral mark ('-' :: natDigits distance)
  rw [NumericReader.read?, spelled, scale, Int.toNat_natCast, rejected]
  by_cases few : number.writtenScale ≤ 28
  · have small : value (numeral.whole ++ numeral.fraction) < Numeric.limit :=
      calc value (numeral.whole ++ numeral.fraction)
          = number.digits.natAbs := shows.value_eq
        _ < 10 ^ number.digitCount := number.lt_pow_digitCount
        _ ≤ 10 ^ 28 := Nat.pow_le_pow_right (by omega) (by omega)
        _ ≤ Numeric.limit := by decide
    have room : numeral.fraction.length + distance ≤ 28 := by omega
    obtain ⟨carried, read, quotient⟩ := published.lowered small mark room
    have equal : carried.toRat = number.toRat := by
      rw [quotient, shows.toRat_eq, toRat_eq_mul number, toRat]
      have total : number.writtenScale = (number.digitCount - 1 : Int) + distance := by omega
      rw [total, neg_add, zpow_add₀ (by norm_num), zpow_neg _ (distance : Int), zpow_natCast]
      ring
    rw [read]
    exact readAs_of_isSent ⟨⟨carried, equal⟩, fun _ => few⟩ equal
  · have far : 28 < number.exponent := by
      by_contra near
      exact roomy ⟨low, by omega, by omega⟩
    have far' : 28 < distance := by
      unfold exponent at far
      omega
    obtain ⟨error, failed⟩ := published.lowered_overflow numeral mark far'
    rw [failed]
    exact readAs_of_isRefused (.inr ⟨low, far⟩) error

theorem readAs_toText (roomy : ¬number.IsCramped) :
    number.ReadAs (reader.read? number.toText) := by
  by_cases low : number.IsScientific
  · exact readAs_scientific published low roomy
  · by_cases high : number.IsExponential
    · exact readAs_exponential published low high
    · exact readAs_plain published low high

end Reading

end Decimal

namespace NumericReader

variable (reader : NumericReader)

/-- The written form of the decimal is read as the number that it is. -/
def Carries (number : Decimal) : Prop :=
  ∃ carried, reader.read? number.toText = .ok carried ∧ carried.toRat = number.toRat

/-- The written form of the decimal is not read as a number. -/
def Refuses (number : Decimal) : Prop := ∃ error, reader.read? number.toText = .error error

end NumericReader

namespace PostgresParameter

/-- The parameter is the one for the value, where `carries` says which number is right for a
decimal. -/
inductive Stands (carries : Decimal → Numeric → Prop) : Value → PostgresParameter → Prop
  | int (n : Int64) : Stands carries (.int n) (.int n)
  | decimal {number : Decimal} {carried : Numeric} (right : carries number carried) :
      Stands carries (.decimal number) (.numeric carried)
  | string (content : String) : Stands carries (.string content) (.text content)
  | null : Stands carries .null .null

/-- The number itself is sent. -/
def Exact (number : Decimal) (carried : Numeric) : Prop := carried.toRat = number.toRat

/-- The number is sent up to a half of the last place, if there is room for the places of its
exponent. -/
def Near (number : Decimal) (carried : Numeric) : Prop :=
  ¬number.IsCramped → |carried.toRat - number.toRat| ≤ 1 / 2 / 10 ^ carried.places

variable {reader : NumericReader}

section Single

variable {value : Value}

theorem ofValue?_decimal (reader : NumericReader) (number : Decimal) :
    ofValue? reader (.decimal number) =
      match reader.read? number.toText with
      | .ok carried => .ok (.numeric carried)
      | .error error => .error ⟨number, error⟩ := rfl

theorem ofValue?_near (published : reader.Published) {parameter : PostgresParameter}
    (sent : ofValue? reader value = .ok parameter) : Stands Near value parameter := by
  cases value with
  | decimal number =>
      rw [ofValue?_decimal] at sent
      cases read : reader.read? number.toText with
      | error error => simp [read] at sent
      | ok carried =>
          obtain rfl : .numeric carried = parameter := by simpa [read] using sent
          exact .decimal fun roomy => (Decimal.readAs_toText published roomy).near carried read
  | _ =>
      obtain rfl := Except.ok.inj sent
      constructor

theorem ofValue?_exact_iff :
    (∃ parameter, ofValue? reader value = .ok parameter ∧ Stands Exact value parameter) ↔
      ∀ number, value = .decimal number → reader.Carries number := by
  cases value with
  | decimal number =>
      rw [ofValue?_decimal]
      simp only [Value.decimal.injEq, forall_eq', NumericReader.Carries]
      cases reader.read? number.toText with
      | error error => simp
      | ok carried =>
          constructor
          · rintro ⟨_, ⟨⟩, stands⟩
            cases stands with
            | decimal same => exact ⟨carried, rfl, same⟩
          · rintro ⟨_, ⟨⟩, same⟩
            exact ⟨_, rfl, .decimal same⟩
  | _ => exact iff_of_true ⟨_, rfl, by constructor⟩ (fun _ other => by cases other)

theorem ofValue?_error_iff {number : Decimal} :
    (∃ error, ofValue? reader value = .error ⟨number, error⟩) ↔
      value = .decimal number ∧ reader.Refuses number := by
  cases value with
  | decimal number' =>
      rw [ofValue?_decimal, Value.decimal.injEq]
      constructor
      · rintro ⟨error, failed⟩
        cases read : reader.read? number'.toText with
        | ok carried => simp [read] at failed
        | error error' =>
            obtain ⟨rfl, rfl⟩ : number' = number ∧ error' = error := by
              simpa [read] using failed
            exact ⟨rfl, error', read⟩
      · rintro ⟨rfl, error, read⟩
        exact ⟨error, by rw [read]⟩
  | _ => exact iff_of_false (by simp [ofValue?]) (by simp)

end Single

theorem ofValues?_cons_eq_ok_iff {value : Value} {values : List Value}
    {parameters : List PostgresParameter} :
    ofValues? reader (value :: values) = .ok parameters ↔
      ∃ first later, ofValue? reader value = .ok first ∧ ofValues? reader values = .ok later ∧
        parameters = first :: later := by
  rw [ofValues?]
  cases ofValue? reader value with
  | error error => simp
  | ok first => cases ofValues? reader values <;> simp [Except.map, eq_comm]

theorem ofValues?_cons_eq_error_iff {value : Value} {values : List Value}
    {error : UnsupportedParameter} :
    ofValues? reader (value :: values) = .error error ↔
      ofValue? reader value = .error error ∨
        (∃ first, ofValue? reader value = .ok first) ∧ ofValues? reader values = .error error := by
  rw [ofValues?]
  cases ofValue? reader value with
  | error error => simp
  | ok first => cases ofValues? reader values <;> simp [Except.map]

theorem ofValues?_eq_ok_iff {values : List Value} {parameters : List PostgresParameter} :
    ofValues? reader values = .ok parameters ↔
      List.Forall₂ (fun value parameter => ofValue? reader value = .ok parameter) values
        parameters := by
  induction values generalizing parameters with
  | nil => simp [ofValues?, eq_comm]
  | cons value values induction =>
      simp only [ofValues?_cons_eq_ok_iff, List.forall₂_cons_left_iff, induction]

/-- The first value that cannot be sent is the one that is reported. -/
theorem ofValues?_eq_error_iff {values : List Value} {error : UnsupportedParameter} :
    ofValues? reader values = .error error ↔
      ∃ before value after, values = before ++ value :: after ∧
        ofValue? reader value = .error error ∧
        ∀ earlier ∈ before, ∃ parameter, ofValue? reader earlier = .ok parameter := by
  induction values with
  | nil => simp [ofValues?]
  | cons value values induction =>
      rw [ofValues?_cons_eq_error_iff, induction]
      constructor
      · rintro (failed | ⟨sent, before, failing, after, rfl, failed, sents⟩)
        · exact ⟨[], value, values, rfl, failed, by simp⟩
        · exact ⟨value :: before, failing, after, rfl, failed,
            List.forall_mem_cons.mpr ⟨sent, sents⟩⟩
      · rintro ⟨before, failing, after, split, failed, sents⟩
        cases before with
        | nil =>
            obtain ⟨rfl, rfl⟩ := List.cons.inj split
            exact .inl failed
        | cons first before =>
            obtain ⟨rfl, rfl⟩ := List.cons.inj split
            obtain ⟨sent, sents⟩ := List.forall_mem_cons.mp sents
            exact .inr ⟨sent, before, failing, after, rfl, failed, sents⟩

theorem exists_ofValue?_iff {value : Value} :
    (∃ parameter, ofValue? reader value = .ok parameter) ↔
      ∀ number, value = .decimal number → ¬reader.Refuses number := by
  constructor
  · rintro ⟨parameter, sent⟩ number rfl refused
    obtain ⟨error, failed⟩ := ofValue?_error_iff.mpr ⟨rfl, refused⟩
    cases sent.symm.trans failed
  · intro accepted
    cases result : ofValue? reader value with
    | ok parameter => exact ⟨parameter, rfl⟩
    | error error =>
        obtain ⟨number, error⟩ := error
        obtain ⟨rfl, refused⟩ := ofValue?_error_iff.mp ⟨error, result⟩
        exact absurd refused (accepted number rfl)

theorem ofValues?_exact_iff {values : List Value} :
    (∃ parameters, ofValues? reader values = .ok parameters ∧
        List.Forall₂ (Stands Exact) values parameters) ↔
      ∀ value ∈ values, ∃ parameter, ofValue? reader value = .ok parameter ∧
        Stands Exact value parameter := by
  induction values with
  | nil => exact iff_of_true ⟨[], rfl, .nil⟩ (by simp)
  | cons value values induction =>
      rw [List.forall_mem_cons, ← induction]
      constructor
      · rintro ⟨parameters, sent, stands⟩
        obtain ⟨first, later, single, sents, rfl⟩ := ofValues?_cons_eq_ok_iff.mp sent
        obtain ⟨right, rights⟩ := List.forall₂_cons.mp stands
        exact ⟨⟨first, single, right⟩, later, sents, rights⟩
      · rintro ⟨⟨first, single, right⟩, later, sents, rights⟩
        exact ⟨first :: later, ofValues?_cons_eq_ok_iff.mpr ⟨first, later, single, sents, rfl⟩,
          .cons right rights⟩

/-- What comes of a list of values.  There is one parameter for each, in their order; all
numbers arrive as they are if each is read so; and a failure is that of the first decimal that is
not read as a number. -/
structure Sends (reader : NumericReader) (values : List Value) : Prop where
  near : ∀ parameters, ofValues? reader values = .ok parameters →
    List.Forall₂ (Stands Near) values parameters
  exactly : (∃ parameters, ofValues? reader values = .ok parameters ∧
      List.Forall₂ (Stands Exact) values parameters) ↔
    ∀ number, .decimal number ∈ values → reader.Carries number
  refused : ∀ number, (∃ error, ofValues? reader values = .error ⟨number, error⟩) ↔
    ∃ before after, values = before ++ .decimal number :: after ∧ reader.Refuses number ∧
      ∀ earlier, .decimal earlier ∈ before → ¬reader.Refuses earlier

theorem sends (published : reader.Published) (values : List Value) : Sends reader values where
  near parameters sent := (ofValues?_eq_ok_iff.mp sent).imp fun _ _ => ofValue?_near published
  exactly := by
    rw [ofValues?_exact_iff]
    simp only [ofValue?_exact_iff]
    exact ⟨fun sents number member => sents _ member number rfl,
      fun sents _ member number same => sents number (same ▸ member)⟩
  refused number := by
    simp only [ofValues?_eq_error_iff, exists_ofValue?_iff]
    constructor
    · rintro ⟨error, before, value, after, rfl, failed, sents⟩
      obtain ⟨rfl, refused⟩ := ofValue?_error_iff.mp ⟨error, failed⟩
      exact ⟨before, after, rfl, refused, fun earlier member => sents _ member earlier rfl⟩
    · rintro ⟨before, after, rfl, refused, sents⟩
      obtain ⟨error, failed⟩ := ofValue?_error_iff.mpr ⟨rfl, refused⟩
      refine ⟨error, before, _, after, rfl, failed, ?_⟩
      rintro _ member earlier rfl
      exact sents earlier member

/-- Unless there is room for the exponent of a decimal but not for its places, it is read as it
is exactly if it is a number of 96 bits and its exponent leads to no more than 28 places, and it is
refused exactly if it is too large or its exponent has more than 28 places.  All others are
sent, but not as they are. -/
theorem ofValues?_decimals (published : reader.Published) :
    (∀ number : Decimal, ¬number.IsCramped →
      (reader.Carries number ↔ number.IsSent) ∧ (reader.Refuses number ↔ number.IsRefused)) ∧
    ∀ values, Sends reader values :=
  ⟨fun _ roomy =>
      ⟨(Decimal.readAs_toText published roomy).sent,
        (Decimal.readAs_toText published roomy).refused⟩,
    sends published⟩

/-- A number with 29 places in its exponent is refused, and what stands behind it is not
looked at. -/
theorem ofValues?_decimals_far :
    NumericReader.standard.Published ∧ ∃ error,
      ofValues? .standard [.int 7, .decimal ⟨150, 2⟩, .decimal ⟨1, 29⟩, .decimal ⟨1, 400⟩] =
        .error ⟨⟨1, 29⟩, error⟩ := by
  have published := NumericReader.standard_published
  obtain ⟨known, sends⟩ := ofValues?_decimals published
  have far : (⟨1, 29⟩ : Decimal).IsScientific ∧ 28 < (⟨1, 29⟩ : Decimal).exponent := by
    decide +kernel
  have plain : ¬(⟨150, 2⟩ : Decimal).IsScientific := by decide +kernel
  have fits : (⟨150, 2⟩ : Decimal).IsSent :=
    ⟨⟨⟨false, 150, 2, by decide, by decide⟩, by norm_num [Numeric.toRat, Numeric.size,
      Decimal.toRat]⟩, fun scientific => absurd scientific plain⟩
  refine ⟨published, ((sends _).refused _).mpr ⟨[.int 7, .decimal ⟨150, 2⟩], _, rfl, ?_, ?_⟩⟩
  · exact (known _ fun cramped => absurd cramped.2.1 (by omega)).2.mpr (.inr far)
  · intro earlier member
    obtain rfl : earlier = ⟨150, 2⟩ := by simpa using member
    rw [(known _ fun cramped => plain cramped.1).2]
    exact fits.not_isRefused

/-- The last of 29 places is rounded away. -/
theorem ofValues?_long :
    ∃ carried : Numeric,
      ofValues? .standard [.decimal ⟨12345678901234567890123456789, 29⟩] =
          .ok [.numeric carried] ∧
        carried.toRat = 0.1234567890123456789012345679 ∧
        carried.toRat ≠ Decimal.toRat ⟨12345678901234567890123456789, 29⟩ := by
  refine ⟨⟨false, 1234567890123456789012345679, 28, by decide, by decide⟩, ?_, ?_, ?_⟩
  · rw [ofValues?, ofValue?, NumericReader.read?, Decimal.toText, String.toList_ofList]
    rfl
  · norm_num [Numeric.toRat, Numeric.size]
  · norm_num [Numeric.toRat, Numeric.size, Decimal.toRat]

end PostgresParameter

end ColumnFilter
