import ColumnFilter.Proofs.Chain.Acceptor

/-!
# Inverted segments

An inverted segment selects the rows that the plain one rejects, and a row that
the plain one knows nothing about stays unknown.  Each strategy inverts its
conditions in its own way: most flip their operators, but a position of zero
is not the flipped form of a position above zero.
-/

namespace ColumnFilter

/-- What may be assumed of a row in a dialect: inverse operators are
complementary, and where patterns are matched by position, that position is
missing or a natural number. -/
structure Valuation.Lawful (row : Valuation) (dialect : Dialect) : Prop
    extends row.Complementary where
  position : dialect = .sqlServer ∨ dialect = .sqlServer2012 →
    ∀ arguments, ∃ position : Option Nat,
      row.compare (.call "PATINDEX" arguments) .greater (.literal "0") =
          position.elim .unknown (fun place => .ofBool (0 < place)) ∧
        row.compare (.call "PATINDEX" arguments) .equal (.literal "0") =
          position.elim .unknown (fun place => .ofBool (place = 0))

/-- A row in which every operand is the same number, or missing; patterns match
where that number is above zero. -/
def Valuation.ofNumber (number : Option Nat) : Valuation where
  compare _ operator _ := number.elim .unknown fun n => .ofBool <|
    match operator with
    | .equal => n == 0
    | .notEqual => n != 0
    | .less => false
    | .lessOrEqual => n == 0
    | .greater => n != 0
    | .greaterOrEqual => true
    | .like => n != 0
    | .notLike => n == 0
    | .regexp => n != 0
    | .notRegexp => n == 0
  among _ _ negated := number.elim .unknown fun n => .ofBool ((n == 0) == negated)

theorem Valuation.lawful_ofNumber (number : Option Nat) (dialect : Dialect) :
    (ofNumber number).Lawful dialect where
  compare_inverse left operator right := by
    cases number with
    | none => rfl
    | some n => cases n <;> cases operator <;> rfl
  among_not operand values negated := by
    cases number with
    | none => rfl
    | some n => cases n <;> cases negated <;> rfl
  position _ _ := by
    refine ⟨number, ?_⟩
    cases number with
    | none => exact ⟨rfl, rfl⟩
    | some n => cases n <;> exact ⟨rfl, rfl⟩

namespace Dialect

/-- No match is what is left when a match is excluded, also where matches are
counted from one. -/
theorem truth_patternCondition {dialect : Dialect} {row : Valuation}
    (lawful : row.Lawful dialect) (operand : Expr) (param : String) :
    (dialect.patternCondition operand true param).truth row =
      ((dialect.patternCondition operand false param).truth row).not := by
  have counted : (dialect = .sqlServer ∨ dialect = .sqlServer2012) →
      row.compare (.call "PATINDEX" [.param param, operand]) .equal (.literal "0") =
        (row.compare (.call "PATINDEX" [.param param, operand]) .greater
          (.literal "0")).not := by
    intro positional
    obtain ⟨position, above, zero⟩ := lawful.position positional [.param param, operand]
    rw [above, zero]
    cases position with
    | none => rfl
    | some place => cases place <;> rfl
  cases dialect with
  | mySql => exact lawful.compare_inverse operand .regexp (.param param)
  | postgres =>
      exact lawful.compare_inverse (.cast operand "TEXT") .regexp (.param param)
  | sqlServer => exact counted (.inl rfl)
  | sqlServer2012 => exact counted (.inr rfl)

end Dialect

namespace Strategy.Makes

variable {strategy : Strategy} {target : Target} {text : String}
  {fragment other : Fragment}

/-- The bindings of a segment do not depend on its inversion. -/
theorem params_inverted {negated inverted : Bool}
    (first : strategy.Makes target ⟨text, negated⟩ fragment)
    (second : strategy.Makes target ⟨text, inverted⟩ other) :
    fragment.params = other.params := by
  cases first with
  | range found =>
      cases second with
      | range again =>
          obtain rfl : _ = _ := Option.some.inj (Except.ok.inj (found.symm.trans again))
          rfl
  | exact marked =>
      cases second with
      | exact again =>
          obtain rfl : _ = _ := Option.some.inj (marked.symm.trans again)
          rfl
  | substring marked =>
      cases second with
      | substring again =>
          obtain rfl : _ = _ := Option.some.inj (marked.symm.trans again)
          unfold Marked.partFragment
          split <;> rfl
  | regex marked =>
      cases second with
      | regex again =>
          obtain rfl : _ = _ := Option.some.inj (marked.symm.trans again)
          rfl
  | words options =>
      cases second with
      | words _ =>
          unfold Words.fragment
          simp only
          split <;> rfl

/-- A segment that restricts nothing does so when it is inverted as well; any
other is unknown, rejected and selected where the plain one is unknown,
selected and rejected. -/
theorem truth_inverted (plain : strategy.Makes target ⟨text, false⟩ fragment)
    (inverted : strategy.Makes target ⟨text, true⟩ other) :
    (fragment.isAlways = true ∧ other.isAlways = true) ∨
      ∀ row : Valuation, row.Lawful target.dialect →
        other.condition.truth row = (fragment.condition.truth row).not := by
  cases plain with
  | range found =>
      cases inverted with
      | range again =>
          obtain rfl : _ = _ := Option.some.inj (Except.ok.inj (found.symm.trans again))
          exact .inr fun row lawful =>
            Condition.truth_negate lawful.toComplementary _
  | exact marked =>
      cases inverted with
      | exact again =>
          obtain rfl : _ = _ := Option.some.inj (marked.symm.trans again)
          exact .inr fun row lawful =>
            Condition.truth_negate lawful.toComplementary _
  | substring marked =>
      cases inverted with
      | substring again =>
          obtain rfl : _ = _ := Option.some.inj (marked.symm.trans again)
          unfold Marked.partFragment
          split
          · exact .inl ⟨rfl, rfl⟩
          · exact .inr fun row lawful =>
              Condition.truth_negate lawful.toComplementary _
  | regex marked =>
      cases inverted with
      | regex again =>
          exact .inr fun row lawful => Dialect.truth_patternCondition lawful _ _
  | words options =>
      cases inverted with
      | words _ =>
          unfold Words.fragment
          simp only
          split
          · exact .inl ⟨rfl, rfl⟩
          · exact .inr fun row lawful =>
              Condition.truth_negate lawful.toComplementary _

end Strategy.Makes

namespace Chain

private theorem map_eq_error_iff {ε α β : Type} (f : α → β) {result : Except ε α}
    {error : ε} : result.map f = .error error ↔ result = .error error := by
  cases result <;> simp [Except.map]

/-- Inverting a segment changes neither whether it is refused, nor for what
reason, nor its bindings.  Unless it restricts nothing either way, the inverted
segment means the opposite: where no comparison is unknown, a row is selected
by exactly one of the two. -/
theorem resolve_inverted (chain : Chain) (target : Target) (steady : target.Steady)
    (text : String) (earlier later : List Probe) :
    (∀ error,
      ((chain.resolve target ⟨text, false⟩).run earlier).1 = .error error ↔
        ((chain.resolve target ⟨text, true⟩).run later).1 = .error error) ∧
    ∀ plain inverted,
      ((chain.resolve target ⟨text, false⟩).run earlier).1 = .ok plain →
      ((chain.resolve target ⟨text, true⟩).run later).1 = .ok inverted →
        plain.params = inverted.params ∧
        ((plain.isAlways = true ∧ inverted.isAlways = true) ∨
          ∀ row : Valuation, row.Lawful target.dialect →
            inverted.condition.truth row = (plain.condition.truth row).not ∧
            ((∀ leaf ∈ plain.condition.leaves, leaf.truth row ≠ .unknown) →
              (inverted.condition.truth row = .yes ↔
                plain.condition.truth row ≠ .yes))) := by
  have sameStrategy := chain.strategyFor_inverted target text false true
  rw [chain.steady_resolve steady _ earlier, chain.steady_resolve steady _ later]
  constructor
  · intro error
    have accepts := (chain.strategyFor target ⟨text, true⟩).map_isSome_accept target text
      false true []
    have plainly := chain.map_some_result_resolve steady ⟨text, false⟩
    have invertedly := chain.map_some_result_resolve steady ⟨text, true⟩
    rw [sameStrategy] at plainly
    have same : ((chain.resolve target ⟨text, false⟩).result.map some).map Option.isSome =
        ((chain.resolve target ⟨text, true⟩).result.map some).map Option.isSome := by
      rw [plainly, invertedly]
      exact accepts
    rw [← Probed.result, ← Probed.result, ← map_eq_error_iff some,
      ← map_eq_error_iff Option.isSome, same, map_eq_error_iff, map_eq_error_iff]
  · intro plain inverted plainly invertedly
    have first := makes_of_resolve steady plainly
    have second := makes_of_resolve steady invertedly
    rw [sameStrategy] at first
    refine ⟨first.params_inverted second, ?_⟩
    rcases first.truth_inverted second with vacant | opposite
    · exact .inl vacant
    · refine .inr fun row lawful => ⟨opposite row lawful, fun known => ?_⟩
      rw [opposite row lawful]
      exact Truth.not_eq_yes_iff (Condition.truth_ne_unknown _ known)

/-- A row that matches at a position is selected by a pattern and not by its
inversion. -/
theorem resolve_inverted_position :
    let chain : Chain := ⟨[⟨"regex", 0, .regex (.standard "/")⟩]⟩
    let target : Target :=
      ⟨"code", .sqlServer, some ⟨"mssql", fun _ => ProbeAnswer.accepted⟩⟩
    let row := Valuation.ofNumber (some 3)
    ∃ plain inverted,
      ((chain.resolve target ⟨"/x/", false⟩).run []).1 = .ok plain ∧
      ((chain.resolve target ⟨"/x/", true⟩).run []).1 = .ok inverted ∧
      plain.params = inverted.params ∧
      row.Lawful target.dialect ∧
      (∀ leaf ∈ plain.condition.leaves, leaf.truth row ≠ .unknown) ∧
      inverted.condition.truth row = (plain.condition.truth row).not ∧
      (inverted.condition.truth row = .yes ↔ plain.condition.truth row ≠ .yes) := by
  intro chain target row
  have steady : target.Steady := by
    rintro connection ⟨⟩ pattern earlier
    rfl
  have lawful := Valuation.lawful_ofNumber (some 3) target.dialect
  have plain : ((chain.resolve target ⟨"/x/", false⟩).run []).1 =
      .ok (target.dialect.patternFragment (target.operand true) "x" false
        (parameterName "regex" "/x/" "code")) := rfl
  have inverted : ((chain.resolve target ⟨"/x/", true⟩).run []).1 =
      .ok (target.dialect.patternFragment (target.operand true) "x" true
        (parameterName "regex" "/x/" "code")) := rfl
  obtain ⟨params, vacant | opposite⟩ :=
    (chain.resolve_inverted target steady "/x/" [] []).2 _ _ plain inverted
  · exact absurd vacant.1 (by decide)
  · obtain ⟨truth, selected⟩ := opposite row lawful
    refine ⟨_, _, plain, inverted, params, lawful, ?known, truth, selected ?known⟩
    intro leaf found
    rw [List.mem_singleton.mp found]
    decide

end Chain

end ColumnFilter
