import ColumnFilter.Chain
import ColumnFilter.Proofs.Strategy.Fragments

/-!
# The filter that takes a segment

On a connection whose answers depend on nothing but the pattern, the probes
made before a segment do not matter to it.  Then the filter that takes a
segment can be named without running the chain, and it is the same one whether
the segment is inverted or not.
-/

namespace ColumnFilter

namespace Probed

/-- The probes made before change neither the result nor the probes. -/
def Steady {α : Type} (probed : Probed α) : Prop :=
  ∀ earlier, probed.run earlier = probed.run []

theorem steady_pure {α : Type} (result : α) : (pure result).Steady := fun _ => rfl

theorem Steady.map {α β : Type} {probed : Probed α} (steady : probed.Steady)
    (f : α → β) : (probed.map f).Steady := by
  intro earlier
  rw [run_map, run_map, steady earlier]

theorem Steady.bind {α β : Type} {first : Probed α} {next : α → Probed β}
    (steady : first.Steady) (after : ∀ result, (next result).Steady) :
    (first.bind next).Steady := by
  intro earlier
  rw [run_bind, run_bind, steady earlier, after _ (earlier ++ _), after _ ([] ++ _)]

end Probed

/-- Patterns are tried on no connection, or on one whose answers depend on
nothing but the pattern. -/
def Target.Steady (target : Target) : Prop :=
  ∀ connection ∈ target.connection, connection.Steady

/-- The same patterns are valid in both. -/
def Target.Agrees (target other : Target) : Prop :=
  ∀ pattern earlier,
    ((target.dialect.checkPattern target.connection pattern).run earlier).1 =
      ((other.dialect.checkPattern other.connection pattern).run earlier).1

theorem Dialect.steady_checkPattern (dialect : Dialect) {connection : Option Connection}
    (steady : ∀ live ∈ connection, live.Steady) (pattern : String) :
    (dialect.checkPattern connection pattern).Steady := by
  cases connection with
  | none => exact Probed.steady_pure _
  | some live =>
      intro earlier
      simp only [checkPattern, steady live rfl pattern earlier]

namespace Strategy

theorem steady_accept (strategy : Strategy) {target : Target} (steady : target.Steady)
    (segment : Segment) : (strategy.accept target segment).Steady := by
  cases strategy with
  | range ranges => exact Probed.steady_pure _
  | exact options => exact Probed.steady_pure _
  | substring options => exact Probed.steady_pure _
  | words options => exact Probed.steady_pure _
  | regex options =>
      apply Probed.Steady.map
      unfold Marked.searchPattern?
      split
      · exact Probed.steady_pure _
      · exact (target.dialect.steady_checkPattern steady _).map _

/-- Whether a segment is accepted, left alone or refused with an error depends on its
text, and on nothing of the target but the patterns that are valid there. -/
theorem map_isSome_accept_of_agrees (strategy : Strategy) {target target' : Target}
    (agrees : target.Agrees target') (text : String) (negated other : Bool)
    (earlier : List Probe) :
    ((strategy.accept target ⟨text, negated⟩).run earlier).1.map Option.isSome =
      ((strategy.accept target' ⟨text, other⟩).run earlier).1.map Option.isSome := by
  cases strategy with
  | range ranges =>
      simp only [accept, Range.range?, Probed.run_pure]
      cases ranges.bounds text with
      | error problem => rfl
      | ok bounds => cases bounds <;> simp [Except.map]
  | exact options => simp [accept, Marked.searchWhole?, Except.map]
  | substring options => simp [accept, Marked.searchPart?, Except.map]
  | words options => simp [accept, Except.map]
  | regex options =>
      simp only [accept, Marked.searchPattern?]
      cases options.markers.strip? text with
      | none => rfl
      | some inner =>
          simp only [Probed.run_map, agrees inner earlier]
          cases ((target'.dialect.checkPattern target'.connection inner).run earlier).1 with
          | error problem => simp [Except.map]
          | ok valid => cases valid <;> simp [Except.map]

theorem map_isSome_accept (strategy : Strategy) (target : Target) (text : String)
    (negated other : Bool) (earlier : List Probe) :
    ((strategy.accept target ⟨text, negated⟩).run earlier).1.map Option.isSome =
      ((strategy.accept target ⟨text, other⟩).run earlier).1.map Option.isSome :=
  strategy.map_isSome_accept_of_agrees (fun _ _ => rfl) text negated other earlier

/-- Does the strategy leave the segment to the ones behind it? -/
def passes (strategy : Strategy) (target : Target) (segment : Segment) : Bool :=
  match (strategy.accept target segment).result with
  | .ok none => true
  | _ => false

theorem passes_eq_of_agrees (strategy : Strategy) {target target' : Target}
    (agrees : target.Agrees target') (text : String) (negated other : Bool) :
    strategy.passes target ⟨text, negated⟩ = strategy.passes target' ⟨text, other⟩ := by
  have same := strategy.map_isSome_accept_of_agrees agrees text negated other []
  unfold passes Probed.result
  generalize ((strategy.accept target ⟨text, negated⟩).run []).1 = left at same ⊢
  generalize ((strategy.accept target' ⟨text, other⟩).run []).1 = right at same ⊢
  cases left with
  | error problem => cases right <;> simp_all [Except.map]
  | ok accepted =>
      cases right with
      | error problem => simp [Except.map] at same
      | ok others => cases accepted <;> cases others <;> simp_all [Except.map]

end Strategy

namespace Chain

/-- The place of the first filter that does not leave the segment alone. -/
def acceptor? (chain : Chain) (target : Target) (segment : Segment) : Option Nat :=
  chain.entries.findIdx? fun entry => !entry.strategy.passes target segment

/-- The strategy that decides about the segment; a segment that every filter
leaves alone is taken as words. -/
def strategyFor (chain : Chain) (target : Target) (segment : Segment) : Strategy :=
  ((chain.acceptor? target segment).bind fun place => chain.entries[place]?).elim
    (.words .standard) ChainEntry.strategy

theorem steady_firstAccepted {target : Target} (steady : target.Steady)
    (segment : Segment) (entries : List ChainEntry) :
    (firstAccepted target segment entries).Steady := by
  induction entries with
  | nil => exact Probed.steady_pure _
  | cons entry entries induction =>
      apply (entry.strategy.steady_accept steady segment).bind
      intro result
      cases result with
      | error problem => exact Probed.steady_pure _
      | ok accepted =>
          cases accepted with
          | none => exact induction
          | some fragment => exact Probed.steady_pure _

theorem steady_resolve (chain : Chain) {target : Target} (steady : target.Steady)
    (segment : Segment) : (chain.resolve target segment).Steady :=
  steady_firstAccepted steady segment chain.entries

theorem result_firstAccepted_cons {target : Target} (steady : target.Steady)
    (segment : Segment) (entry : ChainEntry) (entries : List ChainEntry) :
    (firstAccepted target segment (entry :: entries)).result =
      match (entry.strategy.accept target segment).result with
      | .error error => .error error
      | .ok (some fragment) => .ok fragment
      | .ok none => (firstAccepted target segment entries).result := by
  simp only [firstAccepted, Probed.result, Probed.run_bind]
  cases ((entry.strategy.accept target segment).run []).1 with
  | error problem => rfl
  | ok accepted =>
      cases accepted with
      | none => exact congrArg Prod.fst (steady_firstAccepted steady segment entries _)
      | some fragment => rfl

/-- A segment is compiled by its strategy, as if there were no other. -/
theorem map_some_result_resolve (chain : Chain) {target : Target}
    (steady : target.Steady) (segment : Segment) :
    (chain.resolve target segment).result.map some =
      ((chain.strategyFor target segment).accept target segment).result := by
  obtain ⟨entries⟩ := chain
  simp only [resolve, strategyFor, acceptor?]
  induction entries with
  | nil => rfl
  | cons entry entries induction =>
      rw [result_firstAccepted_cons steady, List.findIdx?_cons]
      cases accepted : (entry.strategy.accept target segment).result with
      | error problem => simp [Strategy.passes, accepted, Except.map]
      | ok found =>
          cases found with
          | some fragment => simp [Strategy.passes, accepted, Except.map]
          | none =>
              have passed : entry.strategy.passes target segment = true := by
                simp [Strategy.passes, accepted]
              simp only [passed, Bool.not_true, Bool.false_eq_true, if_false, induction]
              cases entries.findIdx? fun entry => !entry.strategy.passes target segment <;>
                simp

/-- Neither its inversion nor the spelling of conditions changes which filter takes a
segment. -/
theorem strategyFor_eq_of_agrees (chain : Chain) {target target' : Target}
    (agrees : target.Agrees target') (text : String) (negated other : Bool) :
    chain.strategyFor target ⟨text, negated⟩ = chain.strategyFor target' ⟨text, other⟩ := by
  have same : chain.acceptor? target ⟨text, negated⟩ =
      chain.acceptor? target' ⟨text, other⟩ := by
    unfold acceptor?
    congr 1
    funext entry
    rw [entry.strategy.passes_eq_of_agrees agrees text negated other]
  rw [strategyFor, strategyFor, same]

theorem strategyFor_inverted (chain : Chain) (target : Target) (text : String)
    (negated other : Bool) :
    chain.strategyFor target ⟨text, negated⟩ = chain.strategyFor target ⟨text, other⟩ :=
  chain.strategyFor_eq_of_agrees (fun _ _ => rfl) text negated other

theorem makes_of_resolve {chain : Chain} {target : Target} (steady : target.Steady)
    {segment : Segment} {fragment : Fragment}
    (resolved : (chain.resolve target segment).result = .ok fragment) :
    (chain.strategyFor target segment).Makes target segment fragment := by
  have accepted := chain.map_some_result_resolve steady segment
  rw [resolved] at accepted
  exact Strategy.makes_of_accept accepted.symm

/-- On any connection, and whatever was probed before, the fragment of a segment is
made by one of the strategies. -/
theorem exists_makes_of_resolve {chain : Chain} {target : Target} {segment : Segment}
    {earlier : List Probe} {fragment : Fragment}
    (resolved : ((chain.resolve target segment).run earlier).1 = .ok fragment) :
    ∃ strategy : Strategy, strategy.Makes target segment fragment := by
  obtain ⟨entries⟩ := chain
  simp only [resolve] at resolved
  induction entries generalizing earlier with
  | nil =>
      simp only [firstAccepted, Probed.run_pure, Except.ok.injEq] at resolved
      exact ⟨.words .standard, resolved ▸ .words .standard⟩
  | cons entry entries induction =>
      rw [firstAccepted, Probed.run_bind] at resolved
      rcases accepted : (entry.strategy.accept target segment).run earlier with
        ⟨error | found, probes⟩
      · simp [accepted] at resolved
      · cases found with
        | none => exact induction (by simpa [accepted] using resolved)
        | some other =>
            obtain rfl : other = fragment := by simpa [accepted] using resolved
            exact ⟨entry.strategy, Strategy.makes_of_accept (by rw [accepted])⟩

end Chain

end ColumnFilter
