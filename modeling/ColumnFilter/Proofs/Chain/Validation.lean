import ColumnFilter.Proofs.Chain.Acceptor
import ColumnFilter.Proofs.Chain.Probing

/-!
# Refused patterns

An entry whose pattern the database refuses is passed over as if it were not in
the chain.  Nothing else that a connection answers shows in a fragment, so the
fragment of a segment is what the chain makes of it without a connection, once
the refused entries are taken out.
-/

namespace ColumnFilter

namespace Target

/-- The same column and dialect without a connection. -/
def disconnected (target : Target) : Target := { target with connection := none }

/-- Does the database refuse the pattern?  Where there is none, nothing is refused. -/
def refuses (target : Target) (pattern : String) : Bool :=
  match target.connection with
  | none => false
  | some live =>
      match (live.answer pattern).after [] with
      | .rejected _ => true
      | _ => false

end Target

/-- Does the database refuse the pattern that the strategy finds in a segment? -/
def Strategy.refused (strategy : Strategy) (target : Target) (segment : Segment) : Bool :=
  (strategy.pattern? segment).any target.refuses

/-- The chain without the entries whose pattern was tried for a segment and refused.
Entries are asked up to the first one that does not pass the segment on; nobody
behind it tries anything. -/
def Chain.withoutRefused (chain : Chain) (target : Target) (segment : Segment) : Chain :=
  let passes (entry : ChainEntry) := entry.strategy.passes target segment
  ⟨((chain.entries.takeWhile passes).filter fun entry =>
      !entry.strategy.refused target segment) ++
    chain.entries.dropWhile passes⟩

/-- On a steady connection a pattern that could be checked is valid unless it is refused. -/
theorem Target.valid_of_checkPattern {target : Target} (steady : target.Steady)
    {pattern : String} {earlier : List Probe} {valid : Bool}
    (checked : ((target.dialect.checkPattern target.connection pattern).run earlier).1 =
      .ok valid) : valid = !target.refuses pattern := by
  obtain ⟨column, dialect, connection⟩ := target
  cases connection with
  | none =>
      obtain rfl : true = valid := Except.ok.inj checked
      rfl
  | some live =>
      simp only [Dialect.checkPattern, steady live rfl pattern earlier] at checked
      unfold refuses
      cases answered : (live.answer pattern).after [] <;> simp_all

namespace Strategy

variable {target : Target} {segment : Segment} {earlier : List Probe} {found : Option Fragment}

/-- What a strategy gives on a connection, unless that is an error: nothing if its
pattern was refused, and otherwise what it gives without a connection. -/
theorem accept_cases (strategy : Strategy) (steady : target.Steady)
    (accepted : ((strategy.accept target segment).run earlier).1 = .ok found) :
    (strategy.refused target segment = true ∧ found = none) ∨
      (strategy.refused target segment = false ∧
        ∀ before, (strategy.accept target.disconnected segment).run before =
          (.ok found, [])) := by
  cases strategy with
  | range ranges => exact .inr ⟨rfl, fun before => Prod.ext accepted rfl⟩
  | exact options => exact .inr ⟨rfl, fun before => Prod.ext accepted rfl⟩
  | substring options => exact .inr ⟨rfl, fun before => Prod.ext accepted rfl⟩
  | words options => exact .inr ⟨rfl, fun before => Prod.ext accepted rfl⟩
  | regex options =>
      simp only [accept, Marked.searchPattern?, refused, pattern?] at accepted ⊢
      cases marked : options.markers.strip? segment.text with
      | none =>
          simp only [marked] at accepted
          exact .inr ⟨rfl, fun before => Prod.ext accepted rfl⟩
      | some pattern =>
          simp only [marked, Probed.run_map, Option.any_some] at accepted ⊢
          generalize checked :
            ((target.dialect.checkPattern target.connection pattern).run earlier).1 = result
            at accepted
          cases result with
          | error problem => simp [Except.map] at accepted
          | ok valid =>
              have allowed := Target.valid_of_checkPattern steady checked
              cases refused : target.refuses pattern with
              | true =>
                  rw [refused] at allowed
                  subst allowed
                  exact .inl ⟨rfl, (Except.ok.inj accepted).symm⟩
              | false =>
                  rw [refused] at allowed
                  subst allowed
                  exact .inr ⟨rfl, fun before => Prod.ext accepted rfl⟩

/-- A strategy that gives nothing leaves the segment to the ones behind it. -/
theorem passes_of_accept (strategy : Strategy) (steady : target.Steady)
    (accepted : ((strategy.accept target segment).run earlier).1 = .ok found) :
    strategy.passes target segment = found.isNone := by
  rw [passes, Probed.result, ← strategy.steady_accept steady segment earlier, accepted]
  cases found <;> rfl

/-- A refused pattern was tried. -/
theorem mem_probes_of_refused {strategy : Strategy}
    (refused : strategy.refused target segment = true) :
    ∃ pattern, target.refuses pattern = true ∧
      target.dialect.probe pattern ∈ strategy.probes target segment := by
  unfold Strategy.refused at refused
  obtain ⟨pattern, found, refuses⟩ := (Option.any_eq_true _ _).mp refused
  refine ⟨pattern, refuses, ?_⟩
  unfold Target.refuses at refuses
  cases connected : target.connection with
  | none => simp [connected] at refuses
  | some live => simp [probes, connected, found, Dialect.probe]

end Strategy

namespace Chain

variable {target : Target} {segment : Segment} {earlier probes : List Probe}
  {fragment : Fragment}

/-- A segment that becomes a fragment becomes the same one without a connection, if the
entries with refused patterns are taken out. -/
theorem run_withoutRefused (chain : Chain) (steady : target.Steady)
    (resolved : ((chain.resolve target segment).run earlier).1 = .ok fragment)
    (before : List Probe) :
    ((chain.withoutRefused target segment).resolve target.disconnected segment).run before =
      (.ok fragment, []) := by
  obtain ⟨entries⟩ := chain
  simp only [resolve, withoutRefused] at resolved ⊢
  induction entries generalizing earlier before with
  | nil => exact Prod.ext resolved rfl
  | cons entry entries induction =>
      rw [firstAccepted, Probed.run_bind] at resolved
      rcases accepted : (entry.strategy.accept target segment).run earlier with
        ⟨problem | found, tried⟩
      · simp [accepted] at resolved
      · have passes := entry.strategy.passes_of_accept steady (congrArg Prod.fst accepted)
        rw [accepted] at resolved
        cases found with
        | some taken =>
            obtain rfl : taken = fragment := by simpa using resolved
            rw [List.takeWhile_cons_of_neg (by simp [passes]),
              List.dropWhile_cons_of_neg (by simp [passes])]
            rcases entry.strategy.accept_cases steady (congrArg Prod.fst accepted) with
              ⟨-, absurd⟩ | ⟨-, same⟩
            · contradiction
            · simp [firstAccepted, Probed.run_bind, same]
        | none =>
            have later (before : List Probe) := induction before resolved
            rw [List.takeWhile_cons_of_pos (by simp [passes]),
              List.dropWhile_cons_of_pos (by simp [passes]), List.filter_cons]
            rcases entry.strategy.accept_cases steady (congrArg Prod.fst accepted) with
              ⟨refused, -⟩ | ⟨allowed, same⟩
            · simpa only [refused, Bool.not_true, Bool.false_eq_true, if_false]
                using later before
            · simp [allowed, firstAccepted, Probed.run_bind, same, later]

end Chain

/-- A computation that gives a value, without any of its probes being refused, mirrors
one that gives the same value and makes no probes. -/
def Probed.Mirrors {α : Type} (target : Target)
    (connected alone : Probed (Except CompileError α)) : Prop :=
  ∀ earlier value probes, connected.run earlier = (.ok value, probes) →
    (∀ pattern, target.dialect.probe pattern ∈ probes → target.refuses pattern = false) →
      ∀ before, alone.run before = (.ok value, [])

namespace Probed

variable {α β : Type} {target : Target}

theorem mirrors_pure (result : Except CompileError α) :
    (pure result).Mirrors target (pure result) := by
  intro earlier value probes run _ before
  obtain ⟨rfl, rfl⟩ := Prod.mk.inj run
  rfl

theorem Mirrors.map {connected alone : Probed (Except CompileError α)}
    (mirrors : connected.Mirrors target alone) (f : α → β) :
    (connected.map fun result => result.map f).Mirrors target
      (alone.map fun result => result.map f) := by
  intro earlier value probes run allowed before
  obtain ⟨mapped, rfl⟩ := Prod.mk.inj run
  obtain ⟨inner, given, rfl⟩ := Except.exists_of_map_eq_ok mapped
  rw [run_map, mirrors earlier inner _ (Prod.ext given rfl) allowed before]
  rfl

theorem Mirrors.bind {connected alone : Probed (Except CompileError α)}
    {next other : Except CompileError α → Probed (Except CompileError β)}
    (mirrors : connected.Mirrors target alone)
    (stops : ∀ error, next (.error error) = pure (.error error))
    (goes : ∀ value, (next (.ok value)).Mirrors target (other (.ok value))) :
    (connected.bind next).Mirrors target (alone.bind other) := by
  intro earlier value probes run allowed before
  rw [run_bind] at run
  rcases first : connected.run earlier with ⟨problem | inner, tried⟩
  · simp [first, stops] at run
  · rw [first] at run
    obtain ⟨given, rfl⟩ := Prod.mk.inj run
    have here := mirrors earlier inner tried first
      (fun pattern member => allowed pattern (List.mem_append_left _ member)) before
    have there := goes inner (earlier ++ tried) value _ (Prod.ext given rfl)
      (fun pattern member => allowed pattern (List.mem_append_right _ member)) before
    rw [run_bind, here, List.append_nil, there]
    rfl

end Probed

variable {target : Target} {segment : Segment}

theorem Strategy.mirrors_accept (strategy : Strategy) (steady : target.Steady) :
    (strategy.accept target segment).Mirrors target
      (strategy.accept target.disconnected segment) := by
  intro earlier found probes run allowed before
  rcases strategy.accept_cases steady (congrArg Prod.fst run) with ⟨refused, -⟩ | ⟨-, same⟩
  · obtain ⟨pattern, refuses, tried⟩ := mem_probes_of_refused refused
    have made : probes = strategy.probes target segment :=
      (congrArg Prod.snd run).symm.trans strategy.probes_accept
    have kept := allowed pattern (made ▸ tried)
    rw [refuses] at kept
    contradiction
  · exact same before

theorem Chain.mirrors_firstAccepted (steady : target.Steady) (entries : List ChainEntry) :
    (firstAccepted target segment entries).Mirrors target
      (firstAccepted target.disconnected segment entries) := by
  induction entries with
  | nil => exact Probed.mirrors_pure _
  | cons entry entries induction =>
      refine (entry.strategy.mirrors_accept steady).bind (fun error => rfl) fun accepted => ?_
      cases accepted with
      | some fragment => exact Probed.mirrors_pure _
      | none => exact induction

end ColumnFilter
