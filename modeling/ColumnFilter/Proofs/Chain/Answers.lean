import ColumnFilter.Proofs.Chain.Building

/-!
# Answers to the probes of a chain

The only thing that can go wrong with a segment is that the database cannot be
asked about a pattern.  `Probed.Heeds` says so of a computation: it goes on as
long as the database answers, and fails with the first probe that gets no
answer.  Computations that follow each other keep this, so it holds of all that
is built from the strategies.
-/

namespace ColumnFilter

/-- What a connection answers to patterns that are tried one after the other. -/
def Connection.answers (live : Connection) (dialect : Dialect) :
    List Probe → List String → List ProbeAnswer
  | _, [] => []
  | earlier, pattern :: patterns =>
      (live.answer pattern).after earlier ::
        live.answers dialect (earlier ++ [dialect.probe pattern]) patterns

theorem Connection.answers_append (live : Connection) (dialect : Dialect)
    (earlier : List Probe) (first later : List String) :
    live.answers dialect earlier (first ++ later) =
      live.answers dialect earlier first ++
        live.answers dialect (earlier ++ first.map dialect.probe) later := by
  induction first generalizing earlier with
  | nil => simp [answers]
  | cons pattern first induction => simp [answers, induction]

/-- The database was asked every time. -/
def Reached (answers : List ProbeAnswer) : Prop := ∀ reason, .unavailable reason ∉ answers

theorem reached_nil : Reached [] := by simp [Reached]

theorem Reached.append {first later : List ProbeAnswer} (reached : Reached first)
    (going : Reached later) : Reached (first ++ later) := by
  intro reason member
  rcases List.mem_append.mp member with front | behind
  · exact reached reason front
  · exact going reason behind

/-- The result after some answers: an error if the database could not be asked the last
time, and a value if it was asked every time. -/
inductive Ends {α : Type} (dialect : Dialect) :
    List ProbeAnswer → Except CompileError α → Prop where
  | value {answers : List ProbeAnswer} (reached : Reached answers) (value : α) :
      Ends dialect answers (.ok value)
  | error {answers : List ProbeAnswer} (reached : Reached answers) (reason : String) :
      Ends dialect (answers ++ [.unavailable reason])
        (.error (.validation (.unavailable ⟨dialect, reason⟩)))

namespace Ends

variable {α β : Type} {dialect : Dialect} {answers later : List ProbeAnswer}
  {result : Except CompileError α}

theorem value_or_error (ends : Ends dialect answers result) :
    (∃ value, result = .ok value) ∧ Reached answers ∨
      ∃ reason before, result = .error (.validation (.unavailable ⟨dialect, reason⟩)) ∧
        answers = before ++ [.unavailable reason] ∧ Reached before := by
  cases ends with
  | value reached value => exact .inl ⟨⟨value, rfl⟩, reached⟩
  | error reached reason => exact .inr ⟨reason, _, rfl, rfl, reached⟩

theorem map (ends : Ends dialect answers result) (f : α → β) :
    Ends dialect answers (result.map f) := by
  cases ends with
  | value reached value => exact .value reached (f value)
  | error reached reason => exact .error reached reason

theorem after (ends : Ends dialect later result) (reached : Reached answers) :
    Ends dialect (answers ++ later) result := by
  cases ends with
  | value going value => exact .value (reached.append going) value
  | error going reason =>
      rw [← List.append_assoc]
      exact .error (reached.append going) reason

end Ends

/-- What the connection of a target answers to patterns, if there is one. -/
def Target.answers (target : Target) (earlier : List Probe) (patterns : List String) :
    List ProbeAnswer :=
  match target.connection with
  | none => []
  | some live => live.answers target.dialect earlier patterns

theorem Target.answers_append (target : Target) (earlier : List Probe)
    (first later : List String) :
    target.answers earlier (first ++ later) =
      target.answers earlier first ++
        target.answers (earlier ++ first.map target.dialect.probe) later := by
  unfold answers
  cases target.connection with
  | none => rfl
  | some live => exact live.answers_append target.dialect earlier first later

namespace Probed

variable {α β : Type} {target : Target}

/-- The computation tries patterns only, on the connection if there is one, and the
answers decide whether it fails. -/
def Heeds (target : Target) (probed : Probed (Except CompileError α)) : Prop :=
  ∀ earlier, ∃ patterns : List String,
    (probed.run earlier).2 = patterns.map target.dialect.probe ∧
    (target.connection = none → patterns = []) ∧
    Ends target.dialect (target.answers earlier patterns) (probed.run earlier).1

theorem heeds_pure (value : α) : (pure (.ok value)).Heeds target := by
  intro earlier
  refine ⟨[], rfl, fun _ => rfl, ?_⟩
  have silent : target.answers earlier [] = [] := by
    unfold Target.answers
    split <;> rfl
  rw [silent]
  exact .value reached_nil value

theorem Heeds.map {probed : Probed (Except CompileError α)} (heeds : probed.Heeds target)
    (f : α → β) : (probed.map fun result => result.map f).Heeds target := by
  intro earlier
  obtain ⟨patterns, made, silent, ends⟩ := heeds earlier
  exact ⟨patterns, made, silent, ends.map f⟩

/-- A computation that goes on from values only. -/
theorem Heeds.bind {first : Probed (Except CompileError α)}
    {next : Except CompileError α → Probed (Except CompileError β)}
    (heeds : first.Heeds target) (stops : ∀ error, next (.error error) = pure (.error error))
    (goes : ∀ value, (next (.ok value)).Heeds target) : (first.bind next).Heeds target := by
  intro earlier
  obtain ⟨patterns, made, silent, ends⟩ := heeds earlier
  rw [run_bind, made]
  generalize (first.run earlier).1 = result at ends ⊢
  generalize answered : target.answers earlier patterns = answers at ends
  cases ends with
  | error reached reason =>
      refine ⟨patterns, by simp [stops], silent, ?_⟩
      rw [stops, answered]
      exact .error reached reason
  | value reached value =>
      obtain ⟨others, made', silent', ends⟩ :=
        goes value (earlier ++ patterns.map target.dialect.probe)
      refine ⟨patterns ++ others, ?_, ?_, ?_⟩
      · rw [made', List.map_append]
      · intro unconnected
        rw [silent unconnected, silent' unconnected, List.append_nil]
      · rw [target.answers_append, answered]
        exact ends.after reached

end Probed

theorem Target.heeds_checkPattern {α : Type} (target : Target) (pattern : String)
    (f : Bool → α) :
    (((target.dialect.checkPattern target.connection pattern).map fun checked =>
      checked.map f).map fun result => result.mapError CompileError.ofQueryError).Heeds target := by
  obtain ⟨column, dialect, connection⟩ := target
  cases connection with
  | none => exact Probed.heeds_pure (f true)
  | some live =>
      intro earlier
      refine ⟨[pattern], rfl, fun unconnected => by simp at unconnected, ?_⟩
      simp only [Target.answers, Connection.answers, Dialect.checkPattern, Probed.run_map]
      cases (live.answer pattern).after earlier with
      | accepted => exact .value (by simp [Reached]) (f true)
      | rejected reason => exact .value (by simp [Reached]) (f false)
      | unavailable reason => exact .error reached_nil reason

variable {target : Target} {segment : Segment}

theorem Strategy.heeds_accept {strategy : Strategy} (complete : strategy.Complete) :
    (strategy.accept target segment).Heeds target := by
  cases strategy with
  | range ranges =>
      obtain ⟨found, bounds⟩ := complete segment.text
      simp only [accept, Range.range?, bounds]
      exact Probed.heeds_pure _
  | exact options => exact Probed.heeds_pure _
  | substring options => exact Probed.heeds_pure _
  | words options => exact Probed.heeds_pure _
  | regex options =>
      simp only [accept, Marked.searchPattern?]
      cases options.markers.strip? segment.text with
      | none => exact Probed.heeds_pure none
      | some pattern =>
          exact target.heeds_checkPattern pattern _

theorem Chain.heeds_firstAccepted {entries : List ChainEntry}
    (complete : ∀ entry ∈ entries, entry.strategy.Complete) :
    (firstAccepted target segment entries).Heeds target := by
  induction entries with
  | nil => exact Probed.heeds_pure _
  | cons entry entries induction =>
      refine (Strategy.heeds_accept (complete entry List.mem_cons_self)).bind ?_ ?_
      · exact fun error => rfl
      · intro accepted
        cases accepted with
        | some fragment => exact Probed.heeds_pure fragment
        | none =>
            exact induction fun other member =>
              complete other (List.mem_cons_of_mem entry member)

end ColumnFilter
