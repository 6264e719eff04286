import ColumnFilter.Proofs.Chain.Answers
import ColumnFilter.Proofs.Compiler.Run

/-!
# Outcomes of the compiler

Whether settings can be used does not depend on what is compiled.  If they can,
every expression becomes a tree, unless the database could not be asked about a
pattern.
-/

namespace ColumnFilter

theorem Dialect.probe_injective (dialect : Dialect) : Function.Injective dialect.probe := by
  intro pattern other same
  simpa [probe] using same

namespace Compiler

variable {chain : Chain} {target : Target}

theorem heeds_compileGroup (complete : ∀ entry ∈ chain.entries, entry.strategy.Complete)
    (segments : List Segment) : (compileGroup chain target segments).Heeds target := by
  induction segments with
  | nil => exact Probed.heeds_pure []
  | cons segment segments induction =>
      refine (Chain.heeds_firstAccepted complete).bind ?_ ?_
      · exact fun error => rfl
      · exact fun fragment => induction.map (fragment :: ·)

theorem heeds_compileGroups (complete : ∀ entry ∈ chain.entries, entry.strategy.Complete)
    (groups : List (List Segment)) : (compileGroups chain target groups).Heeds target := by
  induction groups with
  | nil => exact Probed.heeds_pure []
  | cons group groups induction =>
      refine (heeds_compileGroup complete group).bind ?_ ?_
      · exact fun error => rfl
      · exact fun fragments => induction.map (fragments :: ·)

/-- Where no dialect is found, the configuration is at fault: an id that is not
registered is reported by the query layer, but to the caller as a mistake of the
settings. -/
theorem exists_configuration_of_dialect_eq_error {compiler : Compiler} {settings : Settings}
    {connection : Option Connection} {error : CompileError}
    (failed : compiler.dialect settings connection = .error error) :
    ∃ cause, error = .configuration cause := by
  cases resolved : settings.resolveDialect (connection.map Connection.driver) with
  | error cause =>
      obtain rfl : .configuration cause = error := by simpa [dialect, resolved] using failed
      exact ⟨cause, rfl⟩
  | ok id =>
      cases found : (compiler.dialects.get id).2 with
      | some adapter => simp [dialect, resolved, found] at failed
      | none =>
          obtain rfl : .ofQueryError (.unknownDialect ⟨id⟩) = error := by
            simpa [dialect, resolved, found] using failed
          exact ⟨.unknownDialect ⟨id⟩, rfl⟩

/-- Settings that cannot be used are reported for every expression alike, and nothing is
tried before.  With any others an expression becomes a tree, and with a connection it may
instead be reported that the database could not be asked about a pattern: this was the
answer to the last pattern that was tried, and to no other.  No other error of the query
layer gets through. -/
theorem compile_outcome (compiler : Compiler) {settings : Settings}
    (valid : settings.NumbersValid compiler.strategies) (connection : Option Connection) :
    (∃ error, ∀ column expression earlier,
      (compiler.compile settings column expression connection).run earlier =
        (.error (.configuration error), [])) ∨
    ∃ dialect, compiler.dialect settings connection = .ok dialect ∧
      ∀ column expression earlier,
        let run := (compiler.compile settings column expression connection).run earlier
        (connection = none → ∃ tree, run = (.ok tree, [])) ∧
        ∀ live, connection = some live → ∃ patterns : List String,
          run.2 = patterns.map dialect.probe ∧
          ((∃ tree, run.1 = .ok tree) ∧
              (∀ reason, .unavailable reason ∉ live.answers dialect earlier patterns) ∨
            ∃ reason before,
              run.1 = .error (.validation (.unavailable ⟨dialect, reason⟩)) ∧
              live.answers dialect earlier patterns = before ++ [.unavailable reason] ∧
              ∀ other, .unavailable other ∉ before) := by
  cases selected : compiler.dialect settings connection with
  | error error =>
      left
      obtain ⟨cause, rfl⟩ := exists_configuration_of_dialect_eq_error selected
      refine ⟨cause, fun column expression earlier => ?_⟩
      simp [compile, selected]
  | ok dialect =>
      cases built : Chain.build compiler.strategies settings.filters with
      | error error =>
          left
          refine ⟨error, fun column expression earlier => ?_⟩
          simp [compile, selected, built]
      | ok chain =>
          right
          refine ⟨dialect, rfl, fun column expression earlier => ?_⟩
          have heeds : (compileGroups chain ⟨column, dialect, connection⟩ _).Heeds _ :=
            heeds_compileGroups (Chain.complete_of_build valid built)
              (settings.punctuation.segments expression)
          obtain ⟨patterns, made, silent, ends⟩ := heeds earlier
          rw [compile_eq selected built, Probed.run_map, made]
          constructor
          · rintro rfl
            obtain rfl := silent rfl
            rcases ends.value_or_error with ⟨⟨groups, done⟩, -⟩ | ⟨reason, before, -, answered, -⟩
            · exact ⟨.ofGroups groups, by rw [done]; rfl⟩
            · simp [Target.answers] at answered
          · rintro live rfl
            refine ⟨patterns, rfl, ?_⟩
            rcases ends.value_or_error with
              ⟨⟨groups, done⟩, reached⟩ | ⟨reason, before, failed, answered, reached⟩
            · exact .inl ⟨⟨.ofGroups groups, by rw [done]; rfl⟩, reached⟩
            · exact .inr ⟨reason, before, by rw [failed]; rfl, answered, reached⟩

/-- A database that is gone when the second of three patterns is tried. -/
theorem compile_outcome_unavailable :
    let settings := Settings.standard.withDialect (.ofString "mysql")
    let live : Connection := ⟨"mysql", fun pattern =>
      if pattern = "b" then ProbeAnswer.unavailable "gone" else ProbeAnswer.accepted⟩
    let run := (standard.compile settings "name" "/a/&/b/&/c/" (some live)).run []
    settings.NumbersValid standard.strategies ∧
      run.1 = .error (.validation (.unavailable ⟨.mySql, "gone"⟩)) ∧
      run.2 = [Dialect.mySql.probe "a", Dialect.mySql.probe "b"] := by
  intro settings live run
  have valid : settings.NumbersValid standard.strategies := by
    apply Settings.numbersValid_of_options_nil
    decide +kernel
  have made : run.2 = ["a", "b"].map Dialect.mySql.probe := by decide +kernel
  refine ⟨valid, ?_, made⟩
  rcases compile_outcome standard valid (some live) with
    ⟨error, failed⟩ | ⟨dialect, selected, outcome⟩
  · have silent : run.2 = [] := congrArg Prod.snd (failed "name" "/a/&/b/&/c/" [])
    rw [silent] at made
    contradiction
  · obtain rfl : Dialect.mySql = dialect := Except.ok.inj selected
    obtain ⟨patterns, tried, ends⟩ := (outcome "name" "/a/&/b/&/c/" []).2 live rfl
    obtain rfl : ["a", "b"] = patterns :=
      List.map_injective_iff.mpr Dialect.mySql.probe_injective (made.symm.trans tried)
    have answered : live.answers .mySql [] ["a", "b"] = [.accepted, .unavailable "gone"] := rfl
    rw [answered] at ends
    rcases ends with ⟨-, reached⟩ | ⟨reason, before, failed, last, -⟩
    · exact absurd (by simp) (reached "gone")
    · have same := congrArg List.getLast? last
      obtain rfl : "gone" = reason := by simpa using same
      exact failed

end Compiler

end ColumnFilter
