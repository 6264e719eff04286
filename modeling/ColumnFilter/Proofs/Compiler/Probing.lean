import ColumnFilter.Proofs.Chain.Probing
import ColumnFilter.Proofs.Compiler.Run

/-!
# Probes of the compiler

The probes of an expression are those of its segments, from left to right,
whatever groups they are in.
-/

namespace ColumnFilter

namespace Chain

/-- How the entries of a chain are asked about a segment. -/
structure Asks (chain : Chain) (target : Target) : Prop where
  ordered : chain.entries.Pairwise (fun first second => first.priority ≤ second.priority)
  /-- A front part of the entries sees the segment. -/
  seen : ∀ segment before, shown target segment before chain.entries <+: chain.entries
  /-- An entry that does not pass the segment on is the last one that sees it. -/
  stops : ∀ segment before front entry behind, chain.entries = front ++ entry :: behind →
    entry.strategy.verdict target segment (before ++ probesOf target segment front) ≠ .passed →
      shown target segment before chain.entries <+: front ++ [entry]
  single : ∀ segment, ∀ entry ∈ chain.entries,
    (entry.strategy.probes target segment).length ≤ 1
  /-- The verdicts are those of the strategies. -/
  describes : ∀ segment before, ∀ entry ∈ chain.entries,
    (entry.strategy.verdict target segment before).Describes target.dialect
      ((entry.strategy.accept target segment).run before).1

theorem asks_of_build {chain : Chain} {registry : StrategyRegistry}
    {filters : List (String × Descriptor)}
    (complete : ∀ entry ∈ chain.entries, entry.strategy.Complete)
    (built : build registry filters = .ok chain) (target : Target) :
    chain.Asks target where
  ordered := pairwise_build built
  seen segment before := shown_prefix target segment before chain.entries
  stops segment before front entry behind entries kept := by
    rw [entries]
    exact shown_prefix_of_ne_passed kept
  single segment entry _ := entry.strategy.length_probes_le target segment
  describes _ _ entry member := Strategy.describes_accept (complete entry member)

end Chain

namespace Compiler

variable {chain : Chain} {target : Target}

/-- The probes of segments are those of a group at the front, and if it compiles, those
of the segments behind it. -/
theorem trail_append (complete : ∀ entry ∈ chain.entries, entry.strategy.Complete)
    (group segments : List Segment) (earlier : List Probe) :
    chain.trail target earlier (group ++ segments) =
      match (compileGroup chain target group).run earlier with
      | (.error _, probes) => probes
      | (.ok _, probes) => probes ++ chain.trail target (earlier ++ probes) segments := by
  induction group generalizing earlier with
  | nil => simp [compileGroup]
  | cons segment group induction =>
      have known : ((chain.resolve target segment).run earlier).2 = _ ∧
          (Chain.settled target segment earlier chain.entries).Describes _
            (((chain.resolve target segment).run earlier).1.map some) :=
        Chain.run_firstAccepted complete
      obtain ⟨made, described⟩ := known
      rw [List.cons_append, Chain.trail, ← made, compileGroup, Probed.run_bind]
      generalize (chain.resolve target segment).run earlier = run at described ⊢
      obtain ⟨result, probes⟩ := run
      generalize Chain.settled target segment earlier chain.entries = verdict at described ⊢
      cases result with
      | error problem =>
          cases described with
          | unavailable reason => simp
      | ok fragment =>
          cases described with
          | taken =>
              simp only [Probed.run_map, induction]
              rcases (compileGroup chain target group).run (earlier ++ probes) with
                ⟨problem | fragments, others⟩
              · rfl
              · simp [Except.map]

theorem probes_compileGroups (complete : ∀ entry ∈ chain.entries, entry.strategy.Complete)
    (groups : List (List Segment)) (earlier : List Probe) :
    ((compileGroups chain target groups).run earlier).2 =
      chain.trail target earlier groups.flatten := by
  induction groups generalizing earlier with
  | nil => rfl
  | cons group groups induction =>
      rw [compileGroups, Probed.run_bind, List.flatten_cons, trail_append complete]
      rcases (compileGroup chain target group).run earlier with ⟨problem | fragments, probes⟩
      · simp
      · simp [induction]

/-- What is tried while an expression is compiled: for every segment in turn, the
patterns of the entries in the order of their priorities, up to the first entry that
takes the segment, and nothing more once the database could not be asked.  So nobody
tries anything for a segment that was taken before, and an entry tries one pattern
at most. -/
theorem compile_probes (compiler : Compiler) {settings : Settings}
    {connection : Option Connection} {dialect : Dialect} {chain : Chain}
    (valid : settings.NumbersValid compiler.strategies)
    (selected : compiler.dialect settings connection = .ok dialect)
    (built : Chain.build compiler.strategies settings.filters = .ok chain)
    (column expression : String) (earlier : List Probe) :
    let target : Target := ⟨column, dialect, connection⟩
    ((compiler.compile settings column expression connection).run earlier).2 =
        chain.trail target earlier (settings.punctuation.segments expression).flatten ∧
      chain.Asks target := by
  intro target
  have complete := Chain.complete_of_build valid built
  refine ⟨?_, Chain.asks_of_build complete built target⟩
  rw [compile_eq selected built, Probed.run_map]
  exact probes_compileGroups complete _ earlier

/-- Two filters for patterns: what the first one finds refused, the second one tries
again, and finds no database. -/
theorem compile_probes_refused :
    let settings : Settings :=
      { Settings.standard.withDialect (.ofString "mysql") with
        filters := [("last", .ofKind "regex" 40), ("range", .ofKind "range" 10),
          ("first", .ofKind "regex" 30), ("exact", .ofKind "exact" 20)] }
    let live : Connection := ⟨"mysql", fun pattern => ⟨fun earlier =>
      if pattern = "b" then
        if earlier.contains (Dialect.mySql.probe "b") then .unavailable "gone"
        else .rejected "syntax"
      else .accepted⟩⟩
    ∃ chain, settings.NumbersValid standard.strategies ∧
      standard.dialect settings (some live) = .ok .mySql ∧
      Chain.build standard.strategies settings.filters = .ok chain ∧
      chain.names = ["range", "exact", "first", "last"] ∧
      ((standard.compile settings "name" "\"x\"&/a/&/b/|/c/" (some live)).run []).2 =
        ["a", "b", "b"].map Dialect.mySql.probe := by
  intro settings live
  have valid : settings.NumbersValid standard.strategies := by
    apply Settings.numbersValid_of_options_nil
    decide +kernel
  have known : (Chain.build standard.strategies settings.filters).toOption.map (fun chain =>
      (chain.names, chain.trail ⟨"name", .mySql, some live⟩ []
        (settings.punctuation.segments "\"x\"&/a/&/b/|/c/").flatten)) =
      some (["range", "exact", "first", "last"], ["a", "b", "b"].map Dialect.mySql.probe) := by
    decide +kernel
  cases built : Chain.build standard.strategies settings.filters with
  | error problem => simp [built, Except.toOption] at known
  | ok chain =>
      obtain ⟨names, trail⟩ : chain.names = _ ∧ chain.trail _ _ _ = _ := by
        simpa [built, Except.toOption] using known
      obtain ⟨made, -⟩ := compile_probes standard valid rfl built "name" "\"x\"&/a/&/b/|/c/" []
      exact ⟨chain, valid, rfl, rfl, names, made.trans trail⟩

end Compiler

end ColumnFilter
