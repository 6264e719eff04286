import ColumnFilter.Proofs.Chain.Validation
import ColumnFilter.Proofs.Compiler.Run

/-!
# Refused patterns of an expression

What a connection refuses for one segment shows in the fragment of that segment
only: as if the filter that tried the pattern were not there.  Where nothing is
refused, the tree is the one that is compiled without a connection.
-/

namespace ColumnFilter

namespace Compiler

variable {chain : Chain} {target : Target}

theorem mirrors_compileGroup (steady : target.Steady) (segments : List Segment) :
    (compileGroup chain target segments).Mirrors target
      (compileGroup chain target.disconnected segments) := by
  induction segments with
  | nil => exact Probed.mirrors_pure _
  | cons segment segments induction =>
      refine (Chain.mirrors_firstAccepted steady chain.entries).bind (fun error => rfl) ?_
      exact fun fragment => induction.map (fragment :: ·)

theorem mirrors_compileGroups (steady : target.Steady) (groups : List (List Segment)) :
    (compileGroups chain target groups).Mirrors target
      (compileGroups chain target.disconnected groups) := by
  induction groups with
  | nil => exact Probed.mirrors_pure _
  | cons group groups induction =>
      refine (mirrors_compileGroup steady group).bind (fun error => rfl) ?_
      exact fun fragments => induction.map (fragments :: ·)

/-- A dialect that is set does not depend on the connection. -/
theorem dialect_of_explicit (compiler : Compiler) {settings : Settings} {id : DialectId}
    (explicit : settings.dialect = some id) (connection other : Option Connection) :
    compiler.dialect settings connection = compiler.dialect settings other := by
  simp only [dialect, Settings.resolveDialect, explicit]

/-- With a dialect that is set, and on a connection whose answers depend on nothing but
the pattern, each segment of an expression becomes the fragment that the chain makes of
it without a connection, once the entries are taken out whose pattern was refused for
this segment.  If nothing was refused, the tree is the one without a connection. -/
theorem compile_validated (compiler : Compiler) {settings : Settings} {id : DialectId}
    (explicit : settings.dialect = some id) (column expression : String) {live : Connection}
    (steady : live.Steady) {earlier probes : List Probe} {tree : Tree}
    (run : (compiler.compile settings column expression (some live)).run earlier =
      (.ok tree, probes)) :
    ∃ dialect chain,
      (∀ connection, compiler.dialect settings connection = .ok dialect) ∧
      Chain.build compiler.strategies settings.filters = .ok chain ∧
      let target : Target := ⟨column, dialect, some live⟩
      List.Forall₂ (List.Forall₂ fun segment fragment => ∀ before,
          ((chain.withoutRefused target segment).resolve target.disconnected segment).run before =
            (.ok fragment, []))
        (settings.punctuation.segments expression) tree.groups ∧
      ((∀ pattern, dialect.probe pattern ∈ probes → target.refuses pattern = false) →
        ∀ before, (compiler.compile settings column expression none).run before =
          (.ok tree, [])) := by
  obtain ⟨dialect, chain, selected, built, lengths, compiles⟩ := compiles_of_compile run
  have anywhere (connection : Option Connection) :
      compiler.dialect settings connection = .ok dialect :=
    (compiler.dialect_of_explicit explicit connection (some live)).trans selected
  refine ⟨dialect, chain, anywhere, built, ?_⟩
  intro target
  have steadyTarget : target.Steady := by
    rintro _ ⟨⟩
    exact steady
  constructor
  · apply forall₂_of_forall₂_flatten lengths
    apply compiles.resolved.imp
    rintro segment fragment ⟨before, resolved⟩
    exact chain.run_withoutRefused steadyTarget resolved
  · intro allowed before
    rw [compile_eq selected built, Probed.run_map] at run
    obtain ⟨made, rfl⟩ := Prod.mk.inj run
    obtain ⟨groups, given, rfl⟩ := Except.exists_of_map_eq_ok made
    have alone : (compileGroups chain ⟨column, dialect, none⟩ _).run before =
        (.ok groups, []) :=
      mirrors_compileGroups steadyTarget _ earlier groups _ (Prod.ext given rfl) allowed before
    rw [compile_eq (anywhere none) built, Probed.run_map, alone]
    rfl

/-- Two filters for patterns, whose marks both stand around `ab`.  The first of them is
not there for this segment, but it takes the other one. -/
theorem compile_validated_fallthrough :
    let settings : Settings :=
      { Settings.standard.withDialect (.ofString "mysql") with
        filters := [("first", .ofKind "regex" 10),
          ("last", ⟨"regex", 20, true, [("prefix", .string "/a")]⟩)] }
    let live : Connection := ⟨"mysql", fun pattern =>
      if pattern = "ab" then ProbeAnswer.rejected "syntax" else ProbeAnswer.accepted⟩
    let target : Target := ⟨"name", .mySql, some live⟩
    live.Steady ∧
    (∃ tree chain first last,
      (standard.compile settings "name" "/ab/ & /c/" (some live)).run [] =
        (.ok tree, ["ab", "b", "c"].map Dialect.mySql.probe) ∧
      Chain.build standard.strategies settings.filters = .ok chain ∧
      tree.groups = [[first, last]] ∧
      (chain.withoutRefused target ⟨"/ab/", false⟩).names = ["last"] ∧
      ((chain.withoutRefused target ⟨"/ab/", false⟩).resolve target.disconnected
        ⟨"/ab/", false⟩).run [] = (.ok first, []) ∧
      (chain.withoutRefused target ⟨"/c/", false⟩).names = ["first", "last"] ∧
      ((chain.withoutRefused target ⟨"/c/", false⟩).resolve target.disconnected
        ⟨"/c/", false⟩).run [] = (.ok last, [])) ∧
    ∃ tree,
      (standard.compile settings "name" "/c/" (some live)).run [] =
        (.ok tree, [Dialect.mySql.probe "c"]) ∧
      (standard.compile settings "name" "/c/" none).run [] = (.ok tree, []) := by
  intro settings live target
  have explicit : settings.dialect = some (.ofString "mysql") := rfl
  have steady : live.Steady := fun pattern earlier => by
    simp only [live]
    split <;> rfl
  have succeeds (expression : String) (patterns : List String)
      (computed :
        ((standard.compile settings "name" expression (some live)).run []).1.toOption.isSome =
            true ∧
          ((standard.compile settings "name" expression (some live)).run []).2 =
            patterns.map Dialect.mySql.probe) :
      ∃ tree, (standard.compile settings "name" expression (some live)).run [] =
        (.ok tree, patterns.map Dialect.mySql.probe) := by
    obtain ⟨given, made⟩ := computed
    rcases run : (standard.compile settings "name" expression (some live)).run [] with
      ⟨problem | tree, probes⟩
    · simp [run, Except.toOption] at given
    · exact ⟨tree, by rw [← made, run]⟩
  obtain ⟨tree, run⟩ := succeeds "/ab/ & /c/" ["ab", "b", "c"] (by decide +kernel)
  obtain ⟨other, run'⟩ := succeeds "/c/" ["c"] (by decide +kernel)
  have names : (Chain.build standard.strategies settings.filters).toOption.map (fun chain =>
      ((chain.withoutRefused target ⟨"/ab/", false⟩).names,
        (chain.withoutRefused target ⟨"/c/", false⟩).names)) =
      some (["last"], ["first", "last"]) := by
    decide +kernel
  have segments : settings.punctuation.segments "/ab/ & /c/" =
      [[⟨"/ab/", false⟩, ⟨"/c/", false⟩]] := by
    decide +kernel
  refine ⟨steady, ?_, other, run', ?_⟩
  · obtain ⟨dialect, chain, selected, built, fragments, -⟩ :=
      compile_validated standard explicit "name" "/ab/ & /c/" steady run
    obtain rfl : Dialect.mySql = dialect := Except.ok.inj (selected none)
    obtain ⟨behind, both⟩ : (chain.withoutRefused target _).names = _ ∧
        (chain.withoutRefused target _).names = _ := by
      simpa [built, Except.toOption] using names
    simp only [segments, List.forall₂_cons_left_iff, List.forall₂_nil_left_iff] at fragments
    obtain ⟨_, _, ⟨first, _, alone, ⟨last, _, alone', rfl, rfl⟩, rfl⟩, rfl, groups⟩ := fragments
    exact ⟨tree, chain, first, last, run, built, groups, behind, alone [], both, alone' []⟩
  · obtain ⟨dialect, chain, selected, -, -, unrefused⟩ :=
      compile_validated standard explicit "name" "/c/" steady run'
    obtain rfl : Dialect.mySql = dialect := Except.ok.inj (selected none)
    apply unrefused
    intro pattern tried
    obtain rfl : pattern = "c" := by simpa [Dialect.probe] using tried
    rfl

end Compiler

end ColumnFilter
