import ColumnFilter.Proofs.Chain.Acceptor
import ColumnFilter.Proofs.Compiler.Run

/-!
# The meaning of a compiled tree

A tree means that one of its groups holds, and a group that all its fragments
hold.  The combined condition says the same in flattened form, and there is none
exactly when the tree filters nothing.
-/

namespace ColumnFilter

namespace Chain.Compiles

variable {chain : Chain} {target : Target} {earlier probes : List Probe}
  {segments : List Segment} {fragments : List Fragment}

theorem wellFormed (compiles : chain.Compiles target earlier segments fragments probes) :
    ∀ fragment ∈ fragments, fragment.WellFormed := by
  intro fragment member
  obtain ⟨segment, _, before, resolved⟩ := compiles.exists_of_mem member
  obtain ⟨strategy, makes⟩ := exists_makes_of_resolve resolved
  exact makes.wellFormed.1

end Chain.Compiles

namespace Compiler

/-- A compiled tree has a group for every group of segments and, in order, for
every segment the fragment that the chain gives for it.  Its condition means
that all fragments of some group hold, and there is no condition exactly when
the tree is empty or no fragment of some group restricts anything. -/
theorem compile_meaning (compiler : Compiler) (settings : Settings)
    (column expression : String) (connection : Option Connection)
    (earlier probes : List Probe) (tree : Tree)
    (run : (compiler.compile settings column expression connection).run earlier =
      (.ok tree, probes)) :
    (∃ dialect chain,
      compiler.dialect settings connection = .ok dialect ∧
      Chain.build compiler.strategies settings.filters = .ok chain ∧
      tree.groups.map List.length =
        (settings.punctuation.segments expression).map List.length ∧
      chain.Compiles ⟨column, dialect, connection⟩ earlier
        (settings.punctuation.segments expression).flatten tree.groups.flatten probes) ∧
    (∀ row : Valuation,
      tree.condition.elim .yes (Condition.truth row) =
        if tree.isEmpty then .yes
        else
          Truth.any (tree.groups.map fun group =>
            Truth.all (group.map fun fragment => fragment.condition.truth row))) ∧
    (tree.condition = none ↔
      tree.isEmpty = true ∨
        ∃ group ∈ tree.groups, ∀ fragment ∈ group, fragment.isAlways = true) := by
  have mirrored := compiles_of_compile run
  refine ⟨mirrored, fun row => tree.truth_condition row, ?_⟩
  obtain ⟨dialect, chain, -, -, -, compiles⟩ := mirrored
  apply Tree.condition_eq_none_iff
  intro group member fragment inside
  exact (compiles.wellFormed fragment (List.mem_flatten.mpr ⟨group, member, inside⟩)).flat

/-- An empty part in one alternative lifts the restriction of the other. -/
theorem compile_meaning_lifted :
    ∃ tree,
      (standard.compile partsOnly "code" "## | b" none).run [] = (.ok tree, []) ∧
      tree.groups.map List.length = [1, 1] ∧
      tree.condition = none := by
  have segments : partsOnly.punctuation.segments "## | b" =
      [[⟨"##", false⟩], [⟨"b", false⟩]] := by
    decide +kernel
  have run : (standard.compile partsOnly "code" "## | b" none).run [] =
      (.ok (.ofGroups [[.always],
        [Words.standard.fragment ⟨"code", .mySql, none⟩ ⟨"b", false⟩]]), []) := by
    rw [compile, dialect_partsOnly, build_partsOnly, segments]
    rfl
  obtain ⟨⟨_, _, _, _, lengths, _⟩, _, unrestricted⟩ :=
    compile_meaning standard partsOnly "code" "## | b" none [] [] _ run
  rw [segments] at lengths
  refine ⟨_, run, lengths, unrestricted.mpr (.inr ⟨[.always], List.mem_cons_self, ?_⟩)⟩
  intro fragment member
  rw [List.mem_singleton.mp member]
  rfl

end Compiler

end ColumnFilter
