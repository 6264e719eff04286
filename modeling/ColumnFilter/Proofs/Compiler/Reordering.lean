import ColumnFilter.Proofs.Chain.Ordering
import ColumnFilter.Proofs.Compiler.Run

/-!
# Filters declared in another order

Where filters of one priority keep their order, it does not matter in which order
filters are declared: the chain is the same, and with it every result and every
probe.
-/

namespace ColumnFilter

/-- The settings with other filters. -/
def Settings.withFilters (settings : Settings) (filters : List (String × Descriptor)) :
    Settings :=
  { settings with filters }

namespace Compiler

/-- Filters in another order make a chain together or not at all.  If they do, the names
of the used filters are in one order, by priority and then as declared, and every
expression is compiled to the same result by the same probes, on any connection. -/
theorem compile_reordered (compiler : Compiler) (settings : Settings)
    {others : List (String × Descriptor)} (reordered : Reordered settings.filters others) :
    ((∃ chain, Chain.build compiler.strategies settings.filters = .ok chain) ↔
      ∃ chain, Chain.build compiler.strategies others = .ok chain) ∧
    ∀ chain, Chain.build compiler.strategies settings.filters = .ok chain →
      (chain.entries.Pairwise (fun first second => first.priority ≤ second.priority) ∧
        ∀ priority, (ChainEntry.ofPriority priority chain.entries).map ChainEntry.name =
          ((Descriptor.ofPriority priority settings.filters).filter fun filter =>
            Chain.isUsed filter.2).map Prod.fst) ∧
      (∃ chain', Chain.build compiler.strategies others = .ok chain' ∧
        chain'.names = chain.names) ∧
      ∀ column expression connection earlier,
        (compiler.compile (settings.withFilters others) column expression connection).run
            earlier =
          (compiler.compile settings column expression connection).run earlier := by
  refine ⟨Chain.exists_build_of_reordered reordered, fun chain built => ?_⟩
  have built' := Chain.build_eq_of_reordered reordered built
  refine ⟨⟨Chain.pairwise_build built, Chain.map_name_ofPriority_build built⟩,
    ⟨chain, built', rfl⟩, ?_⟩
  intro column expression connection earlier
  have sameDialect : compiler.dialect (settings.withFilters others) connection =
      compiler.dialect settings connection := rfl
  cases selected : compiler.dialect settings connection with
  | error error => simp [compile, sameDialect, selected]
  | ok dialect =>
      rw [compile_eq selected built, compile_eq (sameDialect.trans selected) built']
      rfl

/-- Filters in ascending order of priority, and the same filters in another order with
two of one priority among them. -/
theorem compile_reordered_tie :
    let settings : Settings :=
      { Settings.standard.withDialect (.ofString "mysql") with
        filters := [("words", .ofKind "default" 50), ("part", .ofKind "substring" 10),
          ("whole", .ofKind "exact" (-5)), ("pattern", .ofKind "regex" 10),
          ("off", ⟨"exact", 1, false, []⟩)] }
    let others : List (String × Descriptor) :=
      [("off", ⟨"exact", 1, false, []⟩), ("part", .ofKind "substring" 10),
        ("pattern", .ofKind "regex" 10), ("words", .ofKind "default" 50),
        ("whole", .ofKind "exact" (-5))]
    Reordered settings.filters others ∧
      ∃ chain, Chain.build standard.strategies others = .ok chain ∧
        chain.names = ["whole", "part", "pattern", "words"] ∧
        ∀ column expression connection earlier,
          (standard.compile (settings.withFilters others) column expression connection).run
              earlier =
            (standard.compile settings column expression connection).run earlier := by
  intro settings others
  have reordered : Reordered settings.filters others := by
    intro priority
    simp only [settings, others, Descriptor.ofPriority, Descriptor.ofKind, List.filter_cons,
      List.filter_nil, beq_iff_eq]
    grind
  have known : (Chain.build standard.strategies settings.filters).toOption.map Chain.names =
      some ["whole", "part", "pattern", "words"] := by
    decide +kernel
  obtain ⟨chain, built, names⟩ : ∃ chain,
      Chain.build standard.strategies settings.filters = .ok chain ∧
        chain.names = ["whole", "part", "pattern", "words"] := by
    cases built : Chain.build standard.strategies settings.filters with
    | error problem => simp [built, Except.toOption] at known
    | ok chain => exact ⟨chain, rfl, by simpa [built, Except.toOption] using known⟩
  obtain ⟨-, same⟩ := compile_reordered standard settings reordered
  obtain ⟨-, ⟨chain', built', names'⟩, compiled⟩ := same chain built
  exact ⟨reordered, chain', built', names'.trans names, compiled⟩

end Compiler

end ColumnFilter
