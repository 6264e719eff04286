import ColumnFilter.Proofs.Compiler.Meaning
import ColumnFilter.Proofs.Sql.Normal

/-!
# Compiled conditions are normal

Strategies make flat conditions, and a tree combines them with the combinators, so
that every condition which the compiler gives is in normal form.  Of such
conditions it can be told from the outermost layer whether they restrict anything.
-/

namespace ColumnFilter

namespace Compiler

/-- Normal conditions are closed under conjunction, under disjunction of one
condition at least, and under negation of what restricts something.  All conditions
of a compiled tree are normal, those of its fragments and the combined one.  And a
normal condition with independent leaves holds in every row exactly if it is the
plain form of no restriction. -/
theorem compile_normal :
    (∀ conditions : List Condition, (∀ condition ∈ conditions, condition.Normal) →
      (Condition.conjoin conditions).Normal) ∧
    (∀ conditions : List Condition, conditions ≠ [] →
      (∀ condition ∈ conditions, condition.Normal) →
      (Condition.disjoin conditions).Normal) ∧
    (∀ condition : Condition, condition.Normal → condition ≠ .always →
      condition.negate.Normal) ∧
    (∀ (compiler : Compiler) (settings : Settings) (column expression : String)
      (connection : Option Connection) (earlier probes : List Probe) (tree : Tree),
      (compiler.compile settings column expression connection).run earlier =
        (.ok tree, probes) →
      (∀ group ∈ tree.groups, ∀ fragment ∈ group, fragment.condition.Normal) ∧
      ∀ condition, tree.condition = some condition → condition.Normal) ∧
    ∀ (rows : Valuation → Prop) (condition : Condition), condition.Normal →
      condition.Independent rows →
      (condition.isAlways = true ↔ ∀ row, rows row → condition.truth row = .yes) := by
  refine ⟨fun _ => Condition.normal_conjoin, fun _ => Condition.normal_disjoin,
    fun _ => Condition.Normal.negate, ?_,
    fun _ _ => Condition.Normal.isAlways_iff_of_independent⟩
  intro compiler settings column expression connection earlier probes tree run
  obtain ⟨dialect, chain, -, -, -, compiles⟩ := compiles_of_compile run
  have normal : ∀ group ∈ tree.groups, ∀ fragment ∈ group, fragment.condition.Normal := by
    intro group member fragment inside
    have made := compiles.wellFormed fragment (List.mem_flatten.mpr ⟨group, member, inside⟩)
    exact made.flat.normal
  exact ⟨normal, fun condition combined => Tree.normal_condition combined normal⟩

/-- A condition of two layers, which fails in some row; so does its negation. -/
theorem compile_normal_nested :
    ∃ tree condition,
      (standard.compile partsOnly "code" "#a# & x | b" none).run [] = (.ok tree, []) ∧
      tree.condition = some condition ∧
      condition.Normal ∧ condition.negate.Normal ∧
      (∃ row, condition.truth row ≠ .yes) ∧ ∃ row, condition.negate.truth row ≠ .yes := by
  have segments : partsOnly.punctuation.segments "#a# & x | b" =
      [[⟨"#a#", false⟩, ⟨"x", false⟩], [⟨"b", false⟩]] := by
    decide +kernel
  obtain ⟨tree, run, present⟩ : ∃ tree,
      (standard.compile partsOnly "code" "#a# & x | b" none).run [] = (.ok tree, []) ∧
      tree.condition.isSome = true := by
    rw [compile, dialect_partsOnly, build_partsOnly, segments]
    exact ⟨.ofGroups
      [[(Marked.standard "#").partFragment ⟨"code", .mySql, none⟩ ⟨"#a#", false⟩ "a",
        Words.standard.fragment ⟨"code", .mySql, none⟩ ⟨"x", false⟩],
      [Words.standard.fragment ⟨"code", .mySql, none⟩ ⟨"b", false⟩]], rfl, by decide +kernel⟩
  obtain ⟨condition, combined⟩ := Option.isSome_iff_exists.mp present
  obtain ⟨-, -, closed, compiled, decides⟩ := compile_normal
  have fails : ∀ condition : Condition, condition.Normal → condition.isAlways = false →
      ∃ row, condition.truth row ≠ .yes := by
    intro condition normal restricts
    have decided := decides (fun _ => True) condition normal condition.independent_of_all
    rw [restricts] at decided
    simpa using decided
  have normal := (compiled standard partsOnly "code" "#a# & x | b" none [] [] tree run).2
    condition combined
  have restricts := (Tree.condition_eq_some_iff.mp combined).2.1
  have other : condition ≠ .always := by
    rintro rfl
    exact absurd restricts (by decide)
  have negated := (normal.reduced other).negate.isAlways_eq_false
  have normalNegate := closed condition normal other
  exact ⟨tree, condition, run, combined, normal, normalNegate,
    fails condition normal restricts, fails condition.negate normalNegate negated⟩

end Compiler

end ColumnFilter
