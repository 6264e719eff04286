import ColumnFilter.Proofs.Compiler.Meaning
import ColumnFilter.Proofs.Sql.Bindings
import ColumnFilter.Proofs.Sql.Skeleton

/-!
# No text of an expression in a statement

What a segment contributes to the text of a statement is fixed by the filter
that takes it and by a few marks of its form.  Expressions that agree in those
are rendered to the same text, whatever else is written in them.
-/

namespace ColumnFilter

namespace Strategy

/-- The comparisons that a segment asks for, if it is taken as a range. -/
def operators (strategy : Strategy) (segment : Segment) : List Operator :=
  match strategy with
  | .range ranges =>
      match ranges.bounds segment.text with
      | .ok (some bounds) => bounds.map Range.Bound.operator
      | _ => []
  | _ => []

/-- The number of words in a segment, if it is taken as words. -/
def wordCount (strategy : Strategy) (segment : Segment) : Nat :=
  match strategy with
  | .words options => (options.words segment.text).length
  | _ => 0

end Strategy

theorem Range.skeleton_fragment (options : Options) (target : Target) (segment : Segment)
    (bounds : List Bound) :
    (fragment options target segment bounds).condition.skeleton =
      (Condition.conjoin ((bounds.map Bound.operator).map fun operator =>
        .compare (operand options target).skeleton operator (.param ""))).negateIf
          segment.negated := by
  simp only [fragment, Condition.skeleton_negateIf, Condition.skeleton_conjoin,
    List.map_map]
  rfl

theorem Marked.skeleton_partFragment (options : Marked) (target : Target)
    (segment : Segment) (inner : String) :
    (options.partFragment target segment inner).condition.skeleton =
      if (options.partFragment target segment inner).isAlways then .always
      else
        (Condition.compare (target.operand options.nullAsEmpty).skeleton .like
          (.param "")).negateIf segment.negated := by
  unfold partFragment
  split
  · rfl
  · cases segment.negated <;> rfl

theorem Words.skeleton_fragment (options : Words) (target : Target) (segment : Segment) :
    (options.fragment target segment).condition.skeleton =
      if (options.words segment.text).length = 0 then .always
      else
        (Condition.conjoin (List.replicate (options.words segment.text).length
          (.compare (target.operand options.nullAsEmpty).skeleton .like
            (.param "")))).negateIf segment.negated := by
  unfold fragment
  simp only [List.isEmpty_iff_length_eq_zero]
  split
  · rfl
  · rw [Condition.skeleton_negateIf, Condition.skeleton_conjoin, List.map_map,
      ← List.map_const']
    rfl

/-- Fragments of one strategy have the same skeleton when their segments agree
in the inversion, the comparisons, the number of words, and in whether they
restrict anything. -/
theorem Strategy.Makes.skeleton_eq {strategy : Strategy} {target : Target}
    {first second : Segment} {fragment other : Fragment}
    (makes : strategy.Makes target first fragment)
    (makes' : strategy.Makes target second other)
    (negated : first.negated = second.negated)
    (operators : strategy.operators first = strategy.operators second)
    (words : strategy.wordCount first = strategy.wordCount second)
    (unrestricted : fragment.isAlways = other.isAlways) :
    fragment.condition.skeleton = other.condition.skeleton := by
  cases makes with
  | range found =>
      cases makes' with
      | range found' =>
          simp only [Strategy.operators, found, found'] at operators
          rw [Range.skeleton_fragment, Range.skeleton_fragment, operators, negated]
  | exact marked =>
      cases makes' with
      | exact marked' =>
          simp only [Marked.wholeFragment, Condition.skeleton_negateIf, negated,
            Condition.skeleton, Expr.skeletons, Expr.skeleton]
  | substring marked =>
      cases makes' with
      | substring marked' =>
          rw [Marked.skeleton_partFragment, Marked.skeleton_partFragment, negated,
            unrestricted]
  | regex marked =>
      cases makes' with
      | regex marked' =>
          simp only [Dialect.patternFragment, negated]
          cases target.dialect <;>
            simp only [Dialect.patternCondition, Condition.skeleton, Expr.skeletons,
              Expr.skeleton]
  | words options =>
      cases makes' with
      | words _ =>
          simp only [Strategy.wordCount] at words
          rw [Words.skeleton_fragment, Words.skeleton_fragment, words, negated]

namespace Chain

/-- All that the text of a statement can tell of a segment. -/
structure Outline where
  negated : Bool
  /-- The place of the filter that takes the segment. -/
  acceptor : Option Nat
  operators : List Operator
  words : Nat
  unrestricted : Bool
  deriving DecidableEq, Repr

def outline (chain : Chain) (target : Target) (segment : Segment) : Outline where
  negated := segment.negated
  acceptor := chain.acceptor? target segment
  operators := (chain.strategyFor target segment).operators segment
  words := (chain.strategyFor target segment).wordCount segment
  unrestricted :=
    match (chain.resolve target segment).result with
    | .ok fragment => fragment.isAlways
    | .error _ => false

theorem skeleton_eq_of_outline_eq {chain : Chain} {target : Target}
    (steady : target.Steady) {first second : Segment} {fragment other : Fragment}
    (resolved : (chain.resolve target first).result = .ok fragment)
    (resolved' : (chain.resolve target second).result = .ok other)
    (alike : chain.outline target first = chain.outline target second) :
    fragment.condition.skeleton = other.condition.skeleton := by
  simp only [outline, Outline.mk.injEq, resolved, resolved'] at alike
  obtain ⟨negated, acceptor, operators, words, unrestricted⟩ := alike
  have sameStrategy : chain.strategyFor target first = chain.strategyFor target second := by
    rw [strategyFor, strategyFor, acceptor]
  have makes := makes_of_resolve steady resolved
  have makes' := makes_of_resolve steady resolved'
  rw [sameStrategy] at makes operators words
  exact makes.skeleton_eq makes' negated operators words unrestricted

theorem Compiles.skeletons_eq {chain : Chain} {target : Target} (steady : target.Steady)
    {earlier earlier' probes probes' : List Probe} {first second : List Segment}
    {fragments others : List Fragment}
    (compiles : chain.Compiles target earlier first fragments probes)
    (compiles' : chain.Compiles target earlier' second others probes')
    (alike : first.map (chain.outline target) = second.map (chain.outline target)) :
    (fragments.map fun fragment => fragment.condition.skeleton) =
      others.map fun fragment => fragment.condition.skeleton := by
  induction compiles generalizing earlier' second others probes' with
  | nil =>
      cases compiles' with
      | nil => rfl
      | cons first rest => simp at alike
  | @cons earlier _ _ segment _ fragment _ resolved rest induction =>
      cases compiles' with
      | nil => simp at alike
      | @cons _ _ _ segment' _ fragment' _ resolved' rest' =>
          obtain ⟨here, there⟩ := List.cons.inj alike
          have plain : (chain.resolve target segment).result = .ok fragment := by
            rw [Probed.result, ← chain.steady_resolve steady segment earlier, resolved]
          have plain' : (chain.resolve target segment').result = .ok fragment' := by
            rw [Probed.result, ← chain.steady_resolve steady segment' earlier', resolved']
          rw [List.map_cons, List.map_cons, induction rest' there,
            skeleton_eq_of_outline_eq steady plain plain' here]

end Chain

namespace Tree

/-- The text of a rendered tree follows from its skeletons. -/
theorem sql_eq_of_skeletons_eq {tree other : Tree}
    (wellFormed : ∀ fragment ∈ tree.fragments, fragment.WellFormed)
    (wellFormed' : ∀ fragment ∈ other.fragments, fragment.WellFormed)
    (same : tree.skeletons = other.skeletons) (dialect : Dialect) :
    ∃ result result',
      tree.render dialect = .ok result ∧ other.render dialect = .ok result' ∧
        result.map Statement.sql = result'.map Statement.sql := by
  have alike : tree.condition.map Condition.skeleton =
      other.condition.map Condition.skeleton := by
    rw [map_skeleton_condition, map_skeleton_condition, same]
  cases combined : tree.condition with
  | none =>
      have vacant : other.condition = none := by
        simpa [combined] using alike.symm
      exact ⟨none, none, render_eq_none_iff.mpr combined,
        render_eq_none_iff.mpr vacant, rfl⟩
  | some condition =>
      obtain ⟨condition', combined', skeletons⟩ : ∃ condition',
          other.condition = some condition' ∧ condition'.skeleton = condition.skeleton := by
        rw [combined, Option.map_some] at alike
        exact Option.map_eq_some_iff.mp alike.symm
      obtain ⟨values, rendered, -⟩ :=
        render_of_condition_eq_some combined wellFormed dialect
      obtain ⟨values', rendered', -⟩ :=
        render_of_condition_eq_some combined' wellFormed' dialect
      refine ⟨_, _, rendered, rendered', ?_⟩
      rw [← Template.write_skeleton, ← Template.ofCondition_skeleton, ← skeletons,
        Template.ofCondition_skeleton, Template.write_skeleton]
      rfl

end Tree

namespace Compiler

/-- The outlines of the segments of an expression, group by group, where there is
no connection. -/
def outlines (compiler : Compiler) (settings : Settings) (column expression : String) :
    List (List Chain.Outline) :=
  match compiler.dialect settings none,
    Chain.build compiler.strategies settings.filters with
  | .ok dialect, .ok chain =>
      (settings.punctuation.segments expression).map fun group =>
        group.map (chain.outline ⟨column, dialect, none⟩)
  | _, _ => []

/-- Whatever is written in their segments, expressions with the same outlines are
rendered to the same text, or both to none. -/
theorem render_eq_of_outlines_eq (compiler : Compiler) (settings : Settings)
    (column first second : String) (tree other : Tree)
    (compiled : (compiler.compile settings column first none).result = .ok tree)
    (compiled' : (compiler.compile settings column second none).result = .ok other)
    (alike : compiler.outlines settings column first =
      compiler.outlines settings column second)
    (dialect : Dialect) :
    ∃ result result',
      tree.render dialect = .ok result ∧ other.render dialect = .ok result' ∧
        result.map Statement.sql = result'.map Statement.sql := by
  obtain ⟨source, chain, selected, built, lengths, compiles⟩ :=
    compiles_of_compile (Prod.ext compiled rfl)
  obtain ⟨source', chain', selected', built', lengths', compiles'⟩ :=
    compiles_of_compile (Prod.ext compiled' rfl)
  obtain rfl : source = source' := Except.ok.inj (selected.symm.trans selected')
  obtain rfl : chain = chain' := Except.ok.inj (built.symm.trans built')
  have steady : Target.Steady ⟨column, source, none⟩ := by
    simp [Target.Steady]
  simp only [outlines, selected, built] at alike
  obtain ⟨flat, sizes⟩ := List.eq_iff_flatten_eq.mp alike
  have skeletons := compiles.skeletons_eq steady compiles'
    (by simpa only [List.map_flatten] using flat)
  apply Tree.sql_eq_of_skeletons_eq compiles.wellFormed compiles'.wellFormed
  refine List.eq_iff_flatten_eq.mpr ⟨?_, ?_⟩
  · simpa only [Tree.skeletons, Tree.fragments, List.map_flatten] using skeletons
  · simp only [Tree.skeletons, List.map_map, Function.comp_def, List.length_map] at sizes ⊢
    exact lengths.trans (sizes.trans lengths'.symm)

/-- A quote and a comment mark inside a segment change nothing in the text. -/
theorem render_eq_of_outlines_eq_quoted :
    ∃ tree other statement statement',
      (standard.compile partsOnly "code" "#a# & x" none).result = .ok tree ∧
      (standard.compile partsOnly "code" "#'--# & %" none).result = .ok other ∧
      tree.render .postgres = .ok (some statement) ∧
      other.render .postgres = .ok (some statement') ∧
      statement.sql = statement'.sql := by
  have segments : partsOnly.punctuation.segments "#a# & x" =
      [[⟨"#a#", false⟩, ⟨"x", false⟩]] := by
    decide +kernel
  have segments' : partsOnly.punctuation.segments "#'--# & %" =
      [[⟨"#'--#", false⟩, ⟨"%", false⟩]] := by
    decide +kernel
  have outlined : standard.outlines partsOnly "code" "#a# & x" =
      [[⟨false, some 0, [], 0, false⟩, ⟨false, none, [], 1, false⟩]] := by
    rw [outlines, dialect_partsOnly, build_partsOnly, segments]
    decide +kernel
  have outlined' : standard.outlines partsOnly "code" "#'--# & %" =
      [[⟨false, some 0, [], 0, false⟩, ⟨false, none, [], 1, false⟩]] := by
    rw [outlines, dialect_partsOnly, build_partsOnly, segments']
    decide +kernel
  have compiled : (standard.compile partsOnly "code" "#a# & x" none).result =
      .ok (.ofGroups
        [[(Marked.standard "#").partFragment ⟨"code", .mySql, none⟩ ⟨"#a#", false⟩ "a",
          Words.standard.fragment ⟨"code", .mySql, none⟩ ⟨"x", false⟩]]) := by
    rw [compile, dialect_partsOnly, build_partsOnly, segments]
    rfl
  have compiled' : (standard.compile partsOnly "code" "#'--# & %" none).result =
      .ok (.ofGroups
        [[(Marked.standard "#").partFragment ⟨"code", .mySql, none⟩
            ⟨"#'--#", false⟩ "'--",
          Words.standard.fragment ⟨"code", .mySql, none⟩ ⟨"%", false⟩]]) := by
    rw [compile, dialect_partsOnly, build_partsOnly, segments']
    rfl
  obtain ⟨result, result', rendered, rendered', same⟩ :=
    render_eq_of_outlines_eq standard partsOnly "code" "#a# & x" "#'--# & %" _ _
      compiled compiled' (outlined.trans outlined'.symm) .postgres
  cases result with
  | none =>
      have missing := congrArg Option.isSome (Tree.render_eq_none_iff.mp rendered)
      exact absurd missing (by decide +kernel)
  | some statement =>
      cases result' with
      | none => simp at same
      | some statement' =>
          exact ⟨_, _, statement, statement', compiled, compiled', rendered, rendered',
            Option.some.inj same⟩

end Compiler

end ColumnFilter
