import ColumnFilter.Proofs.Compiler.Meaning
import ColumnFilter.Proofs.Chain.Inversion
import ColumnFilter.Proofs.Strategy.Naming

/-!
# Binding the placeholders of a tree

The fragments of one tree share names only where they share contents, and then
they bind the same values: one text always goes to the same strategy.  So
merging their bindings loses nothing, and every placeholder gets the value that
its own segment meant.
-/

namespace ColumnFilter

namespace Chain

/-- The texts that are digested to name the parameters of some segments. -/
def digested (chain : Chain) (target : Target) (segments : List Segment) : List String :=
  segments.flatMap fun segment =>
    ((chain.strategyFor target segment).contents segment).map (· ++ target.column)

/-- Two fragments of one compilation bind a name that they share to one value. -/
theorem makes_agree {chain : Chain} {target : Target} {segments : List Segment}
    (separates : Digest.Separates (chain.digested target segments))
    {first second : Segment} (firstListed : first ∈ segments)
    (secondListed : second ∈ segments) {fragment other : Fragment}
    (makesFirst : (chain.strategyFor target first).Makes target first fragment)
    (makesSecond : (chain.strategyFor target second).Makes target second other)
    {name : String} {value value' : Value}
    (bound : fragment.params.get? name = some value)
    (bound' : other.params.get? name = some value') : value = value' := by
  have sameContent : ∀ {content content' : String},
      content ∈ (chain.strategyFor target first).contents first →
      content' ∈ (chain.strategyFor target second).contents second →
      Digest.ofString (content ++ target.column) =
        Digest.ofString (content' ++ target.column) → content = content' := by
    intro content content' inside inside' digests
    refine (String.append_left_inj _).mp (separates _ ?_ _ ?_ digests)
    · exact List.mem_flatMap.mpr ⟨first, firstListed, List.mem_map_of_mem inside⟩
    · exact List.mem_flatMap.mpr ⟨second, secondListed, List.mem_map_of_mem inside'⟩
  rcases makesFirst.binding bound with
    ⟨word, inside, rfl, rfl⟩ | ⟨inside, kind, other, rfl⟩
  · rcases makesSecond.binding bound' with
      ⟨word', inside', same, rfl⟩ | ⟨_, kind', other', same⟩
    · rw [sameContent inside inside' (parameterName_inj same).2]
    · exact absurd (parameterName_inj same).1.symm other'
  · rcases makesSecond.binding bound' with
      ⟨_, _, same, _⟩ | ⟨inside', kind', other', same⟩
    · exact absurd (parameterName_inj same).1 other
    · obtain ⟨text, negated⟩ := first
      obtain ⟨text', negated'⟩ := second
      obtain rfl : text = text' := sameContent inside inside' (parameterName_inj same).2
      rw [chain.strategyFor_inverted target text negated negated'] at makesFirst
      rw [makesFirst.params_inverted makesSecond, bound'] at bound
      exact (Option.some.inj bound).symm

theorem Compiles.agreeing {chain : Chain} {target : Target} (steady : target.Steady)
    {earlier probes : List Probe} {segments : List Segment} {tree : Tree}
    (compiles : chain.Compiles target earlier segments tree.fragments probes)
    (separates : Digest.Separates (chain.digested target segments)) : tree.Agreeing := by
  have made : ∀ fragment ∈ tree.fragments, ∃ segment ∈ segments,
      (chain.strategyFor target segment).Makes target segment fragment := by
    intro fragment member
    obtain ⟨segment, listed, before, resolved⟩ := compiles.exists_of_mem member
    rw [chain.steady_resolve steady segment before] at resolved
    exact ⟨segment, listed, makes_of_resolve steady resolved⟩
  intro first firstMember second secondMember name value other bound bound'
  obtain ⟨segment, listed, makes⟩ := made first firstMember
  obtain ⟨segment', listed', makes'⟩ := made second secondMember
  exact makes_agree separates listed listed' makes makes' bound bound'

end Chain

namespace Compiler

/-- The texts that are digested to name the parameters of an expression. -/
def digested (compiler : Compiler) (settings : Settings) (column expression : String)
    (connection : Option Connection) : List String :=
  match compiler.dialect settings connection,
    Chain.build compiler.strategies settings.filters with
  | .ok dialect, .ok chain =>
      chain.digested ⟨column, dialect, connection⟩
        (settings.punctuation.segments expression).flatten
  | _, _ => []

/-- A compiled tree is rendered without failure in every dialect.  Its values
are those that every fragment binds the parameters of its own condition to, one
fragment after the other: merging the bindings takes none of them away. -/
theorem compile_binding (compiler : Compiler) (settings : Settings)
    (column expression : String) (connection : Option Connection)
    (steady : ∀ live ∈ connection, live.Steady) (earlier probes : List Probe) (tree : Tree)
    (run : (compiler.compile settings column expression connection).run earlier =
      (.ok tree, probes))
    (separates : Digest.Separates (compiler.digested settings column expression connection))
    (rendered : Dialect) :
    ∃ result,
      tree.render rendered = .ok result ∧
      (∀ statement ∈ result,
        statement.values.map some =
          tree.groups.flatMap fun group => group.flatMap Fragment.values) ∧
      ∀ group ∈ tree.groups, ∀ fragment ∈ group, ∀ name value,
        fragment.params.get? name = some value → tree.params.get? name = some value := by
  obtain ⟨dialect, chain, selected, built, -, compiles⟩ := compiles_of_compile run
  simp only [digested, selected, built] at separates
  have steadyTarget : Target.Steady ⟨column, dialect, connection⟩ := steady
  have agreeing := compiles.agreeing steadyTarget separates
  have wellFormed := compiles.wellFormed
  have unchanged : ∀ group ∈ tree.groups, ∀ fragment ∈ group, ∀ name value,
      fragment.params.get? name = some value → tree.params.get? name = some value :=
    fun group listed fragment member name value bound =>
      Tree.get?_params_of_agreeing agreeing
        (List.mem_flatten.mpr ⟨group, listed, member⟩) bound
  cases combined : tree.condition with
  | none =>
      refine ⟨none, Tree.render_eq_none_iff.mpr combined, ?_, unchanged⟩
      simp
  | some condition =>
      obtain ⟨values, complete, bound⟩ :=
        Tree.render_of_condition_eq_some combined wellFormed rendered
      refine ⟨_, complete, ?_, unchanged⟩
      rintro statement ⟨⟩
      rw [bound, Tree.map_get?_params_of_agreeing agreeing wellFormed, Tree.fragments,
        List.flatten_eq_flatMap, List.flatMap_assoc]
      rfl

/-- A part that is sought in one alternative and excluded in the other is bound
under one name, and still each placeholder has its value. -/
theorem compile_binding_shared :
    ∃ tree statement,
      (standard.compile partsOnly "code" "#a# | !#a# & x" none).run [] = (.ok tree, []) ∧
      tree.render .postgres = .ok (some statement) ∧
      tree.params.size = 2 ∧
      statement.values = [.string "%a%", .string "%a%", .string "%x%"] := by
  have segments : partsOnly.punctuation.segments "#a# | !#a# & x" =
      [[⟨"#a#", false⟩], [⟨"#a#", true⟩, ⟨"x", false⟩]] := by
    decide +kernel
  have run : (standard.compile partsOnly "code" "#a# | !#a# & x" none).run [] =
      (.ok (.ofGroups
        [[(Marked.standard "#").partFragment ⟨"code", .mySql, none⟩ ⟨"#a#", false⟩ "a"],
          [(Marked.standard "#").partFragment ⟨"code", .mySql, none⟩ ⟨"#a#", true⟩ "a",
            Words.standard.fragment ⟨"code", .mySql, none⟩ ⟨"x", false⟩]]), []) := by
    rw [compile, dialect_partsOnly, build_partsOnly, segments]
    rfl
  have separates : Digest.Separates
      (standard.digested partsOnly "code" "#a# | !#a# & x" none) := by
    have digested : standard.digested partsOnly "code" "#a# | !#a# & x" none =
        ["#a#code", "#a#code", "xcode"] := by
      rw [digested, dialect_partsOnly, build_partsOnly, segments]
      decide +kernel
    rw [digested]
    unfold Digest.Separates
    decide +kernel
  obtain ⟨result, rendered, values, -⟩ :=
    compile_binding standard partsOnly "code" "#a# | !#a# & x" none (by simp) [] [] _ run
      separates .postgres
  cases result with
  | none =>
      have missing := congrArg Option.isSome (Tree.render_eq_none_iff.mp rendered)
      exact absurd missing (by decide +kernel)
  | some statement =>
      have bound := values statement rfl
      have meant : statement.values.map some =
          [.string "%a%", .string "%a%", .string "%x%"].map some := by
        rw [bound]
        decide +kernel
      exact ⟨_, statement, run, rendered, by decide +kernel,
        (List.map_inj_right fun _ _ => Option.some.inj).mp meant⟩

end Compiler

end ColumnFilter
