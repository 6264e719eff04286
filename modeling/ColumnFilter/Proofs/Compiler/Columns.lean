import ColumnFilter.Proofs.Compiler.Binding

/-!
# Filters on several columns

Filters on several columns are compiled one by one, and whoever combines them
merges their bindings.  A name digests a content followed by a column without a
mark between them, so `x` for the column `t.name` and `xt.` for the column `name`
have one name.  Where no two contents meet their columns in one text, the filters
agree on every name that they share, and merging loses nothing.
-/

namespace ColumnFilter

namespace Chain

/-- The contents that name the parameters of some segments. -/
def contents (chain : Chain) (target : Target) (segments : List Segment) : List String :=
  segments.flatMap fun segment => (chain.strategyFor target segment).contents segment

theorem digested_eq_map_contents (chain : Chain) (target : Target)
    (segments : List Segment) :
    chain.digested target segments =
      (chain.contents target segments).map (· ++ target.column) := by
  rw [digested, contents, List.map_flatMap]

/-- A tree binds only what one of its segments makes. -/
theorem Compiles.exists_makes_of_get?_params {chain : Chain} {target : Target}
    (steady : target.Steady) {earlier probes : List Probe} {segments : List Segment}
    {tree : Tree} (compiles : chain.Compiles target earlier segments tree.fragments probes)
    {name : String} {value : Value} (bound : tree.params.get? name = some value) :
    ∃ segment ∈ segments, ∃ fragment,
      (chain.strategyFor target segment).Makes target segment fragment ∧
        fragment.params.get? name = some value := by
  rw [Tree.get?_params] at bound
  obtain ⟨fragment, member, binding⟩ := List.exists_of_findSome?_eq_some bound
  obtain ⟨segment, listed, before, resolved⟩ := compiles.exists_of_mem member
  rw [chain.steady_resolve steady segment before] at resolved
  exact ⟨segment, listed, fragment, makes_of_resolve steady resolved, binding⟩

/-- What a segment binds is named by one of its contents. -/
theorem exists_content_of_binding {chain : Chain} {target : Target}
    {segments : List Segment} {segment : Segment} (listed : segment ∈ segments)
    {fragment : Fragment}
    (makes : (chain.strategyFor target segment).Makes target segment fragment)
    {name : String} {value : Value} (bound : fragment.params.get? name = some value) :
    ∃ kind, ∃ content ∈ chain.contents target segments,
      name = parameterName kind content target.column := by
  have known : ∀ content ∈ (chain.strategyFor target segment).contents segment,
      content ∈ chain.contents target segments := by
    intro content inside
    exact List.mem_flatMap.mpr ⟨segment, listed, inside⟩
  rcases makes.binding bound with ⟨word, inside, named, -⟩ | ⟨inside, kind, -, named⟩
  · exact ⟨"default", word, known word inside, named⟩
  · exact ⟨kind, segment.text, known segment.text inside, named⟩

end Chain

namespace Compiler

/-- The contents that name the parameters of an expression where there is no
connection. -/
def contents (compiler : Compiler) (settings : Settings) (column expression : String) :
    List String :=
  match compiler.dialect settings none,
    Chain.build compiler.strategies settings.filters with
  | .ok dialect, .ok chain =>
      chain.contents ⟨column, dialect, none⟩
        (settings.punctuation.segments expression).flatten
  | _, _ => []

/-- Filters on two columns agree on the names that both of them bind, and so
merging their bindings loses none, where a content of the one followed by its
column is a content of the other followed by its column only if the columns are
the same. -/
theorem compile_columns_agree (compiler : Compiler) (settings : Settings)
    (column column' expression expression' : String) (tree other : Tree)
    (compiled : (compiler.compile settings column expression none).result = .ok tree)
    (compiled' : (compiler.compile settings column' expression' none).result = .ok other)
    (separates : Digest.Separates
      ((compiler.contents settings column expression).map (· ++ column) ++
        (compiler.contents settings column' expression').map (· ++ column')))
    (apart : ∀ content ∈ compiler.contents settings column expression,
      ∀ content' ∈ compiler.contents settings column' expression',
        content ++ column = content' ++ column' → column = column') :
    (∀ name value value', tree.params.get? name = some value →
      other.params.get? name = some value' → value = value') ∧
    ∀ name value,
      tree.params.get? name = some value ∨ other.params.get? name = some value →
        (tree.params.extend other.params).get? name = some value := by
  obtain ⟨dialect, chain, selected, built, -, compiles⟩ :=
    compiles_of_compile (Prod.ext compiled rfl)
  obtain ⟨dialect', chain', selected', built', -, compiles'⟩ :=
    compiles_of_compile (Prod.ext compiled' rfl)
  obtain rfl : dialect = dialect' := Except.ok.inj (selected.symm.trans selected')
  obtain rfl : chain = chain' := Except.ok.inj (built.symm.trans built')
  simp only [contents, selected, built] at separates apart
  have steady : ∀ column, Target.Steady ⟨column, dialect, none⟩ := by
    simp [Target.Steady]
  have agree : ∀ name value value', tree.params.get? name = some value →
      other.params.get? name = some value' → value = value' := by
    intro name value value' bound bound'
    obtain ⟨segment, listed, fragment, makes, binding⟩ :=
      compiles.exists_makes_of_get?_params (steady column) bound
    obtain ⟨segment', listed', fragment', makes', binding'⟩ :=
      compiles'.exists_makes_of_get?_params (steady column') bound'
    obtain ⟨kind, content, inside, named⟩ := Chain.exists_content_of_binding listed makes binding
    obtain ⟨kind', content', inside', named'⟩ :=
      Chain.exists_content_of_binding listed' makes' binding'
    -- One name means one digested text, which here leaves only one column.
    have sameText : content ++ column = content' ++ column' := by
      apply separates
      · exact List.mem_append_left _ (List.mem_map_of_mem inside)
      · exact List.mem_append_right _ (List.mem_map_of_mem inside')
      · exact (parameterName_inj (named.symm.trans named')).2
    obtain rfl : column = column' := apart content inside content' inside' sameText
    have together : Digest.Separates (chain.digested ⟨column, dialect, none⟩
        ((settings.punctuation.segments expression).flatten ++
          (settings.punctuation.segments expression').flatten)) := by
      rw [Chain.digested_eq_map_contents, Chain.contents, List.flatMap_append, List.map_append]
      exact separates
    exact Chain.makes_agree together (List.mem_append_left _ listed)
      (List.mem_append_right _ listed') makes makes' binding binding'
  refine ⟨agree, ?_⟩
  intro name value bound
  rw [Params.get?_extend]
  rcases bound with bound | bound
  · rw [bound, Option.some_or]
  · cases known : tree.params.get? name with
    | none => rw [Option.none_or, bound]
    | some first => rw [agree name first value known bound, Option.some_or]

/-- A word that no filter takes, compiled by itself. -/
theorem compile_partsOnly_of_word (word column : String)
    (segments : partsOnly.punctuation.segments word = [[⟨word, false⟩]])
    (unmarked : (Marked.standard "#").markers.strip? word = none) :
    (standard.compile partsOnly column word none).result =
        .ok (.ofGroups [[Words.standard.fragment ⟨column, .mySql, none⟩ ⟨word, false⟩]]) ∧
      standard.contents partsOnly column word = Words.standard.words word := by
  constructor
  · rw [compile, dialect_partsOnly, build_partsOnly, segments]
    simp [compileGroups, compileGroup, Chain.resolve, Chain.firstAccepted, Strategy.accept,
      Marked.searchPart?, unmarked, Probed.result, Probed.run_bind, Except.map]
  · rw [contents, dialect_partsOnly, build_partsOnly, segments]
    simp [Chain.contents, Chain.strategyFor, Chain.acceptor?, Strategy.passes, Strategy.accept,
      Marked.searchPart?, unmarked, Probed.result, Strategy.contents]

/-- Different words on a column and on its unqualified name: nothing meets, and
both bindings survive the merge. -/
theorem compile_columns_agree_unqualified :
    ∃ tree other,
      (standard.compile partsOnly "t.name" "x" none).result = .ok tree ∧
      (standard.compile partsOnly "name" "y" none).result = .ok other ∧
      (tree.params.extend other.params).get? (parameterName "default" "x" "t.name") =
        some (.string "%x%") ∧
      (tree.params.extend other.params).get? (parameterName "default" "y" "name") =
        some (.string "%y%") := by
  obtain ⟨compiled, contents⟩ := compile_partsOnly_of_word "x" "t.name"
    (by decide +kernel) (by decide +kernel)
  obtain ⟨compiled', contents'⟩ := compile_partsOnly_of_word "y" "name"
    (by decide +kernel) (by decide +kernel)
  have words : Words.standard.words "x" = ["x"] := by decide +kernel
  have words' : Words.standard.words "y" = ["y"] := by decide +kernel
  have separates : Digest.Separates (["x"].map (· ++ "t.name") ++ ["y"].map (· ++ "name")) := by
    unfold Digest.Separates
    decide +kernel
  obtain ⟨-, kept⟩ := compile_columns_agree standard partsOnly "t.name" "name" "x" "y" _ _
    compiled compiled' (by rw [contents, contents', words, words']; exact separates)
    (by rw [contents, contents', words, words']; decide)
  refine ⟨_, _, compiled, compiled', kept _ _ (.inl ?_), kept _ _ (.inr ?_)⟩
  · decide +kernel
  · decide +kernel

/-- A word on a column and another word on its unqualified name, bound to
different values under one name, although one text only is digested. -/
theorem compile_columns_clash :
    ∃ tree other name,
      (standard.compile partsOnly "t.name" "x" none).result = .ok tree ∧
      (standard.compile partsOnly "name" "xt." none).result = .ok other ∧
      (standard.contents partsOnly "t.name" "x").map (· ++ "t.name") = ["xt.name"] ∧
      (standard.contents partsOnly "name" "xt.").map (· ++ "name") = ["xt.name"] ∧
      tree.params.get? name = some (.string "%x%") ∧
      other.params.get? name = some (.string "%xt.%") ∧
      (tree.params.extend other.params).get? name = some (.string "%x%") := by
  obtain ⟨compiled, contents⟩ := compile_partsOnly_of_word "x" "t.name"
    (by decide +kernel) (by decide +kernel)
  obtain ⟨compiled', contents'⟩ := compile_partsOnly_of_word "xt." "name"
    (by decide +kernel) (by decide +kernel)
  refine ⟨_, _, parameterName "default" "x" "t.name", compiled, compiled', ?_, ?_, ?_, ?_, ?_⟩
  · rw [contents]
    decide +kernel
  · rw [contents']
    decide +kernel
  · decide +kernel
  · decide +kernel
  · decide +kernel

end Compiler

end ColumnFilter
