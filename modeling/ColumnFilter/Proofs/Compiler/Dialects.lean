import ColumnFilter.Proofs.Compiler.Meaning
import ColumnFilter.Proofs.Compiler.Outcome
import ColumnFilter.Proofs.Strategy.Dialects

/-!
# One expression in two dialects

Without a connection a dialect decides about nothing but the spelling of
conditions.  Trees of two dialects have the same bindings at the same places, and
rendered statements have the same values.
-/

namespace ColumnFilter

namespace Chain

variable {chain : Chain} {column : String} {dialect dialect' : Dialect}

/-- A segment becomes like fragments in two dialects. -/
theorem alike_of_resolve {segment : Segment} {fragment other : Fragment}
    {earlier earlier' : List Probe}
    (resolved : ((chain.resolve ⟨column, dialect, none⟩ segment).run earlier).1 = .ok fragment)
    (resolved' : ((chain.resolve ⟨column, dialect', none⟩ segment).run earlier').1 =
      .ok other) : fragment.Alike other := by
  have steady (dialect : Dialect) : Target.Steady ⟨column, dialect, none⟩ := by
    simp [Target.Steady]
  rw [chain.steady_resolve (steady dialect)] at resolved
  rw [chain.steady_resolve (steady dialect')] at resolved'
  have makes := makes_of_resolve (steady dialect) resolved
  have makes' := makes_of_resolve (steady dialect') resolved'
  obtain ⟨text, negated⟩ := segment
  have agrees : Target.Agrees ⟨column, dialect, none⟩ ⟨column, dialect', none⟩ :=
    fun _ _ => rfl
  rw [chain.strategyFor_eq_of_agrees agrees text negated negated] at makes
  refine makes.alike ?_ makes'
  rfl

theorem Compiles.alike {earlier earlier' probes probes' : List Probe} {segments : List Segment}
    {fragments others : List Fragment}
    (compiles : chain.Compiles ⟨column, dialect, none⟩ earlier segments fragments probes)
    (compiles' : chain.Compiles ⟨column, dialect', none⟩ earlier' segments others probes') :
    List.Forall₂ Fragment.Alike fragments others := by
  induction compiles generalizing earlier' others probes' with
  | nil =>
      cases compiles'
      exact .nil
  | cons resolved rest induction =>
      cases compiles' with
      | cons resolved' rest' =>
          refine .cons ?_ (induction rest')
          exact alike_of_resolve (congrArg Prod.fst resolved) (congrArg Prod.fst resolved')

end Chain

/-- What depends on one side of related members only, and agrees, has the same images. -/
theorem map_eq_map_of_forall₂ {α β γ : Type} {relation : α → β → Prop} {f : α → γ} {g : β → γ}
    (agrees : ∀ item other, relation item other → f item = g other) {items : List α}
    {others : List β} (related : List.Forall₂ relation items others) :
    items.map f = others.map g := by
  induction related with
  | nil => rfl
  | cons here _ induction => rw [List.map_cons, List.map_cons, agrees _ _ here, induction]

namespace Tree

/-- Trees of the same shape whose fragments are alike. -/
def Alike (tree other : Tree) : Prop :=
  List.Forall₂ (List.Forall₂ Fragment.Alike) tree.groups other.groups

namespace Alike

variable {tree other : Tree}

theorem fragments (alike : tree.Alike other) :
    List.Forall₂ Fragment.Alike tree.fragments other.fragments :=
  List.rel_flatten alike

theorem params_eq (alike : tree.Alike other) : tree.params = other.params := by
  have same : tree.fragments.map Fragment.params = other.fragments.map Fragment.params :=
    map_eq_map_of_forall₂ (fun _ _ alike => alike.params) alike.fragments
  have folded (tree : Tree) :
      tree.params = (tree.fragments.map Fragment.params).foldl Params.extend ∅ := by
    rw [List.foldl_map]
    rfl
  rw [folded, folded, same]

theorem paramNames_eq (alike : tree.Alike other) :
    (tree.fragments.flatMap fun fragment => fragment.condition.paramNames) =
      other.fragments.flatMap fun fragment => fragment.condition.paramNames := by
  rw [List.flatMap_def, List.flatMap_def]
  exact congrArg List.flatten
    (map_eq_map_of_forall₂ (fun _ _ alike => alike.paramNames) alike.fragments)

/-- Both trees restrict something, or both nothing. -/
theorem condition_eq_none_iff (alike : tree.Alike other) (flat : tree.Flat)
    (flat' : other.Flat) : tree.condition = none ↔ other.condition = none := by
  have marks : tree.groups.map (List.map Fragment.isAlways) =
      other.groups.map (List.map Fragment.isAlways) := by
    refine map_eq_map_of_forall₂ ?_ alike
    exact fun _ _ => map_eq_map_of_forall₂ fun _ _ alike => alike.isAlways
  have marked (tree : Tree) :
      (tree.isEmpty = true ∨
          ∃ group ∈ tree.groups, ∀ fragment ∈ group, fragment.isAlways = true) ↔
        tree.groups.map (List.map Fragment.isAlways) = [] ∨
          ∃ marks ∈ tree.groups.map (List.map Fragment.isAlways),
            ∀ mark ∈ marks, mark = true := by
    simp [isEmpty]
  rw [Tree.condition_eq_none_iff flat, Tree.condition_eq_none_iff flat', marked, marked, marks]

/-- Trees that are alike are rendered to nothing both, or to statements with the same
values. -/
theorem render (alike : tree.Alike other)
    (wellFormed : ∀ fragment ∈ tree.fragments, fragment.WellFormed)
    (wellFormed' : ∀ fragment ∈ other.fragments, fragment.WellFormed)
    (dialect dialect' : Dialect) :
    (tree.render dialect = .ok none ∧ other.render dialect' = .ok none) ∨
      ∃ statement statement', tree.render dialect = .ok (some statement) ∧
        other.render dialect' = .ok (some statement') ∧
        statement.values = statement'.values := by
  have restricts := alike.condition_eq_none_iff
    (fun group member fragment inside =>
      (wellFormed fragment (List.mem_flatten_of_mem member inside)).flat)
    (fun group member fragment inside =>
      (wellFormed' fragment (List.mem_flatten_of_mem member inside)).flat)
  cases combined : tree.condition with
  | none =>
      exact .inl ⟨render_eq_none_iff.mpr combined,
        render_eq_none_iff.mpr (restricts.mp combined)⟩
  | some condition =>
      have present : other.condition ≠ none := by
        rw [ne_eq, ← restricts, combined]
        simp
      obtain ⟨condition', combined'⟩ := Option.ne_none_iff_exists'.mp present
      obtain ⟨values, rendered, bound⟩ :=
        render_of_condition_eq_some combined wellFormed dialect
      obtain ⟨values', rendered', bound'⟩ :=
        render_of_condition_eq_some combined' wellFormed' dialect'
      refine .inr ⟨_, _, rendered, rendered', ?_⟩
      rw [alike.params_eq, alike.paramNames_eq, ← bound'] at bound
      exact (List.map_inj_right fun _ _ => Option.some.inj).mp bound

end Alike

end Tree

namespace Compiler

/-- Without a connection every expression becomes a tree. -/
theorem exists_compile_disconnected {compiler : Compiler} {settings : Settings}
    {dialect : Dialect} {chain : Chain}
    (complete : ∀ entry ∈ chain.entries, entry.strategy.Complete)
    (selected : compiler.dialect settings none = .ok dialect)
    (built : Chain.build compiler.strategies settings.filters = .ok chain)
    (column expression : String) (earlier : List Probe) :
    ∃ tree, (compiler.compile settings column expression none).run earlier = (.ok tree, []) := by
  have heeds : (compileGroups chain ⟨column, dialect, none⟩ _).Heeds _ :=
    heeds_compileGroups complete (settings.punctuation.segments expression)
  obtain ⟨patterns, made, silent, ends⟩ := heeds earlier
  obtain rfl := silent rfl
  rw [compile_eq selected built, Probed.run_map, made]
  rcases ends.value_or_error with ⟨⟨groups, done⟩, -⟩ | ⟨reason, before, -, answered, -⟩
  · exact ⟨.ofGroups groups, by rw [done]; rfl⟩
  · simp [Target.answers] at answered

/-- Without a connection an expression becomes trees of the same shape in any two
dialects: in the same places their fragments have the same bindings, and restrict
something or nothing.  Either both trees are rendered to nothing, or to statements with
the same values. -/
theorem compile_dialects (compiler : Compiler) {settings : Settings} {chain : Chain}
    {id id' : DialectId} {dialect dialect' : Dialect}
    (valid : settings.NumbersValid compiler.strategies)
    (built : Chain.build compiler.strategies settings.filters = .ok chain)
    (selected : compiler.dialect (settings.withDialect id) none = .ok dialect)
    (selected' : compiler.dialect (settings.withDialect id') none = .ok dialect')
    (column expression : String) (earlier : List Probe) :
    ∃ tree other,
      (compiler.compile (settings.withDialect id) column expression none).run earlier =
        (.ok tree, []) ∧
      (compiler.compile (settings.withDialect id') column expression none).run earlier =
        (.ok other, []) ∧
      List.Forall₂ (List.Forall₂ fun fragment fragment' =>
          fragment.params = fragment'.params ∧ fragment.isAlways = fragment'.isAlways)
        tree.groups other.groups ∧
      ((tree.render dialect = .ok none ∧ other.render dialect' = .ok none) ∨
        ∃ statement statement', tree.render dialect = .ok (some statement) ∧
          other.render dialect' = .ok (some statement') ∧
          statement.values = statement'.values) := by
  have complete := Chain.complete_of_build valid built
  obtain ⟨tree, run⟩ :=
    exists_compile_disconnected complete selected built column expression earlier
  obtain ⟨other, run'⟩ :=
    exists_compile_disconnected complete selected' built column expression earlier
  refine ⟨tree, other, run, run', ?_⟩
  obtain ⟨_, source, chosen, made, lengths, compiles⟩ := compiles_of_compile run
  obtain rfl := Except.ok.inj (selected.symm.trans chosen)
  obtain rfl := Except.ok.inj (built.symm.trans made)
  obtain ⟨_, source, chosen, made, lengths', compiles'⟩ := compiles_of_compile run'
  obtain rfl := Except.ok.inj (selected'.symm.trans chosen)
  obtain rfl := Except.ok.inj (built.symm.trans made)
  have alike : tree.Alike other :=
    forall₂_of_forall₂_flatten (lengths'.trans lengths.symm) (compiles.alike compiles')
  constructor
  · refine List.Forall₂.imp (fun _ _ => List.Forall₂.imp ?_) alike
    exact fun _ _ alike => ⟨alike.params, alike.isAlways⟩
  · exact alike.render compiles.wellFormed compiles'.wellFormed dialect dialect'

/-- A pattern and a whole value, in a dialect that writes the pattern behind the column
and in one that writes it in front. -/
theorem compile_dialects_positional :
    let settings : Settings := { Settings.standard with
      filters := [("pattern", .ofKind "regex" 10), ("whole", .ofKind "exact" 20)] }
    let expression := "!/a/ | \"b\""
    settings.NumbersValid standard.strategies ∧
    ∃ tree other statement statement',
      (standard.compile (settings.withDialect (.ofString "postgres")) "name" expression
        none).run [] = (.ok tree, []) ∧
      (standard.compile (settings.withDialect (.ofString "mssql")) "name" expression
        none).run [] = (.ok other, []) ∧
      List.Forall₂ (List.Forall₂ fun fragment fragment' =>
          fragment.params = fragment'.params ∧ fragment.isAlways = fragment'.isAlways)
        tree.groups other.groups ∧
      tree.render .postgres = .ok (some statement) ∧
      other.render .sqlServer = .ok (some statement') ∧
      statement.values = [.string "a", .string "b"] ∧
      statement'.values = statement.values := by
  intro settings expression
  have valid : settings.NumbersValid standard.strategies := by
    apply Settings.numbersValid_of_options_nil
    decide +kernel
  have built : Chain.build standard.strategies settings.filters =
      .ok ⟨[⟨"pattern", 10, .regex (.standard "/")⟩, ⟨"whole", 20, .exact (.standard "\"")⟩]⟩ :=
    rfl
  have selected : standard.dialect (settings.withDialect (.ofString "postgres")) none =
      .ok .postgres := rfl
  have selected' : standard.dialect (settings.withDialect (.ofString "mssql")) none =
      .ok .sqlServer := rfl
  have known :
      ((standard.compile (settings.withDialect (.ofString "postgres")) "name" expression
        none).run []).1.toOption.map (fun tree =>
          (tree.render .postgres).toOption.map (Option.map Statement.values)) =
      some (some (some [.string "a", .string "b"])) := by
    decide +kernel
  obtain ⟨tree, other, run, run', alike, ends⟩ :=
    compile_dialects standard valid built selected selected' "name" expression []
  rw [run] at known
  have values := Option.some.inj known
  rcases ends with ⟨vacant, -⟩ | ⟨statement, statement', rendered, rendered', same⟩
  · simp [vacant, Except.toOption] at values
  · refine ⟨valid, tree, other, statement, statement', run, run', alike, rendered, rendered',
      ?_, same.symm⟩
    simpa [rendered, Except.toOption] using values

end Compiler

end ColumnFilter
