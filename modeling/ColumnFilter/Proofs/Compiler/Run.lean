import Mathlib.Data.List.Forall2
import ColumnFilter.Compiler
import ColumnFilter.Proofs.Result
import ColumnFilter.Proofs.Sql.ParamNames

/-!
# Runs of the compiler

A successful run compiles every segment once, from left to right, after the
probes of the segments before it.  Groups keep their order and their sizes, so
the tree mirrors the segments of the expression.
-/

namespace ColumnFilter

/-- Segments are compiled one after the other, each after the probes that were
made before it; `probes` are all that they take. -/
inductive Chain.Compiles (chain : Chain) (target : Target) :
    (earlier : List Probe) → List Segment → List Fragment →
      (probes : List Probe) → Prop where
  | nil {earlier : List Probe} : Compiles chain target earlier [] [] []
  | cons {earlier probes others : List Probe} {segment : Segment}
      {segments : List Segment} {fragment : Fragment} {fragments : List Fragment}
      (first : (chain.resolve target segment).run earlier = (.ok fragment, probes))
      (rest : Compiles chain target (earlier ++ probes) segments fragments others) :
      Compiles chain target earlier (segment :: segments) (fragment :: fragments)
        (probes ++ others)

namespace Chain.Compiles

variable {chain : Chain} {target : Target} {earlier probes others : List Probe}
  {segments behind : List Segment} {fragments later : List Fragment}

theorem append (front : chain.Compiles target earlier segments fragments probes)
    (back : chain.Compiles target (earlier ++ probes) behind later others) :
    chain.Compiles target earlier (segments ++ behind) (fragments ++ later)
      (probes ++ others) := by
  induction front with
  | nil => simpa using back
  | cons first rest induction =>
      rw [List.append_assoc]
      refine .cons first (induction ?_)
      simpa using back

theorem length_eq (compiles : chain.Compiles target earlier segments fragments probes) :
    fragments.length = segments.length := by
  induction compiles with
  | nil => rfl
  | cons first rest induction => simp [induction]

/-- Segments and fragments belong together place by place. -/
theorem resolved (compiles : chain.Compiles target earlier segments fragments probes) :
    List.Forall₂ (fun segment fragment =>
        ∃ before, ((chain.resolve target segment).run before).1 = .ok fragment)
      segments fragments := by
  induction compiles with
  | nil => exact .nil
  | @cons earlier _ _ _ _ _ _ first rest induction =>
      exact .cons ⟨earlier, by rw [first]⟩ induction

/-- Every fragment is the one of some segment, at some time. -/
theorem exists_of_mem (compiles : chain.Compiles target earlier segments fragments probes)
    {fragment : Fragment} (member : fragment ∈ fragments) :
    ∃ segment ∈ segments, ∃ before,
      ((chain.resolve target segment).run before).1 = .ok fragment := by
  induction compiles with
  | nil => simp at member
  | @cons earlier probes others segment segments other fragments first rest induction =>
      rcases List.mem_cons.mp member with rfl | inside
      · exact ⟨segment, List.mem_cons_self, earlier, by rw [first]⟩
      · obtain ⟨segment, found, before, resolved⟩ := induction inside
        exact ⟨segment, List.mem_cons_of_mem _ found, before, resolved⟩

end Chain.Compiles

namespace Compiler

variable {chain : Chain} {target : Target} {earlier probes : List Probe}

/-- A group that compiles has compiled each of its segments. -/
theorem compiles_of_compileGroup {segments : List Segment} {fragments : List Fragment}
    (run : (compileGroup chain target segments).run earlier = (.ok fragments, probes)) :
    chain.Compiles target earlier segments fragments probes := by
  induction segments generalizing earlier fragments probes with
  | nil =>
      obtain ⟨rfl, rfl⟩ : [] = fragments ∧ [] = probes := by
        simpa [compileGroup] using run
      exact .nil
  | cons segment segments induction =>
      rw [compileGroup, Probed.run_bind] at run
      rcases resolved : (chain.resolve target segment).run earlier with
        ⟨error | fragment, first⟩
      · simp [resolved] at run
      · simp only [resolved, Probed.run_map] at run
        rcases remaining : (compileGroup chain target segments).run (earlier ++ first) with
          ⟨error | others, last⟩
        · simp [remaining, Except.map] at run
        · obtain ⟨rfl, rfl⟩ : fragment :: others = fragments ∧ first ++ last = probes := by
            simpa [remaining, Except.map] using run
          exact .cons resolved (induction remaining)

/-- Groups that compile keep their sizes, and have compiled all segments in
order. -/
theorem compiles_of_compileGroups {segments : List (List Segment)}
    {groups : List (List Fragment)}
    (run : (compileGroups chain target segments).run earlier = (.ok groups, probes)) :
    groups.map List.length = segments.map List.length ∧
      chain.Compiles target earlier segments.flatten groups.flatten probes := by
  induction segments generalizing earlier groups probes with
  | nil =>
      obtain ⟨rfl, rfl⟩ : [] = groups ∧ [] = probes := by
        simpa [compileGroups] using run
      exact ⟨rfl, .nil⟩
  | cons group segments induction =>
      rw [compileGroups, Probed.run_bind] at run
      rcases compiled : (compileGroup chain target group).run earlier with
        ⟨error | fragments, first⟩
      · simp [compiled] at run
      · simp only [compiled, Probed.run_map] at run
        rcases remaining : (compileGroups chain target segments).run (earlier ++ first) with
          ⟨error | others, last⟩
        · simp [remaining, Except.map] at run
        · obtain ⟨rfl, rfl⟩ : fragments :: others = groups ∧ first ++ last = probes := by
            simpa [remaining, Except.map] using run
          have front := compiles_of_compileGroup compiled
          obtain ⟨lengths, back⟩ := induction remaining
          refine ⟨?_, front.append back⟩
          rw [List.map_cons, List.map_cons, front.length_eq, lengths]

end Compiler

/-- Lists of the same sizes are related place by place when all that is in them is. -/
theorem forall₂_of_forall₂_flatten {α β : Type} {relation : α → β → Prop}
    {groups : List (List α)} {others : List (List β)}
    (lengths : others.map List.length = groups.map List.length)
    (related : List.Forall₂ relation groups.flatten others.flatten) :
    List.Forall₂ (List.Forall₂ relation) groups others := by
  induction groups generalizing others with
  | nil =>
      obtain rfl : others = [] := by simpa using lengths
      exact .nil
  | cons group groups induction =>
      cases others with
      | nil => simp at lengths
      | cons other others =>
          obtain ⟨here, there⟩ := List.cons.inj lengths
          rw [List.flatten_cons, List.flatten_cons] at related
          refine .cons ?_ (induction there ?_)
          · simpa [here] using List.forall₂_take group.length related
          · simpa [here] using List.forall₂_drop group.length related

theorem Punctuation.segments_ne_nil {punctuation : Punctuation} {expression : String}
    {group : List Segment} (member : group ∈ punctuation.segments expression) :
    group ≠ [] := by
  unfold segments split at member
  obtain ⟨texts, listed, rfl⟩ := List.mem_map.mp member
  obtain ⟨parts, kept, rfl⟩ := List.mem_map.mp listed
  have present := (List.mem_filter.mp kept).2
  simpa using present

namespace Tree

/-- Nothing is lost from groups that are not empty. -/
theorem groups_ofGroups {groups : List (List Fragment)}
    (inhabited : ∀ group ∈ groups, group ≠ []) : (ofGroups groups).groups = groups := by
  have pushed : ∀ tree : Tree, (groups.foldl push tree).groups = tree.groups ++ groups := by
    induction groups with
    | nil => simp
    | cons group groups induction =>
        intro tree
        have present := inhabited group List.mem_cons_self
        rw [List.foldl_cons,
          induction fun other member => inhabited other (List.mem_cons_of_mem group member)]
        simp [push, present]
  exact pushed empty

end Tree

namespace Compiler

/-- With a dialect and a chain, compiling an expression is compiling its groups. -/
theorem compile_eq {compiler : Compiler} {settings : Settings} {connection : Option Connection}
    {dialect : Dialect} {chain : Chain}
    (selected : compiler.dialect settings connection = .ok dialect)
    (built : Chain.build compiler.strategies settings.filters = .ok chain)
    (column expression : String) :
    compiler.compile settings column expression connection =
      (compileGroups chain ⟨column, dialect, connection⟩
        (settings.punctuation.segments expression)).map fun result =>
          result.map Tree.ofGroups := by
  simp only [compile, selected, built]

/-- A successful run of the compiler: the settings select a dialect and a
chain, and the chain compiles the segments of the expression, group by group. -/
theorem compiles_of_compile {compiler : Compiler} {settings : Settings}
    {column expression : String} {connection : Option Connection}
    {earlier probes : List Probe} {tree : Tree}
    (run : (compiler.compile settings column expression connection).run earlier =
      (.ok tree, probes)) :
    ∃ dialect chain,
      compiler.dialect settings connection = .ok dialect ∧
      Chain.build compiler.strategies settings.filters = .ok chain ∧
      tree.groups.map List.length =
        (settings.punctuation.segments expression).map List.length ∧
      chain.Compiles ⟨column, dialect, connection⟩ earlier
        (settings.punctuation.segments expression).flatten tree.fragments probes := by
  rcases selected : compiler.dialect settings connection with error | dialect
  · simp [compile, selected] at run
  · rcases built : Chain.build compiler.strategies settings.filters with error | chain
    · simp [compile, selected, built] at run
    · rw [compile_eq selected built, Probed.run_map] at run
      rcases compiled : (compileGroups chain ⟨column, dialect, connection⟩
          (settings.punctuation.segments expression)).run earlier with
        ⟨error | groups, last⟩
      · simp [compiled, Except.map] at run
      · obtain ⟨rfl, rfl⟩ : Tree.ofGroups groups = tree ∧ last = probes := by
          simpa [compiled, Except.map] using run
        obtain ⟨lengths, compiles⟩ := compiles_of_compileGroups compiled
        have inhabited : ∀ group ∈ groups, group ≠ [] := by
          intro group member vacant
          have sized := List.mem_map_of_mem (f := List.length) member
          rw [lengths, vacant] at sized
          obtain ⟨segments, listed, length⟩ := List.mem_map.mp sized
          exact Punctuation.segments_ne_nil listed (List.length_eq_zero_iff.mp length)
        rw [Tree.fragments, Tree.groups_ofGroups inhabited]
        exact ⟨dialect, chain, rfl, rfl, lengths, compiles⟩

/-- Settings for MySQL with a single filter, a search for the parts between `#`. -/
def partsOnly : Settings :=
  ⟨.standard, some (.ofString "mysql"), [], [("part", .ofKind "substring" 10)]⟩

theorem dialect_partsOnly (connection : Option Connection) :
    standard.dialect partsOnly connection = .ok .mySql := by
  rfl

theorem build_partsOnly :
    Chain.build standard.strategies partsOnly.filters =
      .ok ⟨[⟨"part", 10, .substring (.standard "#")⟩]⟩ := by
  rfl

end Compiler

end ColumnFilter
