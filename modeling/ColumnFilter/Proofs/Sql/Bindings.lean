import ColumnFilter.Proofs.Sql.ParamNames

/-!
# Bindings of a tree

The first binding of a name wins, so a name that a tree binds has the value of
the first fragment that binds it.  When all fragments agree on the names that
they share, the values of a rendered tree are those that every fragment binds
by itself.
-/

namespace ColumnFilter

namespace Params

@[simp] theorem get?_empty (name : String) : (∅ : Params).get? name = none := rfl

theorem get?_eq_lookup (params : Params) (name : String) :
    params.get? name = params.entries.lookup name := by
  unfold get?
  induction params.entries with
  | nil => rfl
  | cons entry entries induction =>
      rw [List.find?_cons, List.lookup_cons, ← induction]
      by_cases same : name = entry.1
      · simp [same]
      · have reverse : (entry.1 == name) = false := by
          simpa using fun equal => same equal.symm
        simp only [reverse, beq_false_of_ne same]

theorem mem_names_iff {params : Params} {name : String} :
    name ∈ params.names ↔ (params.get? name).isSome = true := by
  simp [names, get?, List.find?_isSome]

/-- A binding takes effect where the name is not bound yet. -/
theorem get?_insert (params : Params) (name other : String) (value : Value) :
    (params.insert name value).get? other =
      (params.get? other).or (if other = name then some value else none) := by
  unfold insert
  by_cases known : name ∈ params.names
  · rw [dif_pos known]
    by_cases same : other = name
    · subst same
      obtain ⟨bound, found⟩ := Option.isSome_iff_exists.mp (mem_names_iff.mp known)
      simp [found]
    · simp [same]
  · rw [dif_neg known, get?_eq_lookup, get?_eq_lookup, List.lookup_append]
    by_cases same : other = name
    · simp [same]
    · simp [same, List.lookup_cons, List.lookup_nil, beq_false_of_ne same]

theorem get?_insertAll (params : Params) (entries : List (String × Value))
    (name : String) :
    (params.insertAll entries).get? name =
      (params.get? name).or (entries.lookup name) := by
  unfold insertAll
  induction entries generalizing params with
  | nil => simp
  | cons entry entries induction =>
      rw [List.foldl_cons, induction, get?_insert, Option.or_assoc, List.lookup_cons]
      by_cases same : name = entry.1
      · simp [same]
      · simp [same, beq_false_of_ne same]

/-- Bindings that are added count only where none was before. -/
theorem get?_extend (params other : Params) (name : String) :
    (params.extend other).get? name = (params.get? name).or (other.get? name) := by
  rw [extend, get?_insertAll, ← get?_eq_lookup]

theorem get?_ofList (entries : List (String × Value)) (name : String) :
    (ofList entries).get? name = entries.lookup name := by
  rw [ofList, get?_insertAll]
  rfl

theorem mem_of_get?_ofList {entries : List (String × Value)} {name : String}
    {value : Value} (bound : (ofList entries).get? name = some value) :
    (name, value) ∈ entries := by
  rw [get?_ofList] at bound
  obtain ⟨front, back, rfl, _⟩ := List.lookup_eq_some_iff.mp bound
  simp

theorem isSome_get?_ofList {entries : List (String × Value)} {name : String}
    (listed : name ∈ entries.map Prod.fst) :
    ((ofList entries).get? name).isSome = true := by
  obtain ⟨entry, member, rfl⟩ := List.mem_map.mp listed
  rw [get?_ofList, List.lookup_isSome_iff]
  exact ⟨entry, member, by simp⟩

/-- Items that agree on the values of shared names are all bound to their own values. -/
theorem get?_ofList_map {α : Type} {items : List α} {name : α → String} {value : α → Value}
    (agree : ∀ first ∈ items, ∀ second ∈ items, name first = name second →
      value first = value second) {item : α} (member : item ∈ items) :
    (ofList (items.map fun item => (name item, value item))).get? (name item) =
      some (value item) := by
  have listed : name item ∈ (items.map fun item => (name item, value item)).map Prod.fst := by
    rw [List.map_map]
    exact List.mem_map.mpr ⟨item, member, rfl⟩
  obtain ⟨bound, found⟩ := Option.isSome_iff_exists.mp (isSome_get?_ofList listed)
  obtain ⟨other, inside, entry⟩ := List.mem_map.mp (mem_of_get?_ofList found)
  obtain ⟨named, rfl⟩ := Prod.mk.inj entry
  rw [found, agree other inside item member named]

end Params

namespace Fragment

/-- What every fragment of a compiled segment is: a flat condition that binds
its own parameters. -/
structure WellFormed (fragment : Fragment) : Prop where
  flat : fragment.condition.Flat
  listed : fragment.condition.Listed
  bound : ∀ name ∈ fragment.condition.paramNames,
    (fragment.params.get? name).isSome = true

/-- What a fragment itself binds the parameters of its condition to, from left
to right. -/
def values (fragment : Fragment) : List (Option Value) :=
  fragment.condition.paramNames.map fragment.params.get?

theorem wellFormed_always : always.WellFormed :=
  ⟨.always, trivial, by simp [always, Condition.always, Condition.paramNames,
    Condition.paramNamesList]⟩

end Fragment

namespace Tree

/-- No two fragments bind one name to different values. -/
def Agreeing (tree : Tree) : Prop :=
  ∀ first ∈ tree.fragments, ∀ second ∈ tree.fragments, ∀ name value other,
    first.params.get? name = some value → second.params.get? name = some other →
      value = other

theorem get?_foldl_extend (fragments : List Fragment) (params : Params) (name : String) :
    (fragments.foldl (fun params fragment => params.extend fragment.params) params).get?
        name =
      (params.get? name).or
        (fragments.findSome? fun fragment => fragment.params.get? name) := by
  induction fragments generalizing params with
  | nil => simp
  | cons fragment fragments induction =>
      rw [List.foldl_cons, induction, Params.get?_extend, Option.or_assoc,
        List.findSome?_cons]
      cases fragment.params.get? name <;> rfl

/-- A tree binds a name as its first fragment that knows the name does. -/
theorem get?_params (tree : Tree) (name : String) :
    tree.params.get? name =
      tree.fragments.findSome? fun fragment => fragment.params.get? name := by
  rw [params, get?_foldl_extend]
  rfl

theorem isSome_get?_params {tree : Tree} {fragment : Fragment} {name : String}
    (member : fragment ∈ tree.fragments)
    (bound : (fragment.params.get? name).isSome = true) :
    (tree.params.get? name).isSome = true := by
  rw [get?_params, List.findSome?_isSome_iff]
  exact ⟨fragment, member, bound⟩

/-- Where fragments agree, merging their bindings takes nothing away from any. -/
theorem get?_params_of_agreeing {tree : Tree} (agreeing : tree.Agreeing)
    {fragment : Fragment} {name : String} {value : Value}
    (member : fragment ∈ tree.fragments)
    (bound : fragment.params.get? name = some value) :
    tree.params.get? name = some value := by
  have known := isSome_get?_params member (by rw [bound]; rfl)
  obtain ⟨merged, found⟩ := Option.isSome_iff_exists.mp known
  have source := found
  rw [get?_params] at source
  obtain ⟨first, inside, binding⟩ := List.exists_of_findSome?_eq_some source
  rw [found, agreeing first inside fragment member name merged value binding bound]

/-- A tree is rendered to nothing exactly when it has no condition. -/
theorem render_eq_none_iff {tree : Tree} {dialect : Dialect} :
    tree.render dialect = .ok none ↔ tree.condition = none := by
  rw [render]
  cases tree.condition with
  | none => simp
  | some condition =>
      simp only
      cases condition.render dialect tree.params <;> simp [Except.map]

/-- A tree of well-formed fragments is always rendered.  Its values are the
merged bindings of the fragments' parameters. -/
theorem render_of_condition_eq_some {tree : Tree} {condition : Condition}
    (combined : tree.condition = some condition)
    (wellFormed : ∀ fragment ∈ tree.fragments, fragment.WellFormed)
    (dialect : Dialect) :
    ∃ values,
      tree.render dialect =
        .ok (some ⟨String.join ((Template.ofCondition dialect condition).write dialect 0),
          values⟩) ∧
      values.map some =
        (tree.fragments.flatMap fun fragment => fragment.condition.paramNames).map
          tree.params.get? := by
  have listed := listed_condition combined fun fragment member =>
    (wellFormed fragment member).listed
  have names := paramNames_condition combined
  have known : ∀ name ∈ condition.paramNames, (tree.params.get? name).isSome = true := by
    intro name found
    rw [names] at found
    obtain ⟨fragment, member, inside⟩ := List.mem_flatMap.mp found
    exact isSome_get?_params member ((wellFormed fragment member).bound name inside)
  obtain ⟨values, complete⟩ := exists_map_eq_map_some_iff.mpr known
  have filled : (Template.ofCondition dialect condition).values tree.params = .ok values := by
    rw [Template.values_eq_ok_iff, Template.holes_ofCondition dialect condition,
      Condition.writtenNames_of_listed listed]
    exact complete
  refine ⟨values, ?_, ?_⟩
  · rw [render, combined]
    simp only [Condition.render, Template.fill, filled]
    rfl
  · rw [← complete, names]

/-- The values of a rendered tree are what its fragments bind by themselves. -/
theorem map_get?_params_of_agreeing {tree : Tree} (agreeing : tree.Agreeing)
    (wellFormed : ∀ fragment ∈ tree.fragments, fragment.WellFormed) :
    (tree.fragments.flatMap fun fragment => fragment.condition.paramNames).map
        tree.params.get? =
      tree.fragments.flatMap Fragment.values := by
  rw [List.map_flatMap, List.flatMap_def, List.flatMap_def]
  congr 1
  apply List.map_congr_left
  intro fragment member
  apply List.map_congr_left
  intro name inside
  obtain ⟨value, bound⟩ :=
    Option.isSome_iff_exists.mp ((wellFormed fragment member).bound name inside)
  rw [bound, get?_params_of_agreeing agreeing member bound]

end Tree

end ColumnFilter
