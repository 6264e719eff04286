import ColumnFilter.Proofs.Sql.Bindings

/-!
# Merging of bindings

Bindings that are added in turn are the first ones of their names, in the order in which
they come.  So merging is associative, what is bound already stays where it is, and the
bindings of a tree depend only on the sequence of its fragments, not on its groups.
-/

namespace ColumnFilter

namespace Params

/-- The entries that bind their name first. -/
def firsts : List (String × Value) → List (String × Value)
  | [] => []
  | entry :: rest => entry :: (firsts rest).filter fun other => other.1 ≠ entry.1

theorem eq_of_entries_eq {left right : Params} (same : left.entries = right.entries) :
    left = right := by
  cases left
  cases right
  exact (mk.injEq ..).mpr same

theorem entries_insert_of_mem {params : Params} {name : String} (known : name ∈ params.names)
    (value : Value) : (params.insert name value).entries = params.entries := by
  rw [insert, dif_pos known]

theorem entries_insert_of_notMem {params : Params} {name : String} (fresh : name ∉ params.names)
    (value : Value) :
    (params.insert name value).entries = params.entries ++ [(name, value)] := by
  rw [insert, dif_neg fresh]

theorem insertAll_cons (params : Params) (entry : String × Value)
    (entries : List (String × Value)) :
    params.insertAll (entry :: entries) =
      (params.insert entry.1 entry.2).insertAll entries := rfl

theorem insertAll_append (params : Params) (front back : List (String × Value)) :
    params.insertAll (front ++ back) = (params.insertAll front).insertAll back :=
  List.foldl_append

/-- What is added comes behind what is there, as far as its names are still free. -/
theorem entries_insertAll (params : Params) (entries : List (String × Value)) :
    (params.insertAll entries).entries =
      params.entries ++ (firsts entries).filter fun entry => entry.1 ∉ params.names := by
  induction entries generalizing params with
  | nil => simp [insertAll, firsts]
  | cons entry rest induction =>
      rw [insertAll_cons, induction, firsts]
      by_cases known : entry.1 ∈ params.names
      · have same := entries_insert_of_mem known entry.2
        have names : (params.insert entry.1 entry.2).names = params.names := by
          rw [Params.names, same, Params.names]
        have later : ∀ other ∈ firsts rest,
            decide (other.1 ∉ params.names) =
              (decide (other.1 ∉ params.names) && decide (other.1 ≠ entry.1)) := by
          intro other _
          by_cases equal : other.1 = entry.1
          · simp [equal, known]
          · simp [equal]
        rw [same, names, List.filter_cons_of_neg (by simpa using known), List.filter_filter,
          List.filter_congr later]
      · have added := entries_insert_of_notMem known entry.2
        have names : (params.insert entry.1 entry.2).names = params.names ++ [entry.1] := by
          rw [Params.names, added, List.map_append]
          rfl
        have later : ∀ other ∈ firsts rest,
            decide (other.1 ∉ params.names ++ [entry.1]) =
              (decide (other.1 ∉ params.names) && decide (other.1 ≠ entry.1)) := by
          intro other _
          simp [not_or]
        rw [added, names, List.filter_cons_of_pos (by simpa using known), List.filter_filter,
          List.filter_congr later, List.append_assoc, List.singleton_append]

theorem entries_ofList (entries : List (String × Value)) :
    (ofList entries).entries = firsts entries := by
  rw [ofList, entries_insertAll]
  simp [empty, names]

/-- Distinct names are all bound first. -/
theorem firsts_of_nodup {entries : List (String × Value)}
    (distinct : (entries.map Prod.fst).Nodup) : firsts entries = entries := by
  induction entries with
  | nil => rfl
  | cons entry rest induction =>
      rw [List.map_cons, List.nodup_cons] at distinct
      obtain ⟨fresh, distinct⟩ := distinct
      have kept : ∀ other ∈ rest, other.1 ≠ entry.1 := by
        intro other member equal
        exact fresh (equal ▸ List.mem_map_of_mem member)
      rw [firsts, induction distinct, List.filter_eq_self.mpr (by simpa using kept)]

theorem entries_extend (params other : Params) :
    (params.extend other).entries =
      params.entries ++ other.entries.filter fun entry => entry.1 ∉ params.names := by
  rw [extend, entries_insertAll, firsts_of_nodup other.distinct]

theorem mem_names_extend {params other : Params} {name : String} :
    name ∈ (params.extend other).names ↔ name ∈ params.names ∨ name ∈ other.names := by
  rw [mem_names_iff, mem_names_iff, mem_names_iff, get?_extend, Option.isSome_or,
    Bool.or_eq_true]

theorem extend_assoc (first second third : Params) :
    (first.extend second).extend third = first.extend (second.extend third) := by
  have free : ∀ entry ∈ third.entries,
      decide (entry.1 ∉ (first.extend second).names) =
        (decide (entry.1 ∉ first.names) && decide (entry.1 ∉ second.names)) := by
    intro entry _
    simp [mem_names_extend, not_or]
  apply eq_of_entries_eq
  rw [entries_extend, entries_extend first, entries_extend first, entries_extend second,
    List.filter_append, List.filter_filter, List.filter_congr free, List.append_assoc]

theorem empty_extend (params : Params) : (∅ : Params).extend params = params := by
  apply eq_of_entries_eq
  rw [entries_extend]
  apply List.filter_eq_self.mpr
  intro entry _
  simp [mem_names_iff]

theorem extend_empty (params : Params) : params.extend ∅ = params := rfl

/-- Nothing is added exactly when every name is bound already. -/
theorem extend_eq_self_iff {params other : Params} :
    params.extend other = params ↔ other.names ⊆ params.names := by
  constructor
  · intro same name member
    rw [← same, mem_names_extend]
    exact .inr member
  · intro known
    have nothing : other.entries.filter (fun entry => entry.1 ∉ params.names) = [] := by
      rw [List.filter_eq_nil_iff]
      intro entry member
      simpa using known (List.mem_map_of_mem member)
    apply eq_of_entries_eq
    rw [entries_extend, nothing, List.append_nil]

theorem extend_extend_self (params other : Params) :
    (params.extend other).extend params = params.extend other :=
  extend_eq_self_iff.mpr fun _ member => mem_names_extend.mpr (.inl member)

end Params

namespace Tree

theorem foldl_extend (fragments : List Fragment) (params : Params) :
    fragments.foldl (fun params fragment => params.extend fragment.params) params =
      params.insertAll (fragments.flatMap fun fragment => fragment.params.entries) := by
  induction fragments generalizing params with
  | nil => rfl
  | cons fragment fragments induction =>
      rw [List.foldl_cons, induction, List.flatMap_cons, Params.insertAll_append]
      rfl

/-- The bindings of a tree are collected from its fragments as from one list. -/
theorem params_eq_ofList (tree : Tree) :
    tree.params = .ofList (tree.fragments.flatMap fun fragment => fragment.params.entries) :=
  foldl_extend tree.fragments ∅

theorem fragments_push (tree : Tree) (group : List Fragment) :
    (tree.push group).fragments = tree.fragments ++ group := by
  unfold push fragments
  by_cases vacant : group = []
  · simp [vacant]
  · simp [vacant]

theorem fragments_foldl_push (tree : Tree) (groups : List (List Fragment)) :
    (groups.foldl push tree).fragments = tree.fragments ++ groups.flatten := by
  induction groups generalizing tree with
  | nil => simp
  | cons group groups induction =>
      rw [List.foldl_cons, induction, fragments_push, List.flatten_cons, List.append_assoc]

end Tree

/-- Merging is associative and keeps what comes first, with its place; a name that is bound
already adds nothing.  The bindings of a tree are the first ones of its fragments,
whichever groups they were pushed in. -/
theorem Params.extend_firsts :
    (∀ first second third : Params,
      (first.extend second).extend third = first.extend (second.extend third)) ∧
    (∀ params : Params, (∅ : Params).extend params = params ∧ params.extend ∅ = params) ∧
    (∀ params other : Params,
      (params.extend other).entries =
          params.entries ++ other.entries.filter (fun entry => entry.1 ∉ params.names) ∧
        (params.extend other = params ↔ other.names ⊆ params.names) ∧
        (params.extend other).extend params = params.extend other) ∧
    ∀ (tree : Tree) (groups : List (List Fragment)),
      (groups.foldl Tree.push tree).params.entries =
        firsts ((tree.fragments ++ groups.flatten).flatMap fun fragment =>
          fragment.params.entries) := by
  refine ⟨extend_assoc, fun params => ⟨empty_extend params, extend_empty params⟩,
    fun params other => ⟨entries_extend params other, extend_eq_self_iff,
      extend_extend_self params other⟩, ?bindings⟩
  case bindings =>
    intro tree groups
    rw [Tree.params_eq_ofList, entries_ofList, Tree.fragments_foldl_push]

end ColumnFilter
