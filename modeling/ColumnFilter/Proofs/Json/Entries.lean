import Mathlib.Data.List.Nodup
import Mathlib.Data.String.Basic
import ColumnFilter.Json.Basic

/-!
# Entries by key

Lists of pairs serve as maps, in the order in which keys come first or sorted by key.
Putting an entry changes the value of its key only.  Changing many entries, each by what
is there already, depends on the keys alone for the order, and for a value on the one
change to its key.
-/

namespace ColumnFilter.Json

variable {α β : Type}

theorem lookup_of_notMem {entries : List (String × α)} {key : String}
    (absent : key ∉ entries.map Prod.fst) : entries.lookup key = none := by
  rw [List.lookup_eq_none_iff]
  intro entry member
  rw [bne_iff_ne]
  rintro rfl
  exact absent (List.mem_map.mpr ⟨entry, member, rfl⟩)

theorem mem_of_lookup {entries : List (String × α)} {key : String} {value : α}
    (found : entries.lookup key = some value) : (key, value) ∈ entries := by
  obtain ⟨front, back, rfl, -⟩ := List.lookup_eq_some_iff.mp found
  simp

theorem lookup_of_mem {entries : List (String × α)} (distinct : (entries.map Prod.fst).Nodup)
    {entry : String × α} (member : entry ∈ entries) : entries.lookup entry.1 = some entry.2 := by
  obtain ⟨front, back, rfl⟩ := List.append_of_mem member
  rw [List.map_append, List.nodup_append] at distinct
  obtain ⟨-, -, apart⟩ := distinct
  refine List.lookup_eq_some_iff.mpr ⟨front, back, rfl, ?_⟩
  intro other before
  rw [bne_iff_ne]
  exact (apart _ (List.mem_map_of_mem before) _ (by simp)).symm

theorem lookup_assign (entries : List (String × α)) (key other : String) (value : α) :
    (assign entries key value).lookup other =
      if other = key then some value else entries.lookup other := by
  induction entries with
  | nil =>
      by_cases same : other = key
      · simp [assign, same]
      · simp [assign, same, List.lookup_cons, beq_false_of_ne same]
  | cons entry entries induction =>
      obtain ⟨known, old⟩ := entry
      rw [assign]
      by_cases here : known = key
      · rw [if_pos here]
        subst here
        by_cases same : other = known
        · simp [same]
        · simp [same, List.lookup_cons, beq_false_of_ne same]
      · rw [if_neg here, List.lookup_cons, List.lookup_cons, induction]
        by_cases same : other = known
        · simp [same, here]
        · simp [beq_false_of_ne same]

theorem assign_of_lookup {entries : List (String × α)} {key : String} {value : α}
    (found : entries.lookup key = some value) : assign entries key value = entries := by
  induction entries with
  | nil => simp at found
  | cons entry entries induction =>
      obtain ⟨known, old⟩ := entry
      rw [List.lookup_cons] at found
      rw [assign]
      by_cases same : known = key
      · subst same
        obtain rfl : old = value := by simpa using found
        rw [if_pos rfl]
      · rw [beq_false_of_ne (Ne.symm same)] at found
        rw [if_neg same, induction found]

theorem mem_assign {entries : List (String × α)} {key : String} {value : α}
    {entry : String × α} (member : entry ∈ assign entries key value) :
    entry = (key, value) ∨ entry ∈ entries := by
  induction entries with
  | nil => exact .inl (List.mem_singleton.mp member)
  | cons first entries induction =>
      rw [assign] at member
      split at member
      · exact (List.mem_cons.mp member).imp_right (List.mem_cons_of_mem first)
      · rcases List.mem_cons.mp member with rfl | later
        · exact .inr List.mem_cons_self
        · exact (induction later).imp_right (List.mem_cons_of_mem first)

theorem map_fst_assign (entries : List (String × α)) (key : String) (value : α) :
    (assign entries key value).map Prod.fst =
      if key ∈ entries.map Prod.fst then entries.map Prod.fst
      else entries.map Prod.fst ++ [key] := by
  induction entries with
  | nil => simp [assign]
  | cons entry entries induction =>
      obtain ⟨known, old⟩ := entry
      rw [assign]
      by_cases same : known = key
      · simp [same]
      · rw [if_neg same, List.map_cons, induction]
        by_cases listed : key ∈ entries.map Prod.fst
        · simp only [List.map_cons, List.mem_cons, listed, or_true, if_true]
        · simp only [List.map_cons, List.mem_cons, listed, or_false, Ne.symm same, if_false,
            List.cons_append]

theorem nodup_map_fst_assign {entries : List (String × α)}
    (distinct : (entries.map Prod.fst).Nodup) (key : String) (value : α) :
    ((assign entries key value).map Prod.fst).Nodup := by
  rw [map_fst_assign]
  by_cases fresh : key ∈ List.map Prod.fst entries
  · rw [if_pos fresh]
    exact distinct
  · rw [if_neg fresh]
    exact distinct.append (List.nodup_singleton key) (List.disjoint_singleton.mpr fresh)

/-- The keys come in strictly increasing order. -/
def Sorted (entries : List (String × α)) : Prop :=
  entries.Pairwise fun first second => first.1 < second.1

theorem Sorted.nodup {entries : List (String × α)} (sorted : Sorted entries) :
    (entries.map Prod.fst).Nodup :=
  List.pairwise_map.mpr (sorted.imp fun before => ne_of_lt before)

theorem lookup_assignSorted (entries : List (String × α)) (key other : String) (value : α) :
    (assignSorted entries key value).lookup other =
      if other = key then some value else entries.lookup other := by
  induction entries with
  | nil =>
      by_cases same : other = key
      · simp [assignSorted, same]
      · simp [assignSorted, same, List.lookup_cons, beq_false_of_ne same]
  | cons entry entries induction =>
      obtain ⟨known, old⟩ := entry
      rw [assignSorted]
      split
      · by_cases same : other = key
        · simp [same]
        · rw [List.lookup_cons, beq_false_of_ne same, if_neg same]
      · by_cases here : known = key
        · rw [if_pos here]
          subst here
          by_cases same : other = known
          · simp [same]
          · simp [same, List.lookup_cons, beq_false_of_ne same]
        · rw [if_neg here, List.lookup_cons, List.lookup_cons, induction]
          by_cases same : other = known
          · simp [same, here]
          · simp [beq_false_of_ne same]

theorem mem_assignSorted {entries : List (String × α)} {key : String} {value : α}
    {entry : String × α} (member : entry ∈ assignSorted entries key value) :
    entry = (key, value) ∨ entry ∈ entries := by
  induction entries with
  | nil => exact .inl (List.mem_singleton.mp member)
  | cons first entries induction =>
      rw [assignSorted] at member
      split at member
      · exact List.mem_cons.mp member
      · split at member
        · exact (List.mem_cons.mp member).imp_right (List.mem_cons_of_mem first)
        · rcases List.mem_cons.mp member with rfl | later
          · exact .inr List.mem_cons_self
          · exact (induction later).imp_right (List.mem_cons_of_mem first)

theorem Sorted.assignSorted {entries : List (String × α)} (sorted : Sorted entries)
    (key : String) (value : α) : Sorted (assignSorted entries key value) := by
  induction entries with
  | nil => exact List.pairwise_singleton _ _
  | cons entry entries induction =>
      obtain ⟨known, old⟩ := entry
      obtain ⟨least, later⟩ := List.pairwise_cons.mp sorted
      rw [Json.assignSorted]
      by_cases before : key < known
      · rw [if_pos before]
        refine List.pairwise_cons.mpr ⟨?_, sorted⟩
        intro other member
        rcases List.mem_cons.mp member with rfl | inside
        · exact before
        · exact lt_trans before (least other inside)
      · rw [if_neg before]
        by_cases here : known = key
        · rw [if_pos here]
          subst here
          exact List.pairwise_cons.mpr ⟨least, later⟩
        · rw [if_neg here]
          refine List.pairwise_cons.mpr ⟨?_, induction later⟩
          intro other member
          rcases mem_assignSorted member with rfl | inside
          · exact lt_of_le_of_ne (not_lt.mp before) here
          · exact least other inside

theorem assignSorted_of_lookup {entries : List (String × α)} (sorted : Sorted entries)
    {key : String} {value : α} (found : entries.lookup key = some value) :
    assignSorted entries key value = entries := by
  induction entries with
  | nil => simp at found
  | cons entry entries induction =>
      obtain ⟨known, old⟩ := entry
      obtain ⟨least, later⟩ := List.pairwise_cons.mp sorted
      rw [List.lookup_cons] at found
      rw [assignSorted]
      by_cases same : known = key
      · subst same
        obtain rfl : old = value := by simpa using found
        rw [if_neg (lt_irrefl known), if_pos rfl]
      · rw [beq_false_of_ne (Ne.symm same)] at found
        have behind : known < key := least (key, value) (mem_of_lookup found)
        rw [if_neg (lt_asymm behind), if_neg same, induction later found]

/-- Makes changes one after the other.  What becomes of a key can depend on what is there
already. -/
def changeAll (put : List (String × α) → String → α → List (String × α))
    (change : String → Option α → β → α) (entries : List (String × α))
    (changes : List (String × β)) : List (String × α) :=
  changes.foldl (fun entries entry =>
    put entries entry.1 (change entry.1 (entries.lookup entry.1) entry.2)) entries

section Changes

variable {put : List (String × α) → String → α → List (String × α)}
  {change : String → Option α → β → α}

/-- Keys that are changed once have the value of their one change. -/
theorem lookup_changeAll
    (puts : ∀ entries key other value, (put entries key value).lookup other =
      if other = key then some value else entries.lookup other)
    (entries : List (String × α)) {changes : List (String × β)}
    (distinct : (changes.map Prod.fst).Nodup) (key : String) :
    (changeAll put change entries changes).lookup key =
      match changes.lookup key with
      | some new => some (change key (entries.lookup key) new)
      | none => entries.lookup key := by
  induction changes generalizing entries with
  | nil => rfl
  | cons entry changes induction =>
      obtain ⟨first, new⟩ := entry
      obtain ⟨fresh, distinct⟩ := List.nodup_cons.mp distinct
      have step := induction (put entries first (change first (entries.lookup first) new)) distinct
      rw [changeAll] at step ⊢
      rw [List.foldl_cons, step, puts, List.lookup_cons]
      by_cases same : key = first
      · subst same
        simp [lookup_of_notMem fresh]
      · simp [same, beq_false_of_ne same]

/-- Changes that are made already change nothing. -/
theorem changeAll_eq_self {entries : List (String × α)} {changes : List (String × β)}
    (stays : ∀ key value, entries.lookup key = some value → put entries key value = entries)
    (made : ∀ entry ∈ changes,
      entries.lookup entry.1 = some (change entry.1 (entries.lookup entry.1) entry.2)) :
    changeAll put change entries changes = entries := by
  induction changes with
  | nil => rfl
  | cons entry changes induction =>
      obtain ⟨here, later⟩ := List.forall_mem_cons.mp made
      have step := induction later
      rw [changeAll] at step ⊢
      rw [List.foldl_cons, stays entry.1 _ here, step]

theorem Sorted.changeAll {entries : List (String × α)} (sorted : Sorted entries)
    (changes : List (String × β)) :
    Sorted (changeAll Json.assignSorted change entries changes) := by
  induction changes generalizing entries with
  | nil => exact sorted
  | cons entry changes induction => exact induction (sorted.assignSorted _ _)

/-- Known keys keep their places, and new ones come last, in the order of the changes. -/
theorem map_fst_changeAll (entries : List (String × α)) {changes : List (String × β)}
    (distinct : (changes.map Prod.fst).Nodup) :
    (changeAll assign change entries changes).map Prod.fst =
      entries.map Prod.fst ++
        (changes.map Prod.fst).filter fun key => key ∉ entries.map Prod.fst := by
  induction changes generalizing entries with
  | nil => simp [changeAll]
  | cons entry changes induction =>
      obtain ⟨first, new⟩ := entry
      obtain ⟨fresh, distinct⟩ := List.nodup_cons.mp distinct
      have step := induction
        (assign entries first (change first (entries.lookup first) new)) distinct
      rw [changeAll] at step ⊢
      rw [List.foldl_cons, step, map_fst_assign, List.map_cons, List.filter_cons]
      by_cases listed : first ∈ entries.map Prod.fst
      · simp only [listed, if_true, not_true_eq_false, decide_false, Bool.false_eq_true, if_false]
      · have others : ∀ key ∈ changes.map Prod.fst,
            decide (key ∉ entries.map Prod.fst ++ [first]) =
              decide (key ∉ entries.map Prod.fst) := by
          intro key member
          have other : key ≠ first := by
            rintro rfl
            exact fresh member
          simp [other]
        simp only [listed, if_false, not_false_eq_true, decide_true, if_true]
        rw [List.filter_congr others, List.append_assoc, List.singleton_append]

theorem nodup_map_fst_changeAll {entries : List (String × α)}
    (distinct : (entries.map Prod.fst).Nodup) (changes : List (String × β)) :
    ((changeAll assign change entries changes).map Prod.fst).Nodup := by
  induction changes generalizing entries with
  | nil => exact distinct
  | cons entry changes induction => exact induction (nodup_map_fst_assign distinct _ _)

end Changes

end ColumnFilter.Json
