import ColumnFilter.Proofs.Chain.Building

/-!
# The order of a chain

Entries are in the order of their priorities, and those of one priority in the
order in which they were declared.  This leaves one chain only, so the order of
the declarations matters no further than within a priority.
-/

namespace ColumnFilter

/-- The filters of one priority, in their order. -/
def Descriptor.ofPriority (priority : Int64) (filters : List (String × Descriptor)) :
    List (String × Descriptor) :=
  filters.filter fun filter => filter.2.priority == priority

/-- The same filters in another order, in which those of one priority come as before. -/
def Reordered (filters others : List (String × Descriptor)) : Prop :=
  ∀ priority, Descriptor.ofPriority priority filters = Descriptor.ofPriority priority others

theorem Reordered.perm {filters others : List (String × Descriptor)}
    (reordered : Reordered filters others) : filters.Perm others := by
  classical
  refine List.perm_iff_count.mpr fun filter => ?_
  have counted : ∀ filters : List (String × Descriptor),
      (Descriptor.ofPriority filter.2.priority filters).count filter = filters.count filter :=
    fun filters => List.count_filter (beq_self_eq_true filter.2.priority)
  rw [← counted, reordered, counted]

namespace ChainEntry

/-- The entries of one priority, in their order. -/
def ofPriority (priority : Int64) (entries : List ChainEntry) : List ChainEntry :=
  entries.filter fun entry => entry.priority == priority

theorem mem_ofPriority {priority : Int64} {entries : List ChainEntry} {entry : ChainEntry} :
    entry ∈ ofPriority priority entries ↔ entry ∈ entries ∧ entry.priority = priority := by
  simp [ofPriority]

theorem ofPriority_cons_self (entry : ChainEntry) (entries : List ChainEntry) :
    ofPriority entry.priority (entry :: entries) =
      entry :: ofPriority entry.priority entries := by
  simp [ofPriority]

theorem ofPriority_cons_of_ne {priority : Int64} {entry : ChainEntry}
    (different : entry.priority ≠ priority) (entries : List ChainEntry) :
    ofPriority priority (entry :: entries) = ofPriority priority entries := by
  simp [ofPriority, different]

theorem mem_iff_of_ofPriority_eq {first second : List ChainEntry}
    (same : ∀ priority, ofPriority priority first = ofPriority priority second)
    {entry : ChainEntry} : entry ∈ first ↔ entry ∈ second := by
  have here := @mem_ofPriority entry.priority first entry
  rw [same, mem_ofPriority] at here
  simpa using here.symm

/-- Ordered entries are told by those of every priority. -/
theorem eq_of_pairwise {first second : List ChainEntry} (ordered : first.Pairwise Precedes)
    (ordered' : second.Pairwise Precedes)
    (same : ∀ priority, ofPriority priority first = ofPriority priority second) :
    first = second := by
  induction first generalizing second with
  | nil =>
      cases second with
      | nil => rfl
      | cons entry second => simpa using (mem_iff_of_ofPriority_eq same).mpr List.mem_cons_self
  | cons entry first induction =>
      cases second with
      | nil => simpa using (mem_iff_of_ofPriority_eq same).mp List.mem_cons_self
      | cons entry' second =>
          have present := @mem_iff_of_ofPriority_eq _ _ same
          obtain ⟨least, behind⟩ := List.pairwise_cons.mp ordered
          obtain ⟨least', behind'⟩ := List.pairwise_cons.mp ordered'
          -- Each list has the other's first entry, so both start with the lowest priority.
          have priority : entry.priority = entry'.priority := by
            have below : entry.priority ≤ entry'.priority := by
              rcases List.mem_cons.mp (present.mpr List.mem_cons_self) with rfl | later
              · exact Int64.le_refl _
              · exact least entry' later
            have above : entry'.priority ≤ entry.priority := by
              rcases List.mem_cons.mp (present.mp List.mem_cons_self) with rfl | later
              · exact Int64.le_refl _
              · exact least' entry later
            exact Int64.le_antisymm below above
          have heads := same entry.priority
          rw [ofPriority_cons_self, priority, ofPriority_cons_self] at heads
          obtain ⟨rfl, -⟩ := List.cons.inj heads
          have tails : ∀ priority, ofPriority priority first = ofPriority priority second := by
            intro priority
            have both := same priority
            by_cases own : entry.priority = priority
            · subst own
              rw [ofPriority_cons_self, ofPriority_cons_self] at both
              exact (List.cons.inj both).2
            · rwa [ofPriority_cons_of_ne own, ofPriority_cons_of_ne own] at both
          rw [induction behind behind' tails]

end ChainEntry

namespace Chain

open ChainEntry (Precedes ofPriority)

theorem ofPriority_place (priority : Int64) (entry : ChainEntry) (entries : List ChainEntry) :
    ofPriority priority (place entry entries) = ofPriority priority (entry :: entries) := by
  induction entries with
  | nil => rfl
  | cons other entries induction =>
      rw [place]
      by_cases before : other.priority < entry.priority
      · rw [if_pos before]
        -- Only entries of another priority come to stand in front of the new one.
        have different : other.priority ≠ entry.priority := Int64.ne_of_lt before
        by_cases own : entry.priority = priority
        · subst own
          rw [ChainEntry.ofPriority_cons_of_ne different, induction,
            ChainEntry.ofPriority_cons_self, ChainEntry.ofPriority_cons_self,
            ChainEntry.ofPriority_cons_of_ne different]
        · rw [ChainEntry.ofPriority_cons_of_ne own]
          simp only [ofPriority, List.filter_cons] at induction ⊢
          rw [induction]
          simp [own]
      · rw [if_neg before]

theorem ofPriority_sorted (priority : Int64) (entries : List ChainEntry) :
    ofPriority priority (sorted entries) = ofPriority priority entries := by
  induction entries with
  | nil => rfl
  | cons entry entries induction =>
      have placed : sorted (entry :: entries) = place entry (sorted entries) := rfl
      rw [placed, ofPriority_place]
      simp only [ofPriority, List.filter_cons] at induction ⊢
      rw [induction]

variable {registry : StrategyRegistry} {filters others : List (String × Descriptor)}
  {entries : List ChainEntry} {chain : Chain}

/-- A chain can be made exactly when all strategies can that it needs. -/
theorem exists_entriesOf_iff :
    (∃ entries, entriesOf registry filters = .ok entries) ↔
      ∀ filter ∈ filters, isUsed filter.2 = true →
        ∃ strategy, registry.create filter.1 filter.2.kind filter.2.options = .ok strategy := by
  induction filters with
  | nil => simp [entriesOf]
  | cons filter filters induction =>
      constructor
      · rintro ⟨entries, made⟩
        rcases entriesOf_cons made with
          ⟨unused, rest⟩ | ⟨used, strategy, behind, created, rest, -⟩
        · refine List.forall_mem_cons.mpr ⟨?_, induction.mp ⟨_, rest⟩⟩
          simp [unused]
        · exact List.forall_mem_cons.mpr ⟨fun _ => ⟨strategy, created⟩, induction.mp ⟨_, rest⟩⟩
      · intro creatable
        obtain ⟨here, later⟩ := List.forall_mem_cons.mp creatable
        obtain ⟨behind, rest⟩ := induction.mpr later
        obtain ⟨name, descriptor⟩ := filter
        rw [entriesOf]
        by_cases used : isUsed descriptor
        · rw [if_pos used]
          obtain ⟨strategy, created⟩ := here used
          simp only at created
          exact ⟨_, by rw [created, rest]; rfl⟩
        · rw [if_neg used]
          exact ⟨behind, rest⟩

/-- Filters of one priority make the entries of this priority. -/
theorem entriesOf_ofPriority (made : entriesOf registry filters = .ok entries)
    (priority : Int64) :
    entriesOf registry (Descriptor.ofPriority priority filters) =
      .ok (ofPriority priority entries) := by
  induction filters generalizing entries with
  | nil =>
      obtain rfl : [] = entries := Except.ok.inj made
      rfl
  | cons filter filters induction =>
      obtain ⟨name, descriptor⟩ := filter
      rcases entriesOf_cons made with
        ⟨unused, rest⟩ | ⟨used, strategy, behind, created, rest, rfl⟩
      · have others := induction rest
        unfold Descriptor.ofPriority at others ⊢
        rw [List.filter_cons]
        split
        · simp only at unused
          rw [entriesOf, unused]
          exact others
        · exact others
      · have others := induction rest
        unfold Descriptor.ofPriority at others ⊢
        by_cases own : descriptor.priority = priority
        · subst own
          simp only at used created
          rw [List.filter_cons_of_pos (by simp), entriesOf, used, created, others,
            ChainEntry.ofPriority_cons_self ⟨name, descriptor.priority, strategy⟩]
          rfl
        · rw [List.filter_cons_of_neg (by simpa using own), others,
            ChainEntry.ofPriority_cons_of_ne (by simpa using own)]

theorem map_name_entriesOf (made : entriesOf registry filters = .ok entries) :
    entries.map ChainEntry.name =
      (filters.filter fun filter => isUsed filter.2).map Prod.fst := by
  induction filters generalizing entries with
  | nil =>
      obtain rfl : [] = entries := Except.ok.inj made
      rfl
  | cons filter filters induction =>
      rcases entriesOf_cons made with
        ⟨unused, rest⟩ | ⟨used, strategy, behind, created, rest, rfl⟩
      · rw [List.filter_cons_of_neg (by simp [unused]), induction rest]
      · rw [List.filter_cons_of_pos (by simpa using used), List.map_cons, List.map_cons,
          induction rest]

/-- The entries of one priority are the used filters of this priority, as they were
declared. -/
theorem map_name_ofPriority_build (built : build registry filters = .ok chain)
    (priority : Int64) :
    (ofPriority priority chain.entries).map ChainEntry.name =
      ((Descriptor.ofPriority priority filters).filter fun filter => isUsed filter.2).map
        Prod.fst := by
  obtain ⟨entries, made, rfl⟩ := Except.exists_of_map_eq_ok built
  rw [ofPriority_sorted, map_name_entriesOf (entriesOf_ofPriority made priority)]

theorem exists_build_iff :
    (∃ chain, build registry filters = .ok chain) ↔
      ∃ entries, entriesOf registry filters = .ok entries := by
  constructor
  · rintro ⟨chain, built⟩
    obtain ⟨entries, made, -⟩ := Except.exists_of_map_eq_ok built
    exact ⟨entries, made⟩
  · rintro ⟨entries, made⟩
    exact ⟨⟨sorted entries⟩, by rw [build, made]; rfl⟩

/-- Filters in another order make a chain together or not at all. -/
theorem exists_build_of_reordered (reordered : Reordered filters others) :
    (∃ chain, build registry filters = .ok chain) ↔
      ∃ chain, build registry others = .ok chain := by
  rw [exists_build_iff, exists_build_iff, exists_entriesOf_iff, exists_entriesOf_iff]
  simp only [reordered.perm.mem_iff]

/-- Filters in another order make the same chain. -/
theorem build_eq_of_reordered (reordered : Reordered filters others)
    (built : build registry filters = .ok chain) : build registry others = .ok chain := by
  obtain ⟨chain', built'⟩ := (exists_build_of_reordered reordered).mp ⟨chain, built⟩
  obtain ⟨entries, made, rfl⟩ := Except.exists_of_map_eq_ok built
  obtain ⟨entries', made', rfl⟩ := Except.exists_of_map_eq_ok built'
  have same : sorted entries = sorted entries' := by
    apply ChainEntry.eq_of_pairwise (pairwise_sorted entries) (pairwise_sorted entries')
    intro priority
    have here := entriesOf_ofPriority made priority
    rw [reordered, entriesOf_ofPriority made' priority] at here
    rw [ofPriority_sorted, ofPriority_sorted, Except.ok.inj here]
  rw [built', same]

end Chain

end ColumnFilter
