import ColumnFilter.Chain
import ColumnFilter.Proofs.Strategy.Numbers
import Mathlib.Data.List.Sort

/-!
# The entries of a chain

A chain has the filters that are used, each with the strategy that its options
make, in the order of their priorities.  Where the numbers of its ranges are
patterns by themselves, each of its strategies either takes a segment or leaves
it alone.
-/

namespace ColumnFilter

namespace ChainEntry

/-- The order in which entries are asked, as far as their priorities tell. -/
def Precedes (first second : ChainEntry) : Prop := first.priority ≤ second.priority

instance : DecidableRel Precedes := fun first second =>
  inferInstanceAs (Decidable (first.priority ≤ second.priority))

theorem not_precedes {first second : ChainEntry} :
    ¬ first.Precedes second ↔ second.priority < first.priority := Int64.not_le

instance : Std.Total Precedes := ⟨fun first second => Int64.le_total first.priority second.priority⟩

instance : IsTrans ChainEntry Precedes := ⟨fun _ _ _ => Int64.le_trans⟩

end ChainEntry

namespace Chain

open ChainEntry (Precedes)

theorem place_eq_orderedInsert (entry : ChainEntry) (entries : List ChainEntry) :
    place entry entries = entries.orderedInsert Precedes entry := by
  induction entries with
  | nil => rfl
  | cons other entries induction =>
      by_cases soon : entry.Precedes other
      · have front : ¬ other.priority < entry.priority := fun behind =>
          ChainEntry.not_precedes.mpr behind soon
        simp only [place, List.orderedInsert_cons, soon, front, if_true, if_false]
      · have behind : other.priority < entry.priority := ChainEntry.not_precedes.mp soon
        simp only [place, List.orderedInsert_cons, soon, behind, if_true, if_false, induction]

theorem sorted_eq_insertionSort (entries : List ChainEntry) :
    sorted entries = entries.insertionSort Precedes := by
  have placing : place = List.orderedInsert Precedes := by
    funext entry entries
    exact place_eq_orderedInsert entry entries
  rw [sorted, List.insertionSort, placing]

theorem pairwise_sorted (entries : List ChainEntry) : (sorted entries).Pairwise Precedes := by
  rw [sorted_eq_insertionSort]
  exact List.pairwise_insertionSort Precedes entries

theorem mem_sorted {entry : ChainEntry} {entries : List ChainEntry} :
    entry ∈ sorted entries ↔ entry ∈ entries := by
  rw [sorted_eq_insertionSort]
  exact List.mem_insertionSort Precedes

variable {registry : StrategyRegistry} {filters : List (String × Descriptor)}

/-- The entry of the first filter, if it is used, and those of the filters behind. -/
theorem entriesOf_cons {filter : String × Descriptor} {entries : List ChainEntry}
    (made : entriesOf registry (filter :: filters) = .ok entries) :
    (isUsed filter.2 = false ∧ entriesOf registry filters = .ok entries) ∨
      (isUsed filter.2 = true ∧ ∃ strategy behind,
        registry.create filter.1 filter.2.kind filter.2.options = .ok strategy ∧
        entriesOf registry filters = .ok behind ∧
        entries = ⟨filter.1, filter.2.priority, strategy⟩ :: behind) := by
  obtain ⟨name, descriptor⟩ := filter
  rw [entriesOf] at made
  by_cases used : isUsed descriptor
  · rw [if_pos used] at made
    cases created : registry.create name descriptor.kind descriptor.options with
    | error problem => simp [created] at made
    | ok strategy =>
        simp only [created] at made
        obtain ⟨behind, rest, rfl⟩ := Except.exists_of_map_eq_ok made
        exact .inr ⟨used, strategy, behind, rfl, rest, rfl⟩
  · rw [if_neg used] at made
    exact .inl ⟨by simpa using used, made⟩

/-- Every entry is made from the options of a filter. -/
theorem exists_of_mem_entriesOf {entries : List ChainEntry}
    (made : entriesOf registry filters = .ok entries) {entry : ChainEntry}
    (member : entry ∈ entries) :
    ∃ filter ∈ filters,
      registry.create filter.1 filter.2.kind filter.2.options = .ok entry.strategy := by
  induction filters generalizing entries with
  | nil =>
      obtain rfl : [] = entries := Except.ok.inj made
      simp at member
  | cons filter filters induction =>
      rcases entriesOf_cons made with ⟨-, rest⟩ | ⟨-, strategy, behind, created, rest, rfl⟩
      · obtain ⟨source, listed, created⟩ := induction rest member
        exact ⟨source, List.mem_cons_of_mem filter listed, created⟩
      · rcases List.mem_cons.mp member with rfl | later
        · exact ⟨filter, List.mem_cons_self, created⟩
        · obtain ⟨source, listed, created⟩ := induction rest later
          exact ⟨source, List.mem_cons_of_mem filter listed, created⟩

theorem exists_of_mem_build {chain : Chain} (built : build registry filters = .ok chain)
    {entry : ChainEntry} (member : entry ∈ chain.entries) :
    ∃ filter ∈ filters,
      registry.create filter.1 filter.2.kind filter.2.options = .ok entry.strategy := by
  obtain ⟨entries, made, rfl⟩ := Except.exists_of_map_eq_ok built
  exact exists_of_mem_entriesOf made (mem_sorted.mp member)

theorem pairwise_build {chain : Chain} (built : build registry filters = .ok chain) :
    chain.entries.Pairwise Precedes := by
  obtain ⟨entries, made, rfl⟩ := Except.exists_of_map_eq_ok built
  exact pairwise_sorted entries

end Chain

/-- Ranges find their numbers in all that they match; the other strategies have
none to find. -/
def Strategy.Complete : Strategy → Prop
  | .range ranges => ∀ text, ∃ found, ranges.bounds text = .ok found
  | _ => True

/-- Options of a range whose number is a pattern by itself, if they can be read. -/
def Range.NumberValid (entries : OptionEntries) : Prop :=
  ∀ options, readOptions Range.Options.fields .standard entries = .ok options →
    ∃ number, Pattern.ofText? options.number.toList = .ok number

/-- The numbers of all ranges are patterns by themselves. -/
def Settings.NumbersValid (settings : Settings) (registry : StrategyRegistry) : Prop :=
  ∀ filter ∈ settings.filters, registry.kind? filter.2.kind = some .range →
    Range.NumberValid filter.2.options

/-- The usual number is a pattern by itself. -/
theorem Settings.numbersValid_of_options_nil {settings : Settings} {registry : StrategyRegistry}
    (usual : ∀ filter ∈ settings.filters, filter.2.options = []) :
    settings.NumbersValid registry := by
  intro filter listed _ options read
  rw [usual filter listed] at read
  obtain rfl : Range.Options.standard = options := Except.ok.inj read
  have readable : (Pattern.ofText? Range.Options.standard.number.toList).isOk = true := by
    decide +kernel
  cases number : Pattern.ofText? Range.Options.standard.number.toList with
  | error problem =>
      rw [number] at readable
      contradiction
  | ok pattern => exact ⟨pattern, rfl⟩

theorem StrategyKind.exists_of_create_range {entries : OptionEntries} {strategy : Strategy}
    (created : StrategyKind.range.create entries = .ok strategy) :
    ∃ options range, readOptions Range.Options.fields .standard entries = .ok options ∧
      Range.ofOptions? options = .ok range ∧ .range range = strategy := by
  simp only [create] at created
  cases read : readOptions Range.Options.fields .standard entries with
  | error problem => simp [read] at created
  | ok options =>
      simp only [read] at created
      obtain ⟨range, made, rfl⟩ :=
        Except.exists_of_map_eq_ok (Except.eq_ok_of_mapError_eq_ok created)
      exact ⟨options, range, rfl, made, rfl⟩

theorem StrategyKind.kind_of_create {kind : StrategyKind} {entries : OptionEntries}
    {strategy : Strategy} (created : kind.create entries = .ok strategy) :
    strategy.kind = kind := by
  have shaped : ∀ {σ : Type} {read : Except Json.ShapeError σ} {made : σ → Strategy},
      (read.map made).mapError OptionError.shape = .ok strategy →
        ∃ options, made options = strategy := by
    intro σ read made created
    obtain ⟨options, -, rfl⟩ :=
      Except.exists_of_map_eq_ok (Except.eq_ok_of_mapError_eq_ok created)
    exact ⟨options, rfl⟩
  cases kind with
  | range =>
      obtain ⟨options, range, -, -, rfl⟩ := exists_of_create_range created
      rfl
  | exact =>
      obtain ⟨options, rfl⟩ := shaped created
      rfl
  | substring =>
      obtain ⟨options, rfl⟩ := shaped created
      rfl
  | regex =>
      obtain ⟨options, rfl⟩ := shaped created
      rfl
  | words =>
      obtain ⟨options, rfl⟩ := shaped created
      rfl

theorem Chain.complete_of_build {registry : StrategyRegistry} {settings : Settings}
    {chain : Chain} (valid : settings.NumbersValid registry)
    (built : build registry settings.filters = .ok chain) :
    ∀ entry ∈ chain.entries, entry.strategy.Complete := by
  intro entry member
  obtain ⟨filter, listed, created⟩ := exists_of_mem_build built member
  unfold StrategyRegistry.create at created
  cases found : registry.kind? filter.2.kind with
  | none => simp [found] at created
  | some kind =>
      simp only [found] at created
      have made := Except.eq_ok_of_mapError_eq_ok created
      obtain rfl := StrategyKind.kind_of_create made
      generalize entry.strategy = strategy at found made ⊢
      cases strategy with
      | range ranges =>
          obtain ⟨options, range, read, built, same⟩ := StrategyKind.exists_of_create_range made
          obtain rfl : range = ranges := Strategy.range.inj same
          obtain ⟨number, pattern⟩ := valid filter listed found options read
          exact Range.bounds_total pattern built
      | exact options => trivial
      | substring options => trivial
      | regex options => trivial
      | words options => trivial

end ColumnFilter
