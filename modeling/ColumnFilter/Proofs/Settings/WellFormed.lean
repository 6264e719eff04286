import ColumnFilter.Proofs.Json.Reading
import ColumnFilter.Settings.Text

/-!
# Well-formed settings

No driver and no filter has two entries, and the options of a filter are sorted.  All
settings and patches that are read from a text are of this form.
-/

namespace ColumnFilter

namespace DescriptorPatch

/-- The options are sorted by name, so that each comes once. -/
def WellFormed (patch : DescriptorPatch) : Prop := Json.Sorted patch.options

end DescriptorPatch

namespace Descriptor

/-- The options are sorted by name, so that each comes once. -/
def WellFormed (descriptor : Descriptor) : Prop := Json.Sorted descriptor.options

theorem wellFormed_ofKind (kind : String) (priority : Int64) :
    (ofKind kind priority).WellFormed :=
  List.Pairwise.nil

end Descriptor

/-- Every driver and every filter has one entry, and every filter is well-formed. -/
structure SettingsPatch.WellFormed (patch : SettingsPatch) : Prop where
  drivers : (patch.drivers.map Prod.fst).Nodup
  filters : (patch.filters.map Prod.fst).Nodup
  options : ∀ entry ∈ patch.filters, entry.2.WellFormed

/-- Every driver and every filter has one entry, and every filter is well-formed. -/
structure Settings.WellFormed (settings : Settings) : Prop where
  drivers : (settings.drivers.map Prod.fst).Nodup
  filters : (settings.filters.map Prod.fst).Nodup
  options : ∀ entry ∈ settings.filters, entry.2.WellFormed

theorem SettingsPatch.wellFormed_empty : SettingsPatch.empty.WellFormed :=
  ⟨List.nodup_nil, List.nodup_nil, by simp [SettingsPatch.empty]⟩

theorem Settings.wellFormed_standard : Settings.standard.WellFormed where
  drivers := by decide
  filters := by decide
  options := by
    intro entry member
    obtain ⟨kind, -, rfl⟩ := List.mem_map.mp member
    exact Descriptor.wellFormed_ofKind _ _

theorem OptionEntries.yields_reader (depth : Nat) :
    Json.Yields (OptionEntries.reader depth) Json.Sorted :=
  Json.yields_readMap (fun _ => Json.yields_any _) List.Pairwise.nil
    fun _ key value sorted _ => sorted.assignSorted key value

theorem Settings.yields_driversReader (depth : Nat) :
    Json.Yields (Settings.driversReader depth) fun drivers =>
      (drivers.map Prod.fst).Nodup :=
  Json.yields_readMap (fun _ => Json.yields_any _) List.nodup_nil
    fun _ key value distinct _ => Json.nodup_map_fst_assign distinct key value

/-- A map of filters has each name once, and only filters that are as they are read. -/
theorem yields_readFilters {α : Type} {reader : Nat → Json.Reader α} {usable : α → Prop}
    (yields : ∀ depth, Json.Yields (reader depth) usable) (depth : Nat) :
    Json.Yields (Json.readMap Json.assign depth reader) fun filters =>
      (filters.map Prod.fst).Nodup ∧ ∀ entry ∈ filters, usable entry.2 := by
  refine Json.yields_readMap yields ⟨List.nodup_nil, by simp⟩ ?_
  rintro filters name filter ⟨distinct, all⟩ here
  refine ⟨Json.nodup_map_fst_assign distinct name filter, ?_⟩
  intro entry member
  rcases Json.mem_assign member with rfl | before
  · exact here
  · exact all entry before

theorem DescriptorPatch.yields_reader (depth : Nat) :
    Json.Yields (DescriptorPatch.reader depth) DescriptorPatch.WellFormed := by
  refine Json.Schema.yields_read List.Pairwise.nil ?_
  simp only [schema, List.forall_mem_cons, List.not_mem_nil, false_implies, implies_true, and_true]
  refine ⟨?kind, ?priority, ?active, ?options⟩
  case options =>
    intro patch before
    exact (OptionEntries.yields_reader _).map fun _ sorted => sorted
  all_goals
    intro patch before
    exact (Json.yields_any _).map fun _ _ => before

theorem Descriptor.yields_reader (depth : Nat) :
    Json.Yields (Descriptor.reader depth) Descriptor.WellFormed := by
  refine Json.Schema.yields_read (Descriptor.wellFormed_ofKind _ _) ?_
  simp only [schema, List.forall_mem_cons, List.not_mem_nil, false_implies, implies_true, and_true]
  refine ⟨?kind, ?priority, ?active, ?options⟩
  case options =>
    intro descriptor before
    exact (OptionEntries.yields_reader _).map fun _ sorted => sorted
  all_goals
    intro descriptor before
    exact (Json.yields_any _).map fun _ _ => before

namespace SettingsPatch

theorem yields_schema (depth : Nat) :
    Json.Yields (schema.read depth .empty) SettingsPatch.WellFormed := by
  refine Json.Schema.yields_read wellFormed_empty ?_
  simp only [schema, List.forall_mem_cons, List.not_mem_nil, false_implies, implies_true, and_true]
  refine ⟨?orMark, ?andMark, ?escape, ?opening, ?closing, ?dialect, ?drivers, ?filters⟩
  case drivers =>
    intro patch before
    exact (Settings.yields_driversReader _).map fun _ distinct =>
      ⟨distinct, before.filters, before.options⟩
  case filters =>
    intro patch before
    exact (yields_readFilters DescriptorPatch.yields_reader _).map fun _ read =>
      ⟨before.drivers, read.1, read.2⟩
  all_goals
    intro patch before
    exact (Json.yields_any _).map fun _ _ => ⟨before.drivers, before.filters, before.options⟩

theorem wellFormed_of_ofText? {text : String} {patch : SettingsPatch}
    (read : ofText? text = .ok patch) : patch.WellFormed :=
  Json.holds_of_readText (yields_schema _) read

end SettingsPatch

namespace Settings

theorem yields_schema (depth : Nat) :
    Json.Yields (schema.read depth .standard) Settings.WellFormed := by
  refine Json.Schema.yields_read wellFormed_standard ?_
  simp only [schema, List.forall_mem_cons, List.not_mem_nil, false_implies, implies_true, and_true]
  refine ⟨?orMark, ?andMark, ?escape, ?opening, ?closing, ?dialect, ?drivers, ?filters⟩
  case drivers =>
    intro settings before
    exact (yields_driversReader _).map fun _ distinct => ⟨distinct, before.filters, before.options⟩
  case filters =>
    intro settings before
    exact (yields_readFilters Descriptor.yields_reader _).map fun _ read =>
      ⟨before.drivers, read.1, read.2⟩
  all_goals
    intro settings before
    exact (Json.yields_any _).map fun _ _ => ⟨before.drivers, before.filters, before.options⟩

theorem wellFormed_of_ofText? {text : String} {settings : Settings}
    (read : ofText? text = .ok settings) : settings.WellFormed :=
  Json.holds_of_readText (yields_schema _) read

end Settings

end ColumnFilter
