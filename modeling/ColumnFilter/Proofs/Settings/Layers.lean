import ColumnFilter.CommandLine
import ColumnFilter.Proofs.Settings.WellFormed

/-!
# Layers of settings

Patches are laid over settings one after the other.  Every value is then the one that the
last layer gives which gives any, and a value that no layer gives stays as it was.
Filters and drivers keep their places, new ones come behind them in the order of the
patch, and laying the same patch over the result again changes nothing.
-/

namespace ColumnFilter

open Json (assign assignSorted changeAll)

/-- What the last of the layers says that say anything. -/
def latest {Layer α : Type} (layers : List Layer) (said : Layer → Option α) : Option α :=
  (layers.filterMap said).getLast?

@[simp] theorem latest_nil {Layer α : Type} (said : Layer → Option α) :
    latest [] said = none := rfl

@[simp] theorem latest_append_singleton {Layer α : Type} (layers : List Layer) (layer : Layer)
    (said : Layer → Option α) :
    latest (layers ++ [layer]) said = (said layer).or (latest layers said) := by
  rw [latest, List.filterMap_append, List.getLast?_append]
  cases here : said layer <;> simp [here, latest]

theorem getD_getD {α : Type} (given : Option α) (value : α) :
    given.getD (given.getD value) = given.getD value := by
  rw [← Option.getD_or, Option.or_self]

namespace DescriptorPatch

variable (patch : DescriptorPatch) (descriptor : Descriptor)

theorem options_apply :
    (patch.apply descriptor).options =
      changeAll assignSorted (fun _ _ new => new) descriptor.options patch.options := rfl

theorem wellFormed_apply {descriptor : Descriptor} (before : descriptor.WellFormed) :
    (patch.apply descriptor).WellFormed := by
  rw [Descriptor.WellFormed, options_apply]
  exact Json.Sorted.changeAll before patch.options

theorem lookup_options_apply {patch : DescriptorPatch} (formed : patch.WellFormed) (key : String) :
    (patch.apply descriptor).options.lookup key =
      (patch.options.lookup key).or (descriptor.options.lookup key) := by
  rw [options_apply, Json.lookup_changeAll Json.lookup_assignSorted _ formed.nodup]
  cases patch.options.lookup key <;> rfl

theorem apply_apply {patch : DescriptorPatch} (formed : patch.WellFormed)
    {descriptor : Descriptor} (before : descriptor.WellFormed) :
    patch.apply (patch.apply descriptor) = patch.apply descriptor := by
  have sorted := patch.wellFormed_apply before
  have options : changeAll assignSorted (fun _ _ new => new) (patch.apply descriptor).options
      patch.options = (patch.apply descriptor).options := by
    refine Json.changeAll_eq_self (fun _ _ found => Json.assignSorted_of_lookup sorted found) ?_
    intro entry member
    rw [lookup_options_apply _ formed, Json.lookup_of_mem formed.nodup member, Option.some_or]
  rw [apply, Descriptor.mk.injEq]
  exact ⟨getD_getD _ _, getD_getD _ _, getD_getD _ _, options⟩

end DescriptorPatch

namespace SettingsPatch

/-- The changes to a filter by name. -/
def filterNamed (patch : SettingsPatch) (name : String) : DescriptorPatch :=
  (patch.filters.lookup name).getD .empty

theorem applyMarks_applyMarks (patch : SettingsPatch) (punctuation : Punctuation) :
    patch.applyMarks (patch.applyMarks punctuation) = patch.applyMarks punctuation := by
  simp only [applyMarks, getD_getD]

theorem WellFormed.filterNamed {patch : SettingsPatch} (formed : patch.WellFormed)
    (name : String) : (patch.filterNamed name).WellFormed := by
  rw [SettingsPatch.filterNamed]
  cases found : patch.filters.lookup name with
  | none => exact List.Pairwise.nil
  | some filter => exact formed.options (name, filter) (Json.mem_of_lookup found)

end SettingsPatch

namespace Settings

/-- The filter of a name.  One that is not declared is as a new filter starts: active, of
the kind that its name says, with priority zero and no options. -/
def filterNamed (settings : Settings) (name : String) : Descriptor :=
  (settings.filters.lookup name).getD (.ofKind name 0)

theorem WellFormed.filterNamed {settings : Settings} (formed : settings.WellFormed)
    (name : String) : (settings.filterNamed name).WellFormed := by
  rw [Settings.filterNamed]
  cases found : settings.filters.lookup name with
  | none => exact Descriptor.wellFormed_ofKind _ _
  | some filter => exact formed.options (name, filter) (Json.mem_of_lookup found)

section Patch

variable (settings : Settings) {patch : SettingsPatch}

theorem drivers_patch :
    (settings.patch patch).drivers =
      changeAll assign (fun _ _ new => new) settings.drivers patch.drivers := rfl

theorem filters_patch :
    (settings.patch patch).filters =
      changeAll assign (fun name old new => new.apply (old.getD (.ofKind name 0)))
        settings.filters patch.filters := rfl

variable (formed : patch.WellFormed)

include formed

theorem lookup_drivers_patch (driver : String) :
    (settings.patch patch).drivers.lookup driver =
      (patch.drivers.lookup driver).or (settings.drivers.lookup driver) := by
  rw [drivers_patch, Json.lookup_changeAll Json.lookup_assign _ formed.drivers]
  cases patch.drivers.lookup driver <;> rfl

theorem lookup_filters_patch (name : String) :
    (settings.patch patch).filters.lookup name =
      ((patch.filters.lookup name).map fun change => change.apply (settings.filterNamed name)).or
        (settings.filters.lookup name) := by
  rw [filters_patch, Json.lookup_changeAll Json.lookup_assign _ formed.filters]
  cases patch.filters.lookup name <;> rfl

theorem filterNamed_patch (name : String) :
    (settings.patch patch).filterNamed name =
      (patch.filterNamed name).apply (settings.filterNamed name) := by
  rw [filterNamed, lookup_filters_patch settings formed, SettingsPatch.filterNamed]
  cases patch.filters.lookup name with
  | none => rfl
  | some change => rfl

variable {settings}

theorem wellFormed_patch (before : settings.WellFormed) :
    (settings.patch patch).WellFormed := by
  have drivers : ((settings.patch patch).drivers.map Prod.fst).Nodup := by
    rw [drivers_patch]
    exact Json.nodup_map_fst_changeAll before.drivers patch.drivers
  have filters : ((settings.patch patch).filters.map Prod.fst).Nodup := by
    rw [filters_patch]
    exact Json.nodup_map_fst_changeAll before.filters patch.filters
  refine ⟨drivers, filters, ?_⟩
  intro entry member
  have named : (settings.patch patch).filterNamed entry.1 = entry.2 := by
    rw [Settings.filterNamed, Json.lookup_of_mem filters member, Option.getD_some]
  rw [← named, filterNamed_patch settings formed]
  exact DescriptorPatch.wellFormed_apply _ (before.filterNamed entry.1)

/-- What is changed already stays as it is. -/
theorem patch_patch (before : settings.WellFormed) :
    (settings.patch patch).patch patch = settings.patch patch := by
  have drivers : ((settings.patch patch).patch patch).drivers = (settings.patch patch).drivers := by
    rw [drivers_patch (settings.patch patch)]
    refine Json.changeAll_eq_self (fun _ _ found => Json.assign_of_lookup found) ?_
    intro entry member
    rw [lookup_drivers_patch settings formed, Json.lookup_of_mem formed.drivers member,
      Option.some_or]
  have filters : ((settings.patch patch).patch patch).filters = (settings.patch patch).filters := by
    rw [filters_patch (settings.patch patch)]
    refine Json.changeAll_eq_self (fun _ _ found => Json.assign_of_lookup found) ?_
    intro entry member
    have here := Json.lookup_of_mem formed.filters member
    rw [lookup_filters_patch settings formed, here, Option.map_some, Option.some_or,
      Option.getD_some,
      DescriptorPatch.apply_apply (formed.options entry member) (before.filterNamed entry.1)]
  rw [Settings.patch, mk.injEq]
  refine ⟨SettingsPatch.applyMarks_applyMarks _ _, ?_, drivers, filters⟩
  rw [Settings.patch, ← Option.or_assoc, Option.or_self]

end Patch

/-- Every value of the result is the one that the last layer gives which gives any, and
the one of the settings below where no layer does. -/
structure Resolves (base : Settings) (layers : List SettingsPatch) (result : Settings) : Prop where
  orMark : result.punctuation.orMark =
    (latest layers (·.orMark)).getD base.punctuation.orMark
  andMark : result.punctuation.andMark =
    (latest layers (·.andMark)).getD base.punctuation.andMark
  escape : result.punctuation.escape =
    (latest layers (·.escape)).getD base.punctuation.escape
  opening : result.punctuation.inversion.opening =
    (latest layers (·.opening)).getD base.punctuation.inversion.opening
  closing : result.punctuation.inversion.closing =
    (latest layers (·.closing)).getD base.punctuation.inversion.closing
  dialect : result.dialect = (latest layers (·.dialect)).or base.dialect
  driver : ∀ driver, result.drivers.lookup driver =
    (latest layers (·.drivers.lookup driver)).or (base.drivers.lookup driver)
  known : ∀ name, name ∈ result.filters.map Prod.fst ↔
    name ∈ base.filters.map Prod.fst ∨ ∃ layer ∈ layers, name ∈ layer.filters.map Prod.fst
  kind : ∀ name, (result.filterNamed name).kind =
    (latest layers fun layer => (layer.filterNamed name).kind).getD (base.filterNamed name).kind
  priority : ∀ name, (result.filterNamed name).priority =
    (latest layers fun layer => (layer.filterNamed name).priority).getD
      (base.filterNamed name).priority
  active : ∀ name, (result.filterNamed name).active =
    (latest layers fun layer => (layer.filterNamed name).active).getD
      (base.filterNamed name).active
  option : ∀ name key, (result.filterNamed name).options.lookup key =
    (latest layers fun layer => (layer.filterNamed name).options.lookup key).or
      ((base.filterNamed name).options.lookup key)

namespace Resolves

variable {base current : Settings} {layers : List SettingsPatch}

theorem refl (base : Settings) : base.Resolves [] base := by
  constructor <;> simp

/-- One more layer. -/
theorem step (resolves : base.Resolves layers current) {layer : SettingsPatch}
    (formed : layer.WellFormed) : base.Resolves (layers ++ [layer]) (current.patch layer) where
  orMark := by
    rw [latest_append_singleton, Option.getD_or, ← resolves.orMark]
    rfl
  andMark := by
    rw [latest_append_singleton, Option.getD_or, ← resolves.andMark]
    rfl
  escape := by
    rw [latest_append_singleton, Option.getD_or, ← resolves.escape]
    rfl
  opening := by
    rw [latest_append_singleton, Option.getD_or, ← resolves.opening]
    rfl
  closing := by
    rw [latest_append_singleton, Option.getD_or, ← resolves.closing]
    rfl
  dialect := by
    rw [latest_append_singleton, Option.or_assoc, ← resolves.dialect]
    rfl
  driver := by
    intro driver
    rw [latest_append_singleton, Option.or_assoc, ← resolves.driver,
      lookup_drivers_patch current formed]
  known := by
    intro name
    rw [filters_patch, Json.map_fst_changeAll _ formed.filters]
    by_cases before : name ∈ current.filters.map Prod.fst
    · have earlier := (resolves.known name).mp before
      grind
    · have earlier := mt (resolves.known name).mpr before
      grind
  kind := by
    intro name
    rw [latest_append_singleton, Option.getD_or, ← resolves.kind,
      filterNamed_patch current formed]
    rfl
  priority := by
    intro name
    rw [latest_append_singleton, Option.getD_or, ← resolves.priority,
      filterNamed_patch current formed]
    rfl
  active := by
    intro name
    rw [latest_append_singleton, Option.getD_or, ← resolves.active,
      filterNamed_patch current formed]
    rfl
  option := by
    intro name key
    rw [latest_append_singleton, Option.or_assoc, ← resolves.option,
      filterNamed_patch current formed,
      DescriptorPatch.lookup_options_apply _ (formed.filterNamed name)]

/-- All layers, one after the other. -/
theorem foldl (resolves : base.Resolves layers current) {later : List SettingsPatch}
    (formed : ∀ layer ∈ later, layer.WellFormed) :
    base.Resolves (layers ++ later) (later.foldl Settings.patch current) := by
  induction later generalizing layers current with
  | nil => simpa using resolves
  | cons layer later induction =>
      obtain ⟨here, formed⟩ := List.forall_mem_cons.mp formed
      simpa using induction (resolves.step here) formed

end Resolves

/-- The result is the settings with what the patch says, and with nothing else changed. -/
structure Merges (base : Settings) (patch : SettingsPatch) (result : Settings) : Prop where
  resolves : base.Resolves [patch] result
  filterNames : result.filters.map Prod.fst =
    base.filters.map Prod.fst ++
      (patch.filters.map Prod.fst).filter fun name => name ∉ base.filters.map Prod.fst
  driverNames : result.drivers.map Prod.fst =
    base.drivers.map Prod.fst ++
      (patch.drivers.map Prod.fst).filter fun name => name ∉ base.drivers.map Prod.fst
  untouched : ∀ name, name ∉ patch.filters.map Prod.fst →
    result.filters.lookup name = base.filters.lookup name
  formed : result.WellFormed
  settled : result.patch patch = result

theorem merges_patch {base : Settings} (before : base.WellFormed) {patch : SettingsPatch}
    (formed : patch.WellFormed) : base.Merges patch (base.patch patch) where
  resolves := (Resolves.refl base).step formed
  filterNames := by rw [filters_patch, Json.map_fst_changeAll _ formed.filters]
  driverNames := by rw [drivers_patch, Json.map_fst_changeAll _ formed.drivers]
  untouched := by
    intro name absent
    rw [lookup_filters_patch base formed, Json.lookup_of_notMem absent, Option.map_none,
      Option.none_or]
  formed := wellFormed_patch formed before
  settled := patch_patch formed before

end Settings

namespace CommandLine

theorem Command.wellFormed_settingsSource (given : Given) :
    (Command.settingsSource given).patch.WellFormed :=
  ⟨List.nodup_nil, List.nodup_nil, by simp [Command.settingsSource, SettingsPatch.empty]⟩

variable {read : String → Option String} {source : SettingsSource}
  (formed : source.patch.WellFormed)

include formed

/-- Without a file the switches are the only layer. -/
theorem loadSettings_switches (fileless : source.file = none) :
    ∃ loaded, loadSettings read source = .ok loaded ∧
      Settings.standard.Resolves [source.patch] loaded := by
  refine ⟨Settings.standard.patch source.patch, ?_, (Settings.Resolves.refl _).step formed⟩
  simp [loadSettings, fileless, Except.map]

/-- The file is the layer below the switches. -/
theorem loadSettings_file {path text : String} (named : source.file = some path)
    (found : read path = some text) {file : SettingsPatch}
    (patch : SettingsPatch.ofText? text = .ok file) :
    ∃ loaded, loadSettings read source = .ok loaded ∧
      Settings.standard.Resolves [file, source.patch] loaded := by
  have below := (Settings.Resolves.refl Settings.standard).step
    (SettingsPatch.wellFormed_of_ofText? patch)
  refine ⟨(Settings.standard.patch file).patch source.patch, ?_, below.step formed⟩
  simp [loadSettings, named, found, Settings.ofPatchText?, patch, Except.map, Except.mapError]

end CommandLine

open CommandLine in
/-- A patch changes what it says and nothing else, and is settled at once.  So of any number
of patches that are laid over settings the last one that says something counts; of the
file and the switches of the command line it is the switches. -/
theorem Settings.patch_layers {base : Settings} (before : base.WellFormed) {patch : SettingsPatch}
    (formed : patch.WellFormed) :
    base.Merges patch (base.patch patch) ∧
      (∀ layers : List SettingsPatch, (∀ layer ∈ layers, layer.WellFormed) →
        base.Resolves layers (layers.foldl Settings.patch base)) ∧
      ∀ (read : String → Option String) (given : Given),
        let source := Command.settingsSource given
        (source.file = none →
          ∃ loaded, loadSettings read source = .ok loaded ∧
            Settings.standard.Resolves [source.patch] loaded) ∧
        ∀ path text file, source.file = some path → read path = some text →
          SettingsPatch.ofText? text = .ok file →
          ∃ loaded, loadSettings read source = .ok loaded ∧
            Settings.standard.Resolves [file, source.patch] loaded := by
  refine ⟨merges_patch before formed, ?layers, ?loaded⟩
  case layers =>
    intro layers all
    simpa using (Resolves.refl base).foldl all
  case loaded =>
    intro read given
    have switches := Command.wellFormed_settingsSource given
    refine ⟨loadSettings_switches switches, ?_⟩
    intro path text file named found patch
    exact loadSettings_file switches named found patch

/-- A new filter without a kind, and one that is known already. -/
theorem Settings.patch_layers_new_filter :
    let patch : SettingsPatch :=
      { SettingsPatch.empty with
        filters := [("default", ⟨none, some 5, none, []⟩),
          ("codes", ⟨none, none, none, [("flags", .string "i")]⟩)] }
    let settings := Settings.standard.patch patch
    settings.filters.map Prod.fst = ["range", "exact", "substring", "regex", "default", "codes"] ∧
      (settings.filterNamed "default").kind = "default" ∧
      (settings.filterNamed "default").priority = 5 ∧
      (settings.filterNamed "codes").kind = "codes" ∧
      (settings.filterNamed "codes").active = true ∧
      settings.patch patch = settings := by
  intro patch settings
  have formed : patch.WellFormed := by
    refine ⟨by decide, by decide, ?_⟩
    simp [patch, DescriptorPatch.WellFormed, Json.Sorted]
  obtain ⟨merges, -, -⟩ := Settings.patch_layers Settings.wellFormed_standard formed
  refine ⟨merges.filterNames.trans (by decide), ?_, ?_, ?_, ?_, merges.settled⟩
  · rw [merges.resolves.kind]
    rfl
  · rw [merges.resolves.priority]
    rfl
  · rw [merges.resolves.kind]
    rfl
  · rw [merges.resolves.active]
    rfl

end ColumnFilter
