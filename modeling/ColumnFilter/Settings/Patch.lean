import ColumnFilter.Settings

/-!
# Patches

A patch changes what it mentions and leaves everything else alone.  Filters and drivers
keep their places, and new ones come last.
-/

namespace ColumnFilter

/-- Changes to one filter. -/
structure DescriptorPatch where
  kind : Option String
  priority : Option Int64
  active : Option Bool
  options : OptionEntries

namespace DescriptorPatch

def empty : DescriptorPatch := ⟨none, none, none, []⟩

/-- Changes a filter; options are replaced one by one. -/
def apply (patch : DescriptorPatch) (descriptor : Descriptor) : Descriptor where
  kind := patch.kind.getD descriptor.kind
  priority := patch.priority.getD descriptor.priority
  active := patch.active.getD descriptor.active
  options := patch.options.foldl (fun options (name, value) => Json.assignSorted options name value)
    descriptor.options

end DescriptorPatch

/-- Changes to settings. -/
structure SettingsPatch where
  orMark : Option String
  andMark : Option String
  escape : Option String
  opening : Option String
  closing : Option String
  dialect : Option DialectId
  drivers : List (String × Option DialectId)
  filters : List (String × DescriptorPatch)

namespace SettingsPatch

def empty : SettingsPatch := ⟨none, none, none, none, none, none, [], []⟩

def applyMarks (patch : SettingsPatch) (punctuation : Punctuation) : Punctuation where
  orMark := patch.orMark.getD punctuation.orMark
  andMark := patch.andMark.getD punctuation.andMark
  escape := patch.escape.getD punctuation.escape
  inversion :=
    ⟨patch.opening.getD punctuation.inversion.opening,
      patch.closing.getD punctuation.inversion.closing⟩

end SettingsPatch

namespace Settings

/-- Changes one filter by name.  A new filter is of the kind that its name says, unless
the patch says otherwise. -/
def patchFilter (filters : List (String × Descriptor)) (name : String) (patch : DescriptorPatch) :
    List (String × Descriptor) :=
  Json.assign filters name (patch.apply ((filters.lookup name).getD (.ofKind name 0)))

def patch (settings : Settings) (patch : SettingsPatch) : Settings where
  punctuation := patch.applyMarks settings.punctuation
  dialect := patch.dialect.or settings.dialect
  drivers := patch.drivers.foldl
    (fun drivers (driver, dialect) => Json.assign drivers driver dialect) settings.drivers
  filters := patch.filters.foldl (fun filters (name, patch) => patchFilter filters name patch)
    settings.filters

end Settings

end ColumnFilter
