import ColumnFilter.Json.Print
import ColumnFilter.Json.Read
import ColumnFilter.Settings.Patch

/-!
# Settings as JSON

Settings and patches are written as JSON objects.  A patch may leave out any field, and
complete settings take the usual value for a field that is left out.
-/

namespace ColumnFilter

open Json (Problem Reader Schema)

namespace DialectId

def reader : Reader DialectId := Json.readString.map .ofString

end DialectId

namespace OptionEntries

/-- Reads options; of options with one name the last one counts. -/
def reader (depth : Nat) : Reader OptionEntries :=
  Json.readMap Json.assignSorted depth Json.readValue

end OptionEntries

namespace Settings

def driversReader (depth : Nat) : Reader (List (String × Option DialectId)) :=
  Json.readMap Json.assign depth fun _ => Json.readOptional DialectId.reader

end Settings

namespace Descriptor

def field {α : Type} (name : String) (required : Bool) (reader : Nat → Reader α)
    (put : Descriptor → α → Descriptor) : Json.Field Descriptor :=
  ⟨name, required, fun depth descriptor => (reader depth).map (put descriptor)⟩

def schema : Schema Descriptor :=
  ⟨"StrategyDescriptor",
    [field "kind" true (fun _ => Json.readString) fun descriptor kind =>
        { descriptor with kind },
      field "priority" false (fun _ => Json.readInt) fun descriptor priority =>
        { descriptor with priority },
      field "active" false (fun _ => Json.readBool) fun descriptor active =>
        { descriptor with active },
      field "options" false OptionEntries.reader fun descriptor options =>
        { descriptor with options }]⟩

def reader (depth : Nat) : Reader Descriptor := schema.read depth (.ofKind "" 0)

def toJson (descriptor : Descriptor) : Json :=
  .object
    [("kind", .string descriptor.kind),
      ("priority", .ofInt descriptor.priority),
      ("active", .bool descriptor.active),
      ("options", .object descriptor.options)]

end Descriptor

namespace DescriptorPatch

def field {α : Type} (name : String) (reader : Nat → Reader α)
    (put : DescriptorPatch → α → DescriptorPatch) : Json.Field DescriptorPatch :=
  ⟨name, false, fun depth patch => (reader depth).map (put patch)⟩

def schema : Schema DescriptorPatch :=
  ⟨"DescriptorOverride",
    [field "kind" (fun _ => Json.readOptional Json.readString) fun patch kind =>
        { patch with kind },
      field "priority" (fun _ => Json.readOptional Json.readInt) fun patch priority =>
        { patch with priority },
      field "active" (fun _ => Json.readOptional Json.readBool) fun patch active =>
        { patch with active },
      field "options" OptionEntries.reader fun patch options => { patch with options }]⟩

def reader (depth : Nat) : Reader DescriptorPatch := schema.read depth .empty

end DescriptorPatch

namespace SettingsPatch

def field {α : Type} (name : String) (reader : Nat → Reader α)
    (put : SettingsPatch → α → SettingsPatch) : Json.Field SettingsPatch :=
  ⟨name, false, fun depth patch => (reader depth).map (put patch)⟩

/-- A text that may be left out. -/
def textField (name : String) (put : SettingsPatch → Option String → SettingsPatch) :
    Json.Field SettingsPatch :=
  field name (fun _ => Json.readOptional Json.readString) put

def schema : Schema SettingsPatch :=
  ⟨"ConfigOverrides",
    [textField "orDelimiter" fun patch orMark => { patch with orMark },
      textField "andDelimiter" fun patch andMark => { patch with andMark },
      textField "escapeSequence" fun patch escape => { patch with escape },
      textField "invertLogicPrefix" fun patch opening => { patch with opening },
      textField "invertLogicSuffix" fun patch closing => { patch with closing },
      field "dialect" (fun _ => Json.readOptional DialectId.reader) fun patch dialect =>
        { patch with dialect },
      field "driverMap" Settings.driversReader fun patch drivers => { patch with drivers },
      field "filterConfig" (fun depth => Json.readMap Json.assign depth DescriptorPatch.reader)
        fun patch filters => { patch with filters }]⟩

/-- Reads a patch from a text. -/
def ofText? (text : String) : Except Problem SettingsPatch :=
  Json.readText (schema.read Json.depthLimit .empty) text

end SettingsPatch

namespace Settings

def field {α : Type} (name : String) (reader : Nat → Reader α)
    (put : Settings → α → Settings) : Json.Field Settings :=
  ⟨name, false, fun depth settings => (reader depth).map (put settings)⟩

/-- A text that changes the marks of expressions. -/
def markField (name : String) (put : Punctuation → String → Punctuation) : Json.Field Settings :=
  field name (fun _ => Json.readString) fun settings mark =>
    { settings with punctuation := put settings.punctuation mark }

def schema : Schema Settings :=
  ⟨"FilterConfig",
    [markField "orDelimiter" fun punctuation orMark => { punctuation with orMark },
      markField "andDelimiter" fun punctuation andMark => { punctuation with andMark },
      markField "escapeSequence" fun punctuation escape => { punctuation with escape },
      markField "invertLogicPrefix" fun punctuation opening =>
        { punctuation with inversion := { punctuation.inversion with opening } },
      markField "invertLogicSuffix" fun punctuation closing =>
        { punctuation with inversion := { punctuation.inversion with closing } },
      field "dialect" (fun _ => Json.readOptional DialectId.reader) fun settings dialect =>
        { settings with dialect },
      field "driverMap" driversReader fun settings drivers => { settings with drivers },
      field "filterConfig" (fun depth => Json.readMap Json.assign depth Descriptor.reader)
        fun settings filters => { settings with filters }]⟩

/-- Reads complete settings from a text. -/
def ofText? (text : String) : Except Problem Settings :=
  Json.readText (schema.read Json.depthLimit .standard) text

/-- The usual settings changed by a patch that is read from a text. -/
def ofPatchText? (text : String) : Except Problem Settings :=
  (SettingsPatch.ofText? text).map Settings.standard.patch

def dialectJson : Option DialectId → Json
  | none => .null
  | some id => .string id.text

def toJson (settings : Settings) : Json :=
  .object
    [("orDelimiter", .string settings.punctuation.orMark),
      ("andDelimiter", .string settings.punctuation.andMark),
      ("escapeSequence", .string settings.punctuation.escape),
      ("invertLogicPrefix", .string settings.punctuation.inversion.opening),
      ("invertLogicSuffix", .string settings.punctuation.inversion.closing),
      ("dialect", dialectJson settings.dialect),
      ("driverMap", .object (settings.drivers.map fun (driver, id) => (driver, dialectJson id))),
      ("filterConfig",
        .object (settings.filters.map fun (name, descriptor) => (name, descriptor.toJson)))]

def toText (settings : Settings) : String := settings.toJson.compact

end Settings

end ColumnFilter
