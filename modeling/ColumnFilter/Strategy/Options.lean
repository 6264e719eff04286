import ColumnFilter.Json.Problem
import ColumnFilter.Json.Read

/-!
# Options of a strategy

Options are named JSON values.  They are read by name, in the order of their names;
every strategy knows which names it takes and what a value of each has to be.
-/

namespace ColumnFilter

/-- Named JSON values, sorted by name. -/
abbrev OptionEntries := List (String × Json)

/-- An option: its name, and how its value changes the options that are read. -/
structure OptionField (σ : Type) where
  name : String
  read : σ → Json → Except Json.ShapeError σ

namespace OptionField

/-- The problem with a value of another kind than the expected one. -/
def mismatch {α : Type} (value : Json) (expected : String) : Except Json.ShapeError α :=
  .error (.wrongType value.found expected)

/-- An option that is a text. -/
def text {σ : Type} (name : String) (put : σ → String → σ) : OptionField σ :=
  { name
    read := fun options value =>
      match value with
      | .string content => .ok (put options content)
      | other => mismatch other "a string" }

/-- An option that is a truth value. -/
def flag {σ : Type} (name : String) (put : σ → Bool → σ) : OptionField σ :=
  { name
    read := fun options value =>
      match value with
      | .bool wanted => .ok (put options wanted)
      | other => mismatch other "a boolean" }

/-- An option that is a count of 32 bits. -/
def count {σ : Type} (name : String) (put : σ → UInt32 → σ) : OptionField σ :=
  { name
    read := fun options value =>
      match value with
      | .natural n =>
          if n.toNat < UInt32.size then .ok (put options n.toUInt32)
          else .error (.wrongValue (.integer n.toNat) "u32")
      | .negative n => .error (.wrongValue (.integer n.toInt) "u32")
      | other => mismatch other "u32" }

end OptionField

/-- Reads options over their defaults.  The first name that is unknown, or whose value
is of the wrong kind, is reported. -/
def readOptions {σ : Type} (fields : List (OptionField σ)) (options : σ) :
    OptionEntries → Except Json.ShapeError σ
  | [] => .ok options
  | (name, value) :: entries =>
      match fields.find? fun field => field.name == name with
      | none => .error (.unknownField name (fields.map OptionField.name))
      | some field =>
          match field.read options value with
          | .error problem => .error problem
          | .ok options => readOptions fields options entries

end ColumnFilter
