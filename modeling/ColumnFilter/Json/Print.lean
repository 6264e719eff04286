import ColumnFilter.Json.Basic
import ColumnFilter.Json.Shortest
import ColumnFilter.Json.Text

/-!
# Printing JSON

A value on one line without spaces, or on many lines with an indent of two.
-/

namespace ColumnFilter.Json

/-- A value that has no parts. -/
def scalarText : Json → String
  | .null => "null"
  | .bool value => if value then "true" else "false"
  | .natural n => toString n.toNat
  | .negative n => toString n.toInt
  | .float x => Shortest.ofFloat x
  | .string text => stringText text
  | .array _ => "[]"
  | .object _ => "\x7b\x7d"

mutual

def compact : Json → String
  | .array items => "[" ++ String.intercalate "," (compactItems items) ++ "]"
  | .object fields => "\x7b" ++ String.intercalate "," (compactFields fields) ++ "\x7d"
  | value => scalarText value

def compactItems : List Json → List String
  | [] => []
  | item :: items => compact item :: compactItems items

def compactFields : List (String × Json) → List String
  | [] => []
  | (key, value) :: fields =>
      (stringText key ++ ":" ++ compact value) :: compactFields fields

end

/-- A line break and the indent of a depth. -/
def lineBreak (depth : Nat) : String :=
  "\n" ++ String.ofList (List.replicate (2 * depth) ' ')

/-- Parts between brackets, one to a line; no parts leave the brackets together. -/
def bracketed (depth : Nat) (opening closing : String) (parts : List String) : String :=
  if parts.isEmpty then opening ++ closing
  else
    opening ++ lineBreak (depth + 1) ++
      String.intercalate ("," ++ lineBreak (depth + 1)) parts ++ lineBreak depth ++ closing

mutual

/-- The value on many lines, where it starts at an indent of `depth`. -/
def indented (depth : Nat) : Json → String
  | .array items => bracketed depth "[" "]" (indentedItems (depth + 1) items)
  | .object fields => bracketed depth "\x7b" "\x7d" (indentedFields (depth + 1) fields)
  | value => scalarText value

def indentedItems (depth : Nat) : List Json → List String
  | [] => []
  | item :: items => indented depth item :: indentedItems depth items

def indentedFields (depth : Nat) : List (String × Json) → List String
  | [] => []
  | (key, value) :: fields =>
      (stringText key ++ ": " ++ indented depth value) :: indentedFields depth fields

end

end ColumnFilter.Json
