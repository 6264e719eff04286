/-!
# Wildcard patterns

A pattern that finds a text anywhere, with the text's own wildcards escaped.
-/

namespace ColumnFilter.Like

/-- A character that stands for itself in a pattern. -/
def escapeChar (c : Char) : List Char :=
  if c = '%' ∨ c = '_' ∨ c = '\\' then ['\\', c] else [c]

/-- A text that stands for itself in a pattern. -/
def escape (text : List Char) : List Char := text.flatMap escapeChar

/-- The pattern of all texts that contain this one. -/
def containing (text : String) : String :=
  String.ofList ('%' :: escape text.toList ++ ['%'])

end ColumnFilter.Like
