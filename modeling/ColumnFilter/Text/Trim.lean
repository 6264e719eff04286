import ColumnFilter.Text.Class

/-!
# Trimming

White space at both ends of a text, removed.
-/

namespace ColumnFilter.Text

def trimStart (text : List Char) : List Char := text.dropWhile isSpace

def trimEnd (text : List Char) : List Char := (trimStart text.reverse).reverse

def trim (text : List Char) : List Char := trimEnd (trimStart text)

/-- A string without white space at either end. -/
def trimmed (text : String) : String := String.ofList (trim text.toList)

end ColumnFilter.Text
