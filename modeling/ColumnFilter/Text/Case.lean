import ColumnFilter.Text.CaseTable
import ColumnFilter.Text.Class

/-!
# Letter case

Two notions of "equal but for case".  Delimiters and markers compare characters
by their full lowercase, in which `İ` is two characters; patterns compare them
by simple case folding, which never changes the number of characters.
`lowercase` is the mapping of whole names, where a capital sigma at the end of
a word becomes a final one.
-/

namespace ColumnFilter.Text

/-- The lowercase of one character: two characters for the dotted capital I. -/
def lowerChar (c : Char) : List Char :=
  if c = 'İ' then ['i', '\u0307']
  else [Char.ofNat (Shift.apply lowercaseShifts c.toNat)]

/-- The lowercase of a text, character by character. -/
def lower (text : List Char) : List Char := text.flatMap lowerChar

/-- Do two characters agree after lowercasing? -/
def sameLetter (left right : Char) : Bool :=
  left == right || lowerChar left == lowerChar right

/-- Does a cased character come first, after any case-ignorable ones? -/
def meetsCased (text : List Char) : Bool :=
  match text.dropWhile isCaseIgnorable with
  | c :: _ => isCased c
  | [] => false

/-- Lowercase with the context that decides a capital sigma: `before` is the text
already read, nearest character first. -/
def lowercaseFrom (before : List Char) : List Char → List Char
  | [] => []
  | c :: rest =>
      let image :=
        if c = 'Σ' then
          if meetsCased before && !meetsCased rest then ['ς'] else ['σ']
        else lowerChar c
      image ++ lowercaseFrom (c :: before) rest

def lowercase (name : String) : String :=
  String.ofList (lowercaseFrom [] name.toList)

/-- The representative of a character under simple case folding. -/
def fold (c : Char) : Char := Char.ofNat (Shift.apply foldingShifts c.toNat)

/-- All characters that simple case folding identifies with this one. -/
def foldClass (c : Char) : List Char :=
  fold c :: (Shift.sources foldingShifts (fold c).toNat).map Char.ofNat

end ColumnFilter.Text
