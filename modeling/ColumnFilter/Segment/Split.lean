import ColumnFilter.Text.Case
import ColumnFilter.Text.Mark
import ColumnFilter.Text.Trim

/-!
# Splitting at a delimiter

A delimiter cuts a text unless the escape stands in front of it.  An expression
is split twice, first at its loosest delimiter; the first pass keeps the escapes
that the second one still has to read.  Both marks are found whatever their case,
and an empty mark occurs nowhere.
-/

namespace ColumnFilter.Segment

/-- What becomes of escapes that do not protect the delimiter. -/
inductive EscapeMode where
  /-- They stay, for a later pass to read. -/
  | keep
  /-- A doubled escape stands for one, and any other is dropped. -/
  | resolve
  deriving DecidableEq, Repr

/-- The two marks of one pass. -/
structure Marks where
  delimiter : List Char
  escape : List Char

/-- A mark of a pass at the start of a text, as it is written there, and what follows. -/
def takeMark? (mark text : List Char) : Option (List Char × List Char) :=
  Text.takeMark? Text.sameLetter mark text

/-- What an escape at the start of a text contributes to it, and what follows.  An
escape that means nothing to this pass is no escape. -/
def takeEscape? (mode : EscapeMode) (marks : Marks) (text : List Char) :
    Option (List Char × List Char) :=
  match takeMark? marks.escape text with
  | none => none
  | some (first, after) =>
      match takeMark? marks.escape after with
      | some (second, rest) =>
          match mode with
          | .keep => some (first ++ second, rest)
          | .resolve => some (second, rest)
      | none =>
          match takeMark? marks.delimiter after with
          | some (written, rest) => some (written, rest)
          | none =>
              match mode with
              | .keep => none
              | .resolve => some ([], after)

theorem takeMark?_length {mark text written rest : List Char}
    (taken : takeMark? mark text = some (written, rest)) :
    rest.length < text.length :=
  Text.takeMark?_length taken

theorem takeEscape?_length {mode : EscapeMode} {marks : Marks}
    {text written rest : List Char}
    (taken : takeEscape? mode marks text = some (written, rest)) :
    rest.length < text.length := by
  revert taken
  fun_cases takeEscape? mode marks text with
  | case1 | case5 => simp
  | case2 first after escaped second behind doubled
  | case3 first after escaped second behind doubled =>
      intro taken
      obtain ⟨rfl, rfl⟩ := Prod.mk.inj (Option.some.inj taken)
      exact Nat.lt_trans (takeMark?_length doubled) (takeMark?_length escaped)
  | case4 mode first after escaped _ delimiter behind delimited =>
      intro taken
      obtain ⟨rfl, rfl⟩ := Prod.mk.inj (Option.some.inj taken)
      exact Nat.lt_trans (takeMark?_length delimited) (takeMark?_length escaped)
  | case6 first after escaped _ _ =>
      intro taken
      obtain ⟨rfl, rfl⟩ := Prod.mk.inj (Option.some.inj taken)
      exact takeMark?_length escaped

/-- A stretch of text, or a place where a delimiter cuts it. -/
inductive Piece where
  | text (written : List Char)
  | cut
  deriving DecidableEq, Repr

/-- The pieces of a text, read from left to right. -/
def pieces (mode : EscapeMode) (marks : Marks) : List Char → List Piece
  | [] => []
  | c :: text =>
      match _ : takeEscape? mode marks (c :: text) with
      | some (written, rest) => .text written :: pieces mode marks rest
      | none =>
          match _ : takeMark? marks.delimiter (c :: text) with
          | some (_, rest) => .cut :: pieces mode marks rest
          | none => .text [c] :: pieces mode marks text
termination_by text => text.length
decreasing_by
  · exact takeEscape?_length ‹_›
  · exact takeMark?_length ‹_›
  · simp

/-- The stretches of text between cuts, each joined; the first one comes apart. -/
def stretches : List Piece → List Char × List (List Char)
  | [] => ([], [])
  | .cut :: rest =>
      let (first, others) := stretches rest
      ([], first :: others)
  | .text written :: rest =>
      let (first, others) := stretches rest
      (written ++ first, others)

/-- Texts trimmed, without those that are then empty. -/
def trimAll (texts : List (List Char)) : List (List Char) :=
  (texts.map Text.trim).filter fun text => !text.isEmpty

/-- The parts of a text between delimiters, trimmed and not empty.  Without a
delimiter the text is one part, and its escapes are left alone. -/
def splitOn (mode : EscapeMode) (marks : Marks) (text : List Char) : List (List Char) :=
  if marks.delimiter.isEmpty then trimAll [text]
  else
    let (first, others) := stretches (pieces mode marks text)
    trimAll (first :: others)

end ColumnFilter.Segment
