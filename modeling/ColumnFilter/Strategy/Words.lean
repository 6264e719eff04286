import ColumnFilter.Segment
import ColumnFilter.Strategy.Like
import ColumnFilter.Strategy.Options
import ColumnFilter.Strategy.Target
import ColumnFilter.Text.Mark

/-!
# Words

The strategy that takes every segment: all words of the segment have to be parts of
the value.  Words stand between delimiters, which are found whatever their case and
take the white space around them.
-/

namespace ColumnFilter

/-- What separates words, and whether a missing value counts as an empty text. -/
structure Words where
  delimiter : String
  nullAsEmpty : Bool
  deriving DecidableEq, Repr

namespace Words

/-- Words are separated by spaces. -/
def standard : Words := ⟨" ", true⟩

def fields : List (OptionField Words) :=
  [.text "wordDelimiter" fun options delimiter => { options with delimiter },
    .flag "treatNullAsEmptyString" fun options wanted => { options with nullAsEmpty := wanted }]

/-- Do two characters agree after case folding? -/
def sameFolded (left right : Char) : Bool := Text.fold left == Text.fold right

/-- What follows a delimiter at the start of a text and the white space around it.  As
much white space as possible is taken in front of the delimiter. -/
def takeBreak? (delimiter : List Char) : List Char → Option (List Char)
  | [] => none
  | c :: text =>
      let here := (Text.takeMark? sameFolded delimiter (c :: text)).map fun (_, rest) =>
        Text.trimStart rest
      if Text.isSpace c then (takeBreak? delimiter text).or here else here

theorem trimStart_length (text : List Char) : (Text.trimStart text).length ≤ text.length :=
  (List.dropWhile_suffix _).length_le

theorem takeBreak?_length {delimiter text rest : List Char}
    (taken : takeBreak? delimiter text = some rest) : rest.length < text.length := by
  induction text with
  | nil => simp [takeBreak?] at taken
  | cons c text induction =>
      have atFront : ∀ {rest : List Char},
          ((Text.takeMark? sameFolded delimiter (c :: text)).map fun (_, rest) =>
            Text.trimStart rest) = some rest → rest.length < (c :: text).length := by
        intro rest found
        obtain ⟨⟨written, behind⟩, marked, equal⟩ := Option.map_eq_some_iff.1 found
        have shorter := Text.takeMark?_length marked
        have trimmed := trimStart_length behind
        simp only at equal
        rw [← equal]
        omega
      simp only [takeBreak?] at taken
      split at taken
      · rcases Option.or_eq_some_iff.1 taken with later | ⟨_, here⟩
        · have := induction later
          simp only [List.length_cons]
          omega
        · exact atFront here
      · exact atFront taken

/-- The stretches of text between delimiters; the first one comes apart. -/
def stretches (delimiter : List Char) : List Char → List Char × List (List Char)
  | [] => ([], [])
  | c :: text =>
      match _ : takeBreak? delimiter (c :: text) with
      | some rest =>
          let (first, others) := stretches delimiter rest
          ([], first :: others)
      | none =>
          let (first, others) := stretches delimiter text
          (c :: first, others)
termination_by text => text.length
decreasing_by
  · exact takeBreak?_length ‹_›
  · simp

/-- The words of a text.  Without a delimiter the whole text is one word. -/
def wordsOf (delimiter text : List Char) : List (List Char) :=
  let (first, others) :=
    if delimiter.isEmpty then (Text.trim text, []) else stretches delimiter (Text.trim text)
  (first :: others).filter fun word => !word.isEmpty

def words (options : Words) (text : String) : List String :=
  (wordsOf options.delimiter.toList text.toList).map String.ofList

def wordParam (target : Target) (word : String) : String :=
  parameterName "default" word target.column

/-- The fragment for a segment.  A segment without words restricts nothing. -/
def fragment (options : Words) (target : Target) (segment : Segment) : Fragment :=
  let words := options.words segment.text
  if words.isEmpty then .always
  else
    let operand := target.operand options.nullAsEmpty
    let conditions := words.map fun word =>
      Condition.compare operand .like (.param (wordParam target word))
    let entries := words.map fun word =>
      (wordParam target word, Value.string (Like.containing word))
    ⟨(Condition.conjoin conditions).negateIf segment.negated, .ofList entries⟩

end Words

end ColumnFilter
