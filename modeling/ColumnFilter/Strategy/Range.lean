import ColumnFilter.Regex.Pattern
import ColumnFilter.Segment
import ColumnFilter.Strategy.Options
import ColumnFilter.Strategy.Target

/-!
# Ranges of numbers

A segment such as `1 to 5`, `<5` or `=5` compares the value, taken as a number, with
the numbers in it.  The marks around the numbers and the pattern of a number are
options; a form of segment is recognised by a pattern made of both.
-/

namespace ColumnFilter

namespace Range

/-- The forms with one number. -/
inductive Form where
  | less
  | lessOrEqual
  | greater
  | greaterOrEqual
  | equal
  deriving DecidableEq, Repr

namespace Form

/-- The forms in the order in which they are tried. -/
def all : List Form := [.less, .lessOrEqual, .greater, .greaterOrEqual, .equal]

/-- The comparisons that a form asks for. -/
def operators : Form → List Operator
  | .less => [.less]
  | .lessOrEqual => [.lessOrEqual]
  | .greater => [.greater]
  | .greaterOrEqual => [.greaterOrEqual]
  | .equal => [.greaterOrEqual, .lessOrEqual]

end Form

/-- The marks of the form with two numbers. -/
structure BetweenMarks where
  opening : String
  between : String
  closing : String
  deriving DecidableEq, Repr

/-- How ranges are written, and how the value becomes a number. -/
structure Options where
  between : BetweenMarks
  less : Segment.Markers
  lessOrEqual : Segment.Markers
  greater : Segment.Markers
  greaterOrEqual : Segment.Markers
  equal : Segment.Markers
  /-- The pattern of a number. -/
  number : String
  digits : UInt32
  places : UInt32
  /-- Does a value that is no number count as zero? -/
  nonNumericAsZero : Bool
  nullAsEmpty : Bool
  deriving DecidableEq, Repr

namespace Options

/-- The usual notation. -/
def standard : Options where
  between := ⟨"", " to ", ""⟩
  less := ⟨"<", ""⟩
  lessOrEqual := ⟨"<=", ""⟩
  greater := ⟨">", ""⟩
  greaterOrEqual := ⟨">=", ""⟩
  equal := ⟨"=", ""⟩
  number := "-?\\d*\\.?\\d+"
  digits := 20
  places := 4
  nonNumericAsZero := false
  nullAsEmpty := true

def markers (options : Options) : Form → Segment.Markers
  | .less => options.less
  | .lessOrEqual => options.lessOrEqual
  | .greater => options.greater
  | .greaterOrEqual => options.greaterOrEqual
  | .equal => options.equal

def fields : List (OptionField Options) :=
  [.text "betweenPrefix" fun options mark =>
      { options with between := { options.between with opening := mark } },
    .text "betweenInfix" fun options mark =>
      { options with between := { options.between with between := mark } },
    .text "betweenSuffix" fun options mark =>
      { options with between := { options.between with closing := mark } },
    .text "lessThanPrefix" fun options mark =>
      { options with less := { options.less with opening := mark } },
    .text "lessThanSuffix" fun options mark =>
      { options with less := { options.less with closing := mark } },
    .text "lessThanEqualPrefix" fun options mark =>
      { options with lessOrEqual := { options.lessOrEqual with opening := mark } },
    .text "lessThanEqualSuffix" fun options mark =>
      { options with lessOrEqual := { options.lessOrEqual with closing := mark } },
    .text "greaterThanPrefix" fun options mark =>
      { options with greater := { options.greater with opening := mark } },
    .text "greaterThanSuffix" fun options mark =>
      { options with greater := { options.greater with closing := mark } },
    .text "greaterThanEqualPrefix" fun options mark =>
      { options with greaterOrEqual := { options.greaterOrEqual with opening := mark } },
    .text "greaterThanEqualSuffix" fun options mark =>
      { options with greaterOrEqual := { options.greaterOrEqual with closing := mark } },
    .text "equalPrefix" fun options mark =>
      { options with equal := { options.equal with opening := mark } },
    .text "equalSuffix" fun options mark =>
      { options with equal := { options.equal with closing := mark } },
    .text "numberPattern" fun options number => { options with number },
    .count "conversionNumDigits" fun options digits => { options with digits },
    .count "conversionDecimalPlaces" fun options places => { options with places },
    .flag "treatNonNumericValuesAsZero" fun options wanted =>
      { options with nonNumericAsZero := wanted },
    .flag "treatNullAsEmptyString" fun options wanted => { options with nullAsEmpty := wanted }]

end Options

/-- The name of the first or only number. -/
def startGroup : String := "start"

/-- The name of the second number. -/
def endGroup : String := "end"

/-- Any white space, as a pattern. -/
def gap : List Char := "\\s*".toList

/-- The pattern of a number that can be asked for by name. -/
def numberGroup (options : Options) (name : String) : List Char :=
  "(?P<".toList ++ name.toList ++ ['>'] ++ options.number.toList ++ [')']

/-- The pattern of a whole segment, whatever the case of its letters. -/
def whole (parts : List Char) : List Char := "(?i)^".toList ++ parts ++ ['$']

/-- The pattern of the form with two numbers. -/
def betweenText (options : Options) : List Char :=
  let marks := options.between
  whole <|
    Pattern.escape marks.opening.toList ++ gap ++ numberGroup options startGroup ++ gap ++
      Pattern.escape marks.between.toList ++ gap ++ numberGroup options endGroup ++ gap ++
      Pattern.escape marks.closing.toList

/-- The pattern of a form with one number. -/
def formText (options : Options) (form : Form) : List Char :=
  let marks := options.markers form
  whole <|
    Pattern.escape marks.opening.toList ++ gap ++ numberGroup options startGroup ++ gap ++
      Pattern.escape marks.closing.toList

/-- A comparison with a number, as it is written. -/
structure Bound where
  operator : Operator
  number : String
  deriving DecidableEq, Repr

/-- A match in which a number took no part. -/
structure MissingNumber where
  group : String
  deriving DecidableEq, Repr

namespace MissingNumber

def message (error : MissingNumber) : String := "no group named '" ++ error.group ++ "'"

end MissingNumber

/-- The text of a number in a match. -/
def numberIn (pattern : Pattern) (text : List Char) (marks : Regex.Marks) (group : String) :
    Except MissingNumber String :=
  match pattern.groupText? text marks group with
  | some number => .ok (String.ofList number)
  | none => .error ⟨group⟩

end Range

/-- Options with the patterns of all forms. -/
structure Range where
  options : Range.Options
  between : Pattern
  forms : List (Range.Form × Pattern)

namespace Range

def compileForms? (options : Options) : List Form → Except PatternError (List (Form × Pattern))
  | [] => .ok []
  | form :: forms =>
      match Pattern.ofText? (formText options form) with
      | .error problem => .error problem
      | .ok pattern => (compileForms? options forms).map ((form, pattern) :: ·)

/-- Makes the patterns that the options ask for. -/
def ofOptions? (options : Options) : Except PatternError Range :=
  match Pattern.ofText? (betweenText options) with
  | .error problem => .error problem
  | .ok between => (compileForms? options Form.all).map fun forms => ⟨options, between, forms⟩

/-- The bounds in a text of the form with two numbers. -/
def betweenBounds (pattern : Pattern) (text : List Char) :
    Except MissingNumber (Option (List Bound)) :=
  match pattern.search? text with
  | none => .ok none
  | some marks =>
      match numberIn pattern text marks startGroup, numberIn pattern text marks endGroup with
      | .error problem, _ => .error problem
      | .ok _, .error problem => .error problem
      | .ok first, .ok last => .ok (some [⟨.greaterOrEqual, first⟩, ⟨.lessOrEqual, last⟩])

/-- The bounds in a text of the first form with one number that it has. -/
def formBounds (text : List Char) :
    List (Form × Pattern) → Except MissingNumber (Option (List Bound))
  | [] => .ok none
  | (form, pattern) :: forms =>
      match pattern.search? text with
      | none => formBounds text forms
      | some marks =>
          (numberIn pattern text marks startGroup).map fun number =>
            some (form.operators.map fun operator => ⟨operator, number⟩)

/-- The bounds that a text describes, if it has one of the forms. -/
def bounds (range : Range) (text : String) : Except MissingNumber (Option (List Bound)) :=
  match betweenBounds range.between text.toList with
  | .ok none => formBounds text.toList range.forms
  | result => result

/-- The value as a number. -/
def operand (options : Options) (target : Target) : Expr :=
  let fallback : Option Int := if options.nonNumericAsZero then some 0 else none
  target.dialect.toDecimal (target.operand options.nullAsEmpty) options.digits options.places
    fallback

/-- The kind of parameter that binds the number of a comparison. -/
def boundKind : Operator → String
  | .greater => "rangeStart"
  | .greaterOrEqual => "rangeStart"
  | _ => "rangeEnd"

/-- The name of the parameter that binds the number of a comparison. -/
def boundParam (target : Target) (segment : Segment) (bound : Bound) : String :=
  parameterName (boundKind bound.operator) segment.text target.column

/-- The fragment for bounds that were found in a segment. -/
def fragment (options : Options) (target : Target) (segment : Segment) (bounds : List Bound) :
    Fragment :=
  let operand := operand options target
  let comparisons := bounds.map fun bound =>
    Condition.compare operand bound.operator (.param (boundParam target segment bound))
  let entries := bounds.map fun bound =>
    (boundParam target segment bound, Value.ofNumberLiteral bound.number)
  ⟨(Condition.conjoin comparisons).negateIf segment.negated, .ofList entries⟩

/-- Compiles a segment that has one of the forms. -/
def range? (range : Range) (target : Target) (segment : Segment) :
    Except MissingNumber (Option Fragment) :=
  (range.bounds segment.text).map fun found =>
    found.map (fragment range.options target segment)

end Range

end ColumnFilter
