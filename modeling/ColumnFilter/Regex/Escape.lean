import ColumnFilter.Regex.Anchor
import ColumnFilter.Regex.Property
import ColumnFilter.Text.Scan

/-!
# Flags and escapes of patterns

What a written pattern is made of below the level of sequence and choice: the flags
that are in force, text that is ignored, and whatever a backslash introduces.
-/

namespace ColumnFilter

/-- Why a text is no pattern. -/
inductive PatternError where
  | unclosedGroup
  | unopenedGroup
  | lookAround
  | badFlags
  | badGroupName
  | duplicateGroupName (name : String)
  | nothingToRepeat
  | badRepetition
  | badEscape
  | backreference
  | unknownClass
  | badBracket
  | unclosedBracket
  /-- The pattern could match a part of a character. -/
  | splitsCharacters
  | tooDeep
  | tooLarge
  deriving DecidableEq, Repr

namespace Regex

open Text (Scan)

/-- The flags in force at a place of a written pattern. -/
structure Flags where
  ignoreCase : Bool
  multiLine : Bool
  dotAll : Bool
  swapGreed : Bool
  unicode : Bool
  crlf : Bool
  /-- White space and comments are ignored. -/
  extended : Bool
  deriving DecidableEq, Repr

/-- The flags at the start of a pattern. -/
def Flags.initial : Flags := ⟨false, false, false, false, true, false, false⟩

def skipIgnoredFrom (inComment : Bool) : (input : List Char) → Scan Unit input
  | [] => .stay () []
  | c :: rest =>
      if inComment then (skipIgnoredFrom (c != '\n') rest).past
      else if Text.isSpace c then (skipIgnoredFrom false rest).past
      else if c = '#' then (skipIgnoredFrom true rest).past
      else .stay () (c :: rest)

/-- Skips what the flags say is ignored. -/
def skipIgnored (flags : Flags) (input : List Char) : Scan Unit input :=
  if flags.extended then skipIgnoredFrom false input else .stay () input

/-- What a single unit of a pattern stands for. -/
inductive Atom where
  /-- A character; `byte` is set if it was written as a byte. -/
  | char (c : Char) (byte : Bool)
  | chars (set : CharSet)
  | anchor (condition : Anchor)
  deriving DecidableEq, Repr

/-- A result of reading a part of a pattern. -/
abbrev Parsed (α : Type) (input : List Char) := Except PatternError (Scan α input)

def isAscii (c : Char) : Bool := c.toNat < 0x80

/-- The set with all characters that differ from a member by case only, if case is
ignored. -/
def foldSet (flags : Flags) (set : CharSet) : CharSet :=
  if !flags.ignoreCase then set
  else if flags.unicode then .folded set
  else .inter (.folded set) (.range '\x00' '\x7f')

/-- The set, folded, and turned around if wanted. -/
def foldAndNegate (flags : Flags) (negated : Bool) (set : CharSet) : CharSet :=
  if negated then .compl (foldSet flags set) else foldSet flags set

/-- Characters with a meaning of their own in patterns. -/
def isMeta (c : Char) : Bool := "\\.+*?()|[]\x7b\x7d^$#&-~".toList.contains c

/-- May a backslash stand in front of the character without need? -/
def isEscapable (c : Char) : Bool :=
  isMeta c || (isAscii c && !c.isAlphanum && c != '<' && c != '>')

def hexValue? (c : Char) : Option Nat :=
  if '0' ≤ c ∧ c ≤ '9' then some (c.toNat - '0'.toNat)
  else if 'a' ≤ c ∧ c ≤ 'f' then some (c.toNat - 'a'.toNat + 10)
  else if 'A' ≤ c ∧ c ≤ 'F' then some (c.toNat - 'A'.toNat + 10)
  else none

def charOfCode? (code : Nat) : Option Char :=
  if code.isValidChar then some (Char.ofNat code) else none

/-- Reads a fixed number of hexadecimal digits. -/
def takeHexDigits (flags : Flags) : (count acc : Nat) → (input : List Char) → Parsed Nat input
  | 0, acc, input => .ok (.stay acc input)
  | _ + 1, _, [] => .error .badEscape
  | count + 1, acc, c :: rest =>
      match hexValue? c with
      | none => .error .badEscape
      | some digit =>
          let next := skipIgnored flags rest
          (takeHexDigits flags count (16 * acc + digit) next.rest).map fun scan =>
            scan.behind (Nat.le_succ_of_le next.bounded)

/-- Reads hexadecimal digits up to the closing brace. -/
def takeHexBrace (flags : Flags) (acc : Option Nat) : (input : List Char) → Parsed Nat input
  | [] => .error .badEscape
  | c :: rest =>
      if Text.isSpace c && flags.extended then
        (takeHexBrace flags acc rest).map fun scan => scan.past
      else if c = '\x7d' then
        match acc with
        | none => .error .badEscape
        | some code => .ok (.first code)
      else
        match hexValue? c with
        | none => .error .badEscape
        | some digit =>
            (takeHexBrace flags (some (16 * acc.getD 0 + digit)) rest).map fun scan =>
              scan.past

/-- Reads a character that is written by its code point. -/
def takeHex (flags : Flags) (digits : Nat) (input : List Char) : Parsed Atom input :=
  let start := skipIgnored flags input
  have startBounded := start.bounded
  match shape : start.rest with
  | '\x7b' :: rest =>
      match takeHexBrace flags none rest with
      | .error problem => .error problem
      | .ok scan =>
          match charOfCode? scan.value with
          | none => .error .badEscape
          | some c =>
              .ok ⟨.char c false, (skipIgnored flags scan.rest).rest, by
                have := (skipIgnored flags scan.rest).bounded
                have := scan.bounded
                rw [shape] at startBounded
                simp only [List.length_cons] at startBounded
                omega⟩
  | other =>
      match takeHexDigits flags digits 0 other with
      | .error problem => .error problem
      | .ok scan =>
          match charOfCode? scan.value with
          | none => .error .badEscape
          | some c =>
              .ok ⟨.char c (digits = 2), scan.rest, by
                rw [shape] at startBounded
                exact Nat.le_trans scan.bounded startBounded⟩

/-- The parts of a text before and behind a mark. -/
def cutAt? (mark : List Char) : List Char → Option (List Char × List Char)
  | [] => none
  | c :: rest =>
      if mark.isPrefixOf (c :: rest) then some ([], (c :: rest).drop mark.length)
      else (cutAt? mark rest).map fun (before, behind) => (c :: before, behind)

/-- The class of a property in braces: a name, or a name and a value. -/
def propertyClass? (text : List Char) : Option CharSet :=
  match cutAt? ['!', '='] text with
  | some (name, value) => (CharSet.ofNameValue? name value).map .compl
  | none =>
      match cutAt? [':'] text with
      | some (name, value) => CharSet.ofNameValue? name value
      | none =>
          match cutAt? ['='] text with
          | some (name, value) => CharSet.ofNameValue? name value
          | none => CharSet.ofName? text

/-- Reads the text of a property up to the closing brace. -/
def takeProperty (flags : Flags) : (input : List Char) → Parsed (List Char) input
  | [] => .error .badEscape
  | c :: rest =>
      if Text.isSpace c && flags.extended then
        (takeProperty flags rest).map fun scan => scan.past
      else if c = '\x7d' then .ok (.first [])
      else
        (takeProperty flags rest).map fun scan => (scan.map (c :: ·)).past

/-- A class that a pattern names by a property. -/
def namedAtom (flags : Flags) (negated : Bool) (set : Option CharSet) : Except PatternError Atom :=
  if !flags.unicode then .error .unknownClass
  else
    match set with
    | none => .error .unknownClass
    | some set => .ok (.chars (foldAndNegate flags negated set))

/-- Reads a class behind `\p` or `\P`. -/
def takeNamedClass (flags : Flags) (negated : Bool) (input : List Char) : Parsed Atom input :=
  let start := skipIgnored flags input
  have startBounded := start.bounded
  match shape : start.rest with
  | [] => .error .badEscape
  | c :: rest =>
      if c = '\x7b' then
        match takeProperty flags rest with
        | .error problem => .error problem
        | .ok scan =>
            (namedAtom flags negated (propertyClass? scan.value)).map fun atom =>
              ⟨atom, scan.rest, by
                have := scan.bounded
                rw [shape] at startBounded
                simp only [List.length_cons] at startBounded
                omega⟩
      else if c = '\\' then .error .unknownClass
      else
        let next := skipIgnored flags rest
        (namedAtom flags negated (CharSet.ofCategoryName? (String.ofList [c.toLower]))).map
          fun atom => ⟨atom, next.rest, by
            have := next.bounded
            rw [shape] at startBounded
            simp only [List.length_cons] at startBounded
            omega⟩

def letterClass (flags : Flags) (letter : Char) : Except PatternError Atom :=
  let wide : CharSet := match letter.toLower with
    | 'd' => .digit
    | 's' => .space
    | _ => .word
  let narrow : CharSet := match letter.toLower with
    | 'd' => .range '0' '9'
    | 's' => .oneOf ['\t', '\n', '\x0b', '\x0c', '\r', ' ']
    | _ => CharSet.unionAll [.range '0' '9', .range 'A' 'Z', .oneOf ['_'], .range 'a' 'z']
  let set := if flags.unicode then wide else narrow
  if letter.isLower then .ok (.chars set)
  else if flags.unicode then .ok (.chars (.compl set))
  else .error .splitsCharacters

/-- Letters of the names of word boundaries. -/
def isBoundaryLetter (c : Char) : Bool := c.isAlpha || c == '-'

/-- Reads the name of a word boundary. -/
def takeBoundaryName (flags : Flags) : (input : List Char) → Scan (List Char) input
  | [] => .stay [] []
  | c :: rest =>
      if isBoundaryLetter c then
        ((takeBoundaryName flags rest).map (c :: ·)).past
      else if flags.extended && Text.isSpace c then
        (takeBoundaryName flags rest).past
      else .stay [] (c :: rest)

/-- Reads a word boundary behind `\b`.  Braces without a name are left for a
repetition. -/
def takeBoundary (flags : Flags) (input : List Char) : Parsed Atom input :=
  match input with
  | '\x7b' :: rest =>
      let start := skipIgnored flags rest
      have startBounded := start.bounded
      match start.rest with
      | [] => .error .badEscape
      | c :: _ =>
          if !isBoundaryLetter c then
            .ok (.stay (.anchor .wordBoundary) ('\x7b' :: rest))
          else
            let name := takeBoundaryName flags start.rest
            match shape : name.rest with
            | '\x7d' :: behind =>
                have bounded : behind.length ≤ ('\x7b' :: rest).length := by
                  have := name.bounded
                  rw [shape] at this
                  simp only [List.length_cons] at *
                  omega
                match String.ofList name.value with
                | "start" => .ok ⟨.anchor .wordStart, behind, bounded⟩
                | "end" => .ok ⟨.anchor .wordEnd, behind, bounded⟩
                | "start-half" => .ok ⟨.anchor .wordStartHalf, behind, bounded⟩
                | "end-half" => .ok ⟨.anchor .wordEndHalf, behind, bounded⟩
                | _ => .error .badEscape
            | _ => .error .badEscape
  | other => .ok (.stay (.anchor .wordBoundary) other)

/-- Reads what stands behind a backslash. -/
def takeEscape (flags : Flags) (input : List Char) : Parsed Atom input :=
  match input with
  | [] => .error .badEscape
  | c :: rest =>
      let wide (parsed : Parsed Atom rest) : Parsed Atom (c :: rest) :=
        parsed.map fun scan => scan.past
      let literal (c : Char) : Parsed Atom rest := .ok (.stay (.char c false) rest)
      let anchor (condition : Anchor) : Parsed Atom rest :=
        .ok (.stay (.anchor condition) rest)
      wide <|
        if c.isDigit then .error .backreference
        else if c = 'x' then takeHex flags 2 rest
        else if c = 'u' then takeHex flags 4 rest
        else if c = 'U' then takeHex flags 8 rest
        else if c = 'p' ∨ c = 'P' then takeNamedClass flags (c = 'P') rest
        else if "dswDSW".toList.contains c then
          (letterClass flags c).map fun atom => .stay atom rest
        else if isEscapable c then literal c
        else
          match c with
          | 'a' => literal '\x07'
          | 'f' => literal '\x0c'
          | 't' => literal '\t'
          | 'n' => literal '\n'
          | 'r' => literal '\r'
          | 'v' => literal '\x0b'
          | 'A' => anchor .textStart
          | 'z' => anchor .textEnd
          | 'b' => takeBoundary flags rest
          | 'B' => anchor .notWordBoundary
          | '<' => anchor .wordStart
          | '>' => anchor .wordEnd
          | _ => .error .badEscape

end Regex

end ColumnFilter
