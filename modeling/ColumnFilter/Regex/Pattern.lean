import ColumnFilter.Regex.Bracket
import ColumnFilter.Regex.Machine

/-!
# Written patterns

The text of a pattern is read from left to right, one item at a time.  What is read so
far is a stack of open groups, each a list of finished branches and the items of the
branch that is being read.  `Pattern.ofText?` reads a whole text, and refuses one that
is nested too deeply or would take too much room.
-/

namespace ColumnFilter

namespace Regex

open Text (Scan)

/-- A part of a pattern and how deep it is nested. -/
structure Item where
  regex : Regex
  depth : Nat
  /-- Can it be repeated?  Flags cannot. -/
  repeatable : Bool
  deriving DecidableEq, Repr

namespace Item

/-- An item that is not nested. -/
def plain (regex : Regex) : Item := ⟨regex, 0, true⟩

/-- The greatest depth of some items. -/
def deepest (items : List Item) : Nat := items.foldl (fun depth item => Nat.max depth item.depth) 0

def sequence : List Item → Item
  | [] => plain .empty
  | [only] => only
  | items => ⟨Regex.sequence (items.map Item.regex), 1 + deepest items, true⟩

def choice : List Item → Item
  | [only] => only
  | items => ⟨Regex.choice (items.map Item.regex), 1 + deepest items, true⟩

/-- A part that can be repeated and is nested one level deeper. -/
def around (regex : Regex) (item : Item) : Item := ⟨regex, 1 + item.depth, true⟩

end Item

/-- The branches of a choice, the latest first, and the items of the branch that is
being read, the latest first. -/
structure Level where
  branches : List Item
  items : List Item
  deriving DecidableEq, Repr

/-- What a level amounts to when it ends. -/
def Level.close (level : Level) : Item :=
  .choice (.sequence level.items.reverse :: level.branches).reverse

/-- A group that is still open: what was read outside it, the flags that hold again
behind it, and its number if its text is kept. -/
structure OpenGroup where
  outside : Level
  flags : Flags
  index : Option Nat
  deriving DecidableEq, Repr

/-- What is read of a pattern so far. -/
structure Progress where
  flags : Flags
  level : Level
  groups : List OpenGroup
  /-- The number of groups whose text is kept. -/
  count : Nat
  names : List (String × Nat)
  deriving DecidableEq, Repr

namespace Progress

def start : Progress := ⟨.initial, ⟨[], []⟩, [], 0, []⟩

/-- Adds an item to the branch that is being read. -/
def push (progress : Progress) (item : Item) : Progress :=
  { progress with
    level := { progress.level with items := item :: progress.level.items } }

def branch (progress : Progress) : Progress :=
  { progress with
    level :=
      ⟨.sequence progress.level.items.reverse :: progress.level.branches, []⟩ }

/-- Opens a group, inside which other flags may hold. -/
def openGroup (progress : Progress) (flags : Flags) (index : Option Nat) : Progress :=
  { progress with
    flags
    level := ⟨[], []⟩
    groups := ⟨progress.level, progress.flags, index⟩ :: progress.groups }

/-- Opens a group whose text is kept. -/
def openCapture (progress : Progress) : Progress :=
  { progress.openGroup progress.flags (some (progress.count + 1)) with
    count := progress.count + 1 }

def closeGroup (progress : Progress) : Except PatternError Progress :=
  match progress.groups with
  | [] => .error .unopenedGroup
  | innermost :: groups =>
      let inner := progress.level.close
      let regex := match innermost.index with
        | some index => Regex.group index inner.regex
        | none => inner.regex
      .ok <| { progress with flags := innermost.flags, level := innermost.outside, groups }.push
        (.around regex inner)

def repeatLast (progress : Progress) (low : Nat) (high : Option Nat) (greedy : Bool) :
    Except PatternError Progress :=
  match progress.level.items with
  | [] => .error .nothingToRepeat
  | item :: items =>
      if !item.repeatable then .error .nothingToRepeat
      else
        let greedy := greedy != progress.flags.swapGreed
        let regex := Regex.times low high greedy item.regex
        .ok { progress with
          level := { progress.level with items := .around regex item :: items } }

/-- What is read when the text ends here. -/
def finish (progress : Progress) : Except PatternError Item :=
  if progress.groups.isEmpty then .ok progress.level.close else .error .unclosedGroup

end Progress

def charSet (flags : Flags) (c : Char) : CharSet :=
  if flags.ignoreCase && !flags.unicode then
    .oneOf (if isAscii c then [c.toLower, c.toUpper] else [c])
  else CharSet.single flags.ignoreCase c

def ofAtom (flags : Flags) (atom : Atom) : Except PatternError Regex :=
  match atom with
  | .char c byte =>
      if !flags.unicode && !isAscii c && (byte && c.toNat ≤ 0xFF || flags.ignoreCase) then
        .error .splitsCharacters
      else .ok (.set (charSet flags c))
  | .chars members => .ok (.set members)
  | .anchor condition => .ok (.anchor condition)

/-- The set that a dot stands for. -/
def dotSet (flags : Flags) : Except PatternError CharSet :=
  if !flags.unicode then .error .splitsCharacters
  else if flags.dotAll then .ok .any
  else if flags.crlf then .ok (.compl (.oneOf ['\r', '\n']))
  else .ok (.compl (.oneOf ['\n']))

/-- The condition that a caret or a dollar sign stands for. -/
def lineAnchor (flags : Flags) (atStart : Bool) : Anchor :=
  match flags.multiLine, flags.crlf, atStart with
  | false, _, true => .textStart
  | false, _, false => .textEnd
  | true, false, true => .lineStart
  | true, false, false => .lineEnd
  | true, true, true => .crlfStart
  | true, true, false => .crlfEnd

/-- The flags with one of them set or cleared. -/
def setFlag (flags : Flags) (letter : Char) (on : Bool) : Option Flags :=
  match letter with
  | 'i' => some { flags with ignoreCase := on }
  | 'm' => some { flags with multiLine := on }
  | 's' => some { flags with dotAll := on }
  | 'U' => some { flags with swapGreed := on }
  | 'u' => some { flags with unicode := on }
  | 'R' => some { flags with crlf := on }
  | 'x' => some { flags with extended := on }
  | _ => none

/-- Reads flags up to the mark that ends them.  `used` are the letters read so far, and
`dangling` is set right behind the sign that clears flags. -/
def takeFlags (flags : Flags) (used : List Char) (on dangling : Bool) :
    (input : List Char) → Parsed (Flags × Bool × Bool) input
  | [] => .error .badFlags
  | c :: rest =>
      if c = ':' ∨ c = ')' then
        if dangling then .error .badFlags
        else .ok (.first (flags, used.isEmpty, c = ')'))
      else if used.contains c then .error .badFlags
      else if c = '-' then
        (takeFlags flags (c :: used) false true rest).map fun scan => scan.past
      else
        match setFlag flags c on with
        | none => .error .badFlags
        | some flags =>
            (takeFlags flags (c :: used) on false rest).map fun scan => scan.past

/-- May the character stand in the name of a group? -/
def isNameChar (first : Bool) (c : Char) : Bool :=
  if first then c == '_' || Text.isAlphabetic c
  else c == '_' || c == '.' || c == '[' || c == ']' || Text.isAlphanumeric c

/-- Reads the name of a group up to the closing angle bracket. -/
def takeGroupName (first : Bool) : (input : List Char) → Parsed (List Char) input
  | [] => .error .badGroupName
  | c :: rest =>
      if c = '>' then
        if first then .error .badGroupName else .ok (.first [])
      else if isNameChar first c then
        (takeGroupName false rest).map fun scan => (scan.map (c :: ·)).past
      else .error .badGroupName

/-- Opens a group with a name, which no other group may have. -/
def openNamed (progress : Progress) (input : List Char) : Parsed Progress input :=
  match takeGroupName true input with
  | .error problem => .error problem
  | .ok scan =>
      let name := String.ofList scan.value
      if (progress.names.lookup name).isSome then .error (.duplicateGroupName name)
      else
        let opened := progress.openCapture
        .ok (scan.map fun _ => { opened with names := (name, opened.count) :: progress.names })

/-- Changes the flags from here on, or opens a group with other flags. -/
def openFlags (progress : Progress) (input : List Char) : Parsed Progress input :=
  match takeFlags progress.flags [] true false input with
  | .error problem => .error problem
  | .ok scan =>
      let (flags, vacant, alone) := scan.value
      if alone then
        if vacant then .error .nothingToRepeat
        else .ok (scan.map fun _ => { progress with flags }.push ⟨.empty, 0, false⟩)
      else .ok (scan.map fun _ => progress.openGroup flags none)

/-- Reads the start of a group behind its parenthesis. -/
def takeGroup (progress : Progress) (input : List Char) : Parsed Progress input :=
  let start := skipIgnored progress.flags input
  let widen (length : Nat) (parsed : Parsed Progress (start.rest.drop length)) :
      Parsed Progress input :=
    parsed.map fun scan => scan.behind (by
      have := start.bounded
      simp only [List.length_drop]
      omega)
  match start.rest with
  | '?' :: '=' :: _ => .error .lookAround
  | '?' :: '!' :: _ => .error .lookAround
  | '?' :: '<' :: '=' :: _ => .error .lookAround
  | '?' :: '<' :: '!' :: _ => .error .lookAround
  | '?' :: 'P' :: '<' :: _ => widen 3 (openNamed progress _)
  | '?' :: '<' :: _ => widen 2 (openNamed progress _)
  | '?' :: _ => widen 1 (openFlags progress _)
  | _ => .ok (start.map fun _ => progress.openCapture)

/-- Does a question mark follow, which makes a repetition prefer fewer rounds? -/
def takeLazy (input : List Char) : Scan Bool input :=
  match input with
  | '?' :: _ => .first true
  | other => .stay false other

/-- Reads a repetition without numbers behind its sign. -/
def takeRepetition (progress : Progress) (low : Nat) (high : Option Nat) (input : List Char) :
    Parsed Progress input :=
  let lazy := takeLazy input
  (progress.repeatLast low high !lazy.value).map fun repeated => lazy.map fun _ => repeated

/-- Reads decimal digits; ignored text may stand between them. -/
def takeCountDigits (flags : Flags) (acc : Option Nat) :
    (input : List Char) → Scan (Option Nat) input
  | [] => .stay acc []
  | c :: rest =>
      if '0' ≤ c ∧ c ≤ '9' then
        let digit := c.toNat - '0'.toNat
        (takeCountDigits flags (some (10 * acc.getD 0 + digit)) rest).past
      else if flags.extended && acc.isSome && Text.isSpace c then
        (takeCountDigits flags acc rest).past
      else .stay acc (c :: rest)

def takeSpace : (input : List Char) → Scan Unit input
  | [] => .stay () []
  | c :: rest =>
      if Text.isSpace c then (takeSpace rest).past else .stay () (c :: rest)

/-- Reads a number of rounds with white space around it; it has to fit 32 bits. -/
def takeCount (flags : Flags) (input : List Char) : Parsed (Option Nat) input :=
  let before := takeSpace input
  let digits := (takeCountDigits flags none before.rest).behind before.bounded
  let after := (takeSpace digits.rest).behind digits.bounded
  let next := (skipIgnored flags after.rest).behind after.bounded
  match digits.value with
  | none => .ok (next.map fun _ => none)
  | some count =>
      if count < UInt32.size then .ok (next.map fun _ => some count) else .error .badRepetition

/-- Ends a counted repetition at its closing brace. -/
def closeCounted (progress : Progress) (low : Nat) (high : Option Nat) (input : List Char) :
    Parsed Progress input :=
  match input with
  | '\x7d' :: rest =>
      let next := skipIgnored progress.flags rest
      let lazy := takeLazy next.rest
      if high.any (· < low) then .error .badRepetition
      else
        (progress.repeatLast low high !lazy.value).map fun repeated =>
          ⟨repeated, lazy.rest, by
            have := next.bounded
            have := lazy.bounded
            simp only [List.length_cons]
            omega⟩
  | _ => .error .badRepetition

/-- Reads a counted repetition behind its opening brace. -/
def takeCounted (progress : Progress) (input : List Char) : Parsed Progress input :=
  let start := skipIgnored progress.flags input
  have startBounded := start.bounded
  match takeCount progress.flags start.rest with
  | .error problem => .error problem
  | .ok low =>
      have lowBounded := low.bounded
      match low.value, shape : low.rest with
      | none, _ => .error .badRepetition
      | some count, ',' :: rest =>
          let next := skipIgnored progress.flags rest
          have nextBounded := next.bounded
          have restBounded : rest.length ≤ input.length := by
            rw [shape] at lowBounded
            simp only [List.length_cons] at lowBounded
            omega
          if next.rest.head? = some '\x7d' then
            (closeCounted progress count none next.rest).map fun scan =>
              scan.behind (by omega)
          else
            match takeCount progress.flags next.rest with
            | .error problem => .error problem
            | .ok high =>
                match high.value with
                | none => .error .badRepetition
                | some bound =>
                    have := high.bounded
                    (closeCounted progress count (some bound) high.rest).map fun scan =>
                      scan.behind (by omega)
      | some count, rest =>
          (closeCounted progress count (some count) rest).map fun scan =>
            scan.behind (by rw [shape] at lowBounded; omega)

/-- Reads one item, whose first character is `c`. -/
def takeItem (progress : Progress) (c : Char) (rest : List Char) : Parsed Progress rest :=
  let flags := progress.flags
  let push (regex : Regex) : Parsed Progress rest :=
    .ok (.stay (progress.push (.plain regex)) rest)
  match c with
  | '(' => takeGroup progress rest
  | ')' => progress.closeGroup.map fun closed => .stay closed rest
  | '|' => .ok (.stay progress.branch rest)
  | '[' =>
      (takeBracket flags rest).map fun scan =>
        scan.map fun bracket => progress.push ⟨.set bracket.set, bracket.depth, true⟩
  | '?' => takeRepetition progress 0 (some 1) rest
  | '*' => takeRepetition progress 0 none rest
  | '+' => takeRepetition progress 1 none rest
  | '\x7b' => takeCounted progress rest
  | '\\' =>
      match takeEscape flags rest with
      | .error problem => .error problem
      | .ok scan =>
          (ofAtom flags scan.value).map fun regex =>
            scan.map fun _ => progress.push (.plain regex)
  | '.' =>
      match dotSet flags with
      | .error problem => .error problem
      | .ok chars => push (.set chars)
  | '^' => push (.anchor (lineAnchor flags true))
  | '$' => push (.anchor (lineAnchor flags false))
  | c =>
      match ofAtom flags (.char c false) with
      | .error problem => .error problem
      | .ok regex => push regex

/-- Reads items up to the end of the text. -/
def takeItems (progress : Progress) (input : List Char) : Except PatternError Progress :=
  match input with
  | [] => .ok progress
  | c :: rest =>
      if progress.flags.extended && (Text.isSpace c || c == '#') then
        have := (skipIgnoredFrom (c == '#') rest).bounded
        takeItems progress (skipIgnoredFrom (c == '#') rest).rest
      else
        match takeItem progress c rest with
        | .error problem => .error problem
        | .ok scan =>
            have := scan.bounded
            takeItems scan.value scan.rest
termination_by input.length
decreasing_by
  all_goals simp only [List.length_cons]
  all_goals omega

/-- How deep a pattern may be nested. -/
def depthLimit : Nat := 250

/-- How many bytes a matcher for a pattern may take. -/
def sizeLimit : Nat := 10 * 1024 * 1024

end Regex

/-- A pattern that was read from a text, with the numbers of its named groups. -/
structure Pattern where
  regex : Regex
  names : List (String × Nat)
  deriving DecidableEq, Repr

namespace Pattern

def ofText? (text : List Char) : Except PatternError Pattern :=
  match Regex.takeItems .start text with
  | .error problem => .error problem
  | .ok progress =>
      match progress.finish with
      | .error problem => .error problem
      | .ok item =>
          if item.depth > Regex.depthLimit then .error .tooDeep
          else if item.regex.size > Regex.sizeLimit then .error .tooLarge
          else .ok ⟨item.regex, progress.names⟩

/-- A character as a pattern that matches it. -/
def escapeChar (c : Char) : List Char := if Regex.isMeta c then ['\\', c] else [c]

/-- A text as a pattern that matches it. -/
def escape (text : List Char) : List Char := text.flatMap escapeChar

def search? (pattern : Pattern) (text : List Char) : Option Regex.Marks :=
  pattern.regex.search? text

/-- The text of a named group, if it took part in a match. -/
def groupText? (pattern : Pattern) (text : List Char) (marks : Regex.Marks) (name : String) :
    Option (List Char) :=
  (pattern.names.lookup name).bind (Regex.groupText? text marks)

end Pattern

end ColumnFilter
