import ColumnFilter.Regex.Escape

/-!
# Bracketed classes

A class in brackets lists characters, ranges and classes, and may be joined to other
classes by intersection, difference and symmetric difference.  Brackets nest.
-/

namespace ColumnFilter.Regex

open Text (Scan)

/-- The operators between classes; all bind alike, from the left. -/
inductive SetOperator where
  | inter
  | diff
  | xor
  deriving DecidableEq, Repr

/-- What surrounds the place that reading has come to. -/
inductive BracketFrame where
  /-- A bracket inside which it is; `outer` are the members read before it. -/
  | opened (outer : List CharSet) (negated : Bool)
  /-- An operator and its left operand. -/
  | pending (operator : SetOperator) (left : CharSet)
  deriving DecidableEq, Repr

/-- A finished class and how deep its brackets and operators are nested. -/
structure Bracket where
  set : CharSet
  depth : Nat
  deriving DecidableEq, Repr

/-- The next character, seen past what is ignored. -/
def peekBehind (flags : Flags) (rest : List Char) : Option Char :=
  if !flags.extended then rest.head?
  else
    let visible := rest.dropWhile Text.isSpace
    match visible with
    | '#' :: comment =>
        match comment.dropWhile Text.isSpace with
        | c :: _ => some c
        | [] => rest.head?
    | c :: _ => some c
    | [] => rest.head?

/-- Reads one member, which a range may start with. -/
def takeMember (flags : Flags) (input : List Char) : Parsed Atom input :=
  match input with
  | [] => .error .unclosedBracket
  | '\\' :: rest => (takeEscape flags rest).map fun scan => scan.past
  | c :: _ => .ok (.first (.char c false))

/-- A character that a class may hold. -/
def memberChar? (flags : Flags) (atom : Atom) : Except PatternError Char :=
  match atom with
  | .char c _ => if flags.unicode || isAscii c then .ok c else .error .splitsCharacters
  | _ => .error .badBracket

def memberSet (flags : Flags) (atom : Atom) : Except PatternError CharSet :=
  match atom with
  | .chars chars => .ok chars
  | .anchor _ => .error .badBracket
  | .char _ _ => (memberChar? flags atom).map fun c => .oneOf [c]

/-- Reads a member or a range. -/
def takeRange (flags : Flags) (input : List Char) : Parsed CharSet input :=
  match takeMember flags input with
  | .error problem => .error problem
  | .ok first =>
      let next := skipIgnored flags first.rest
      have nextBounded := next.bounded
      have firstBounded := first.bounded
      match shape : next.rest with
      | [] => .error .unclosedBracket
      | c :: rest =>
          let peeked := peekBehind flags rest
          if c != '-' || peeked == some ']' || peeked == some '-' then
            (memberSet flags first.value).map fun set =>
              ⟨set, c :: rest, by rw [shape] at nextBounded; omega⟩
          else
            let start := skipIgnored flags rest
            match takeMember flags start.rest with
            | .error problem => .error problem
            | .ok second =>
                match memberChar? flags first.value, memberChar? flags second.value with
                | .ok low, .ok high =>
                    if low ≤ high then
                      .ok ⟨.range low high, second.rest, by
                        have := second.bounded
                        have := start.bounded
                        rw [shape] at nextBounded
                        simp only [List.length_cons] at nextBounded
                        omega⟩
                    else .error .badBracket
                | .error problem, _ => .error problem
                | _, .error problem => .error problem

/-- Reads leading hyphens of a class, which stand for themselves. -/
def takeHyphens (flags : Flags) : (input : List Char) → Scan (List CharSet) input
  | '-' :: rest =>
      have bounded := (skipIgnored flags rest).bounded
      let scan := takeHyphens flags (skipIgnored flags rest).rest
      ⟨.oneOf ['-'] :: scan.value, scan.rest,
        Nat.le_trans scan.bounded (Nat.le_succ_of_le bounded)⟩
  | other => .stay [] other
termination_by input => input.length
decreasing_by
  simp only [List.length_cons]
  omega

/-- Reads the start of a class behind its opening bracket: whether it is turned
around, and members that only stand for themselves there. -/
def takeOpening (flags : Flags) (input : List Char) : Parsed (Bool × List CharSet) input :=
  let start := skipIgnored flags input
  let negation : Scan Bool input :=
    if start.rest.head? == some '^' then
      ((skipIgnored flags start.tail.rest).behind start.tail.bounded).map fun _ => true
    else start.map fun _ => false
  let hyphens := (takeHyphens flags negation.rest).behind negation.bounded
  if hyphens.rest.isEmpty then .error .unclosedBracket
  else if hyphens.value.isEmpty && hyphens.rest.head? == some ']' then
    let next := (skipIgnored flags hyphens.tail.rest).behind hyphens.tail.bounded
    if next.rest.isEmpty then .error .unclosedBracket
    else .ok (next.map fun _ => (negation.value, [.oneOf [']']]))
  else .ok (hyphens.map fun members => (negation.value, members))

/-- Reads a named ASCII class such as `[:alpha:]` behind its opening bracket, if one is
there. -/
def takeAsciiClass? (flags : Flags) (input : List Char) : Option (Scan CharSet input) :=
  match input with
  | ':' :: rest =>
      let (negated, inner) := match rest with
        | '^' :: inner => (true, inner)
        | _ => (false, rest)
      let name := inner.takeWhile (· != ':')
      match inner.drop name.length with
      | ':' :: ']' :: behind =>
          if bounded : behind.length ≤ (':' :: rest).length then
            (CharSet.ofAsciiName? (String.ofList name)).map fun set =>
              ⟨foldAndNegate flags negated set, behind, bounded⟩
          else none
      | _ => none
  | _ => none

/-- A class as the right operand of an operator that waits for one. -/
def combine (flags : Flags) (set : CharSet) :
    List BracketFrame → CharSet × List BracketFrame
  | .pending operator left :: frames =>
      let left := foldSet flags left
      let right := foldSet flags set
      (match operator with
        | .inter => .inter left right
        | .diff => .diff left right
        | .xor => .xor left right, frames)
  | frames => (set, frames)

/-- The operator that two characters spell. -/
def setOperator? (first second : Char) : Option SetOperator :=
  if first ≠ second then none
  else
    match first with
    | '&' => some .inter
    | '-' => some .diff
    | '~' => some .xor
    | _ => none

/-- Reads a class to its closing bracket.  `members` are the latest members first, and
`depth` is the deepest nesting so far. -/
def takeMembers (flags : Flags) (frames : List BracketFrame) (members : List CharSet)
    (depth : Nat) (input : List Char) : Parsed Bracket input :=
  let start := skipIgnored flags input
  have startBounded := start.bounded
  let deeper := Nat.max depth frames.length
  match shape : start.rest with
  | [] => .error .unclosedBracket
  | '[' :: rest =>
      have : rest.length < input.length := by
        rw [shape] at startBounded
        exact startBounded
      match takeAsciiClass? flags rest with
      | some scan =>
          have := scan.bounded
          (takeMembers flags frames (scan.value :: members) deeper scan.rest).map fun tail =>
            tail.behind (by omega)
      | none =>
          match takeOpening flags rest with
          | .error problem => .error problem
          | .ok scan =>
              have := scan.bounded
              (takeMembers flags (.opened members scan.value.1 :: frames)
                scan.value.2.reverse deeper scan.rest).map fun tail => tail.behind (by omega)
  | ']' :: rest =>
      have : rest.length < input.length := by
        rw [shape] at startBounded
        exact startBounded
      match combine flags (CharSet.unionAll members.reverse) frames with
      | (chars, .opened outer negated :: frames) =>
          let closed := foldAndNegate flags negated chars
          if negated && !flags.unicode then .error .splitsCharacters
          else if frames.isEmpty then .ok ⟨⟨closed, deeper⟩, rest, by omega⟩
          else
            (takeMembers flags frames (closed :: outer) deeper rest).map fun tail =>
              tail.behind (by omega)
      | _ => .error .badBracket
  | c :: rest =>
      have : rest.length < input.length := by
        rw [shape] at startBounded
        exact startBounded
      match rest.head?.bind (setOperator? c) with
      | some operator =>
          have : (rest.drop 1).length ≤ rest.length := by simp
          let (left, frames) := combine flags (CharSet.unionAll members.reverse) frames
          (takeMembers flags (.pending operator left :: frames) [] deeper (rest.drop 1)).map
            fun tail => tail.behind (by omega)
      | none =>
          match takeRange flags (c :: rest) with
          | .error problem => .error problem
          | .ok scan =>
              if shorter : scan.rest.length < (c :: rest).length then
                (takeMembers flags frames (scan.value :: members) deeper scan.rest).map
                  fun tail => tail.behind (by
                    simp only [List.length_cons] at shorter
                    omega)
              else .error .badBracket
termination_by input.length
decreasing_by
  all_goals try simp only [List.length_cons] at shorter
  all_goals omega

/-- Reads a class behind its opening bracket. -/
def takeBracket (flags : Flags) (input : List Char) : Parsed Bracket input :=
  match takeOpening flags input with
  | .error problem => .error problem
  | .ok scan =>
      (takeMembers flags [.opened [] scan.value.1] scan.value.2.reverse 0 scan.rest).map
        fun tail => tail.behind scan.bounded

end ColumnFilter.Regex
