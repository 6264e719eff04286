import Mathlib.Data.List.Forall2
import ColumnFilter.Proofs.Segment.Reading
import ColumnFilter.Segment

/-!
# One scan of an expression

An expression is split in two passes, with white space trimmed before and between them.
With marks of one visible character this comes to a single scan from left to right, in
which an escape makes the next character literal, whatever it is.  What the first pass
leaves behind is read by the second one as the scan goes on, so each step of the scan keeps
the groups that the two passes would find; trimming early changes nothing, because a pass
reads white space as text and loses at most an escape in front of it.
-/

namespace ColumnFilter

open Text (sameLetter sameLetter_congr sameLetter_of_isSpace)

namespace Segment

/-- All stretches of a text between the delimiters of one pass. -/
def parts (mode : EscapeMode) (marks : Marks) (text : List Char) : List (List Char) :=
  (stretches (pieces mode marks text)).1 :: (stretches (pieces mode marks text)).2

theorem splitOn_eq_trimAll_parts {mode : EscapeMode} {marks : Marks}
    (delimited : marks.delimiter ≠ []) (text : List Char) :
    splitOn mode marks text = trimAll (parts mode marks text) := by
  rw [splitOn, if_neg (by simpa using delimited)]
  rfl

section Letters

variable {mode : EscapeMode} {delimiter escape : Char}

/-- The same text with white space behind it. -/
def Trails (text longer : List Char) : Prop :=
  ∃ white, longer = text ++ white ∧ ∀ c ∈ white, Text.isSpace c = true

/-- Of two lists of stretches, the second one has white space behind some of them. -/
def AllTrail (stretched longer : List Char × List (List Char)) : Prop :=
  Trails stretched.1 longer.1 ∧ List.Forall₂ Trails stretched.2 longer.2

theorem Trails.refl (text : List Char) : Trails text text := ⟨[], by simp, by simp⟩

theorem Trails.append_left {text longer : List Char} (trails : Trails text longer)
    (front : List Char) : Trails (front ++ text) (front ++ longer) := by
  obtain ⟨white, rfl, blank⟩ := trails
  exact ⟨white, by simp, blank⟩

theorem AllTrail.refl (stretched : List Char × List (List Char)) :
    AllTrail stretched stretched :=
  ⟨.refl _, List.forall₂_same.mpr fun text _ => .refl text⟩

theorem AllTrail.trimAll_eq {stretched longer : List Char × List (List Char)}
    (trail : AllTrail stretched longer) :
    trimAll (longer.1 :: longer.2) = trimAll (stretched.1 :: stretched.2) := by
  have trimmed : List.Forall₂ (fun text longer => Text.trim text = Text.trim longer)
      (stretched.1 :: stretched.2) (longer.1 :: longer.2) := by
    refine (List.Forall₂.cons trail.1 trail.2).imp ?_
    rintro text _ ⟨white, rfl, blank⟩
    exact (Text.trim_append_right blank text).symm
  have equal : List.Forall₂ Eq ((stretched.1 :: stretched.2).map Text.trim)
      ((longer.1 :: longer.2).map Text.trim) :=
    List.forall₂_map_left_iff.mpr (List.forall₂_map_right_iff.mpr trimmed)
  rw [List.forall₂_eq_eq_eq] at equal
  rw [trimAll, trimAll, equal]

theorem Reads.allTrail {marks : Marks} {written meant rest longer : List Char}
    (reads : Reads mode marks written meant)
    (trail : AllTrail (stretches (pieces mode marks rest)) (stretches (pieces mode marks longer))) :
    AllTrail (stretches (pieces mode marks (written ++ rest)))
      (stretches (pieces mode marks (written ++ longer))) := by
  rw [reads, reads]
  exact ⟨trail.1.append_left meant, trail.2⟩

theorem exists_reads_escaped (different : sameLetter delimiter escape = false) {mark : Char}
    (escaping : sameLetter mark escape = true) (c : Char) :
    ∃ meant, Reads mode ⟨[delimiter], [escape]⟩ [mark, c] meant := by
  cases mode with
  | keep => exact ⟨_, reads_escaped_keep different escaping c⟩
  | resolve => exact ⟨_, reads_escaped_resolve escaping c⟩

variable (visible : Text.isSpace delimiter = false) (visible' : Text.isSpace escape = false)
  {white : List Char} (blank : ∀ c ∈ white, Text.isSpace c = true)

include visible visible' blank

/-- White space is text in either pass. -/
theorem reads_blank : Reads mode ⟨[delimiter], [escape]⟩ white white := by
  have plain : Reads mode ⟨[delimiter], [escape]⟩ (white.flatMap fun c => [c])
      (white.flatMap fun c => [c]) :=
    .flatMap fun c member => reads_plain (sameLetter_of_isSpace (blank c member) visible)
      (sameLetter_of_isSpace (blank c member) visible')
  simpa using plain

/-- An escape with nothing but white space behind it is kept or dropped. -/
theorem stretches_loose (different : sameLetter delimiter escape = false) {mark : Char}
    (escaping : sameLetter mark escape = true) :
    stretches (pieces mode ⟨[delimiter], [escape]⟩ (mark :: white)) =
      ((if mode = .keep then [mark] else []) ++ white, []) := by
  cases white with
  | nil =>
      have uncut : sameLetter mark delimiter = false := by
        rw [sameLetter_congr escaping, Text.sameLetter_comm, different]
      have vacant : ∀ other, takeMark? [other] [] = none := fun _ => rfl
      cases mode with
      | keep =>
          have unescaped : takeEscape? .keep ⟨[delimiter], [escape]⟩ [mark] = none := by
            simp [takeEscape?, takeMark?_cons, escaping, vacant]
          rw [pieces_of_unescaped unescaped]
          simp [takeMark?_cons, uncut, pieces, stretches]
      | resolve =>
          have dropped : takeEscape? .resolve ⟨[delimiter], [escape]⟩ [mark] = some ([], []) := by
            simp [takeEscape?, takeMark?_cons, escaping, vacant]
          rw [pieces_of_escape dropped]
          simp [pieces, stretches]
  | cons c white =>
      obtain ⟨space, blank⟩ := List.forall_mem_cons.mp blank
      have later : Reads mode ⟨[delimiter], [escape]⟩ white white :=
        reads_blank visible visible' blank
      have pair : Reads mode ⟨[delimiter], [escape]⟩ [mark, c]
          ((if mode = .keep then [mark] else []) ++ [c]) := by
        cases mode with
        | keep =>
            have kept := reads_escaped_keep different escaping c
            rw [sameLetter_of_isSpace space visible] at kept
            exact kept
        | resolve => exact reads_escaped_resolve escaping c
      have whole := pair.append later []
      simpa [pieces, stretches] using whole

/-- White space at the end comes behind the last stretch, also where the first character
of it stands behind an escape. -/
theorem allTrail_append_blank (different : sameLetter delimiter escape = false)
    (text : List Char) :
    AllTrail (stretches (pieces mode ⟨[delimiter], [escape]⟩ text))
      (stretches (pieces mode ⟨[delimiter], [escape]⟩ (text ++ white))) := by
  have reads : Reads mode ⟨[delimiter], [escape]⟩ white white :=
    reads_blank visible visible' blank
  match text with
  | [] =>
      have alone := reads []
      rw [List.append_nil] at alone
      rw [List.nil_append, alone]
      exact ⟨⟨white, by simp [pieces, stretches], blank⟩, by simp [pieces, stretches]⟩
  | c :: text =>
      cases escaping : sameLetter c escape with
      | true =>
          match text with
          | [] =>
              have bare : stretches (pieces mode ⟨[delimiter], [escape]⟩ [c]) =
                  ((if mode = .keep then [c] else []) ++ [], []) :=
                stretches_loose visible visible' (by simp) different escaping
              rw [List.singleton_append, bare,
                stretches_loose visible visible' blank different escaping, List.append_nil]
              exact ⟨⟨white, rfl, blank⟩, .nil⟩
          | d :: text =>
              obtain ⟨meant, pair⟩ := exists_reads_escaped different escaping d
              exact pair.allTrail (allTrail_append_blank different text)
      | false =>
          cases cutting : sameLetter c delimiter with
          | true =>
              rw [List.cons_append, stretches_cut different cutting,
                stretches_cut different cutting]
              obtain ⟨first, others⟩ := allTrail_append_blank different text
              exact ⟨.refl [], .cons first others⟩
          | false =>
              have plain : Reads mode ⟨[delimiter], [escape]⟩ [c] [c] :=
                reads_plain cutting escaping
              exact plain.allTrail (allTrail_append_blank different text)
termination_by text.length

omit blank in
/-- It makes no difference whether a text is trimmed before it is split. -/
theorem splitOn_trim (different : sameLetter delimiter escape = false) (text : List Char) :
    splitOn mode ⟨[delimiter], [escape]⟩ (Text.trim text) =
      splitOn mode ⟨[delimiter], [escape]⟩ text := by
  obtain ⟨before, after, shape, blank, blank'⟩ := Text.exists_eq_trim text
  have delimited : (⟨[delimiter], [escape]⟩ : Marks).delimiter ≠ [] := by simp
  have front : trimAll (parts mode ⟨[delimiter], [escape]⟩ (before ++ (Text.trim text ++ after))) =
      trimAll (parts mode ⟨[delimiter], [escape]⟩ (Text.trim text ++ after)) := by
    have reads : Reads mode ⟨[delimiter], [escape]⟩ before before :=
      reads_blank visible visible' blank
    rw [parts, reads, trimAll, List.map_cons, Text.trim_append_left blank, ← List.map_cons]
    rfl
  have back : AllTrail (stretches (pieces mode ⟨[delimiter], [escape]⟩ (Text.trim text)))
      (stretches (pieces mode ⟨[delimiter], [escape]⟩ (Text.trim text ++ after))) :=
    allTrail_append_blank visible visible' blank' different (Text.trim text)
  rw [splitOn_eq_trimAll_parts delimited, splitOn_eq_trimAll_parts delimited]
  calc
    trimAll (parts mode ⟨[delimiter], [escape]⟩ (Text.trim text)) =
        trimAll (parts mode ⟨[delimiter], [escape]⟩ (Text.trim text ++ after)) :=
      back.trimAll_eq.symm
    _ = trimAll (parts mode ⟨[delimiter], [escape]⟩ (before ++ (Text.trim text ++ after))) :=
      front.symm
    _ = trimAll (parts mode ⟨[delimiter], [escape]⟩ text) := by
      rw [← List.append_assoc, ← shape]

end Letters

end Segment

/-- Marks of one visible character each, no two of which agree in any case. -/
structure Separators where
  alternative : Char
  conjunction : Char
  escape : Char
  alternative_visible : Text.isSpace alternative = false
  conjunction_visible : Text.isSpace conjunction = false
  escape_visible : Text.isSpace escape = false
  alternative_conjunction : sameLetter alternative conjunction = false
  alternative_escape : sameLetter alternative escape = false
  conjunction_escape : sameLetter conjunction escape = false

namespace Separators

/-- The marks with any way to invert segments. -/
def punctuation (marks : Separators) (inversion : Segment.Markers) : Punctuation :=
  ⟨.singleton marks.alternative, .singleton marks.conjunction, .singleton marks.escape, inversion⟩

/-- What a scan has read so far: closed groups, the closed segments of the group that is
open, the segment that is open, and whether an escape waits for the next character. -/
structure Progress where
  groups : List (List (List Char))
  group : List (List Char)
  segment : List Char
  escaped : Bool

/-- Reads one more character. -/
def step (marks : Separators) (progress : Progress) (c : Char) : Progress :=
  if progress.escaped then
    { progress with segment := progress.segment ++ [c], escaped := false }
  else if sameLetter c marks.escape then { progress with escaped := true }
  else if sameLetter c marks.alternative then
    ⟨progress.groups ++ [progress.group ++ [progress.segment]], [], [], false⟩
  else if sameLetter c marks.conjunction then
    { progress with group := progress.group ++ [progress.segment], segment := [] }
  else { progress with segment := progress.segment ++ [c] }

/-- All groups, with what is still open.  An escape that still waits is dropped. -/
def Progress.close (progress : Progress) : List (List (List Char)) :=
  progress.groups ++ [progress.group ++ [progress.segment]]

/-- The groups of a text in one scan from left to right. -/
def scan (marks : Separators) (text : List Char) : List (List (List Char)) :=
  (text.foldl marks.step ⟨[], [], [], false⟩).close

/-- The texts that a scan finds, trimmed, without empty ones and without empty groups. -/
def scanned (marks : Separators) (expression : String) : List (List String) :=
  let groups := (marks.scan expression.toList).map Segment.trimAll
  (groups.filter fun group => !group.isEmpty).map fun group => group.map String.ofList

variable (marks : Separators)

/-- The marks of the first pass. -/
def outer : Segment.Marks := ⟨[marks.alternative], [marks.escape]⟩

/-- The marks of the second pass. -/
def inner : Segment.Marks := ⟨[marks.conjunction], [marks.escape]⟩

/-- The groups if the rest of the text is read in two passes. -/
def completed (progress : Progress) (rest : List Char) : List (List (List Char)) :=
  let (first, others) := Segment.stretches (Segment.pieces .keep marks.outer rest)
  let (segment, segments) := Segment.stretches (Segment.pieces .resolve marks.inner first)
  progress.groups ++ (progress.group ++ (progress.segment ++ segment) :: segments) ::
    others.map (Segment.parts .resolve marks.inner)

/-- What the first pass leaves of some text is read by the second one as a literal. -/
theorem completed_literal {written kept meant : List Char}
    (first : Segment.Reads .keep marks.outer written kept)
    (second : Segment.Reads .resolve marks.inner kept meant) (progress : Progress)
    (escaped : Bool) (rest : List Char) :
    marks.completed progress (written ++ rest) =
      marks.completed
        { progress with segment := progress.segment ++ meant, escaped := escaped } rest := by
  simp only [completed, first rest, second _, List.append_assoc]

theorem completed_alternative {c : Char} (cutting : sameLetter c marks.alternative = true)
    (progress : Progress) (rest : List Char) :
    marks.completed progress (c :: rest) =
      marks.completed
        ⟨progress.groups ++ [progress.group ++ [progress.segment]], [], [], false⟩ rest := by
  simp only [completed, outer, Segment.stretches_cut marks.alternative_escape cutting]
  simp [Segment.pieces, Segment.stretches, Segment.parts]

theorem completed_conjunction {c : Char} (cutting : sameLetter c marks.conjunction = true)
    (progress : Progress) (rest : List Char) :
    marks.completed progress (c :: rest) =
      marks.completed
        { progress with group := progress.group ++ [progress.segment], segment := [] } rest := by
  have free : sameLetter c marks.alternative = false := by
    rw [sameLetter_congr cutting, Text.sameLetter_comm, marks.alternative_conjunction]
  have bare : sameLetter c marks.escape = false := by
    rw [sameLetter_congr cutting, marks.conjunction_escape]
  have first : Segment.Reads .keep marks.outer [c] [c] := Segment.reads_plain free bare
  have first := first rest
  rw [List.singleton_append] at first
  simp only [completed, first, List.singleton_append, inner,
    Segment.stretches_cut marks.conjunction_escape cutting]
  simp

/-- What stands in the text for the escape that waits, if one does. -/
def Waits (progress : Progress) (written : List Char) : Prop :=
  if progress.escaped then ∃ mark, written = [mark] ∧ sameLetter mark marks.escape = true
  else written = []

/-- Behind an escape any character is a literal in the end. -/
theorem completed_escaped {mark : Char} (escaping : sameLetter mark marks.escape = true)
    (progress : Progress) (c : Char) (rest : List Char) :
    marks.completed progress (mark :: c :: rest) =
      marks.completed { progress with segment := progress.segment ++ [c], escaped := false }
        rest := by
  have first := Segment.reads_escaped_keep marks.alternative_escape escaping c
  refine marks.completed_literal first ?_ progress false rest
  cases alternative : sameLetter c marks.alternative with
  | true =>
      have free : sameLetter c marks.conjunction = false := by
        rw [sameLetter_congr alternative, marks.alternative_conjunction]
      have bare : sameLetter c marks.escape = false := by
        rw [sameLetter_congr alternative, marks.alternative_escape]
      exact Segment.reads_plain free bare
  | false => exact Segment.reads_escaped_resolve escaping c

/-- A step of the scan does not change what the two passes come to. -/
theorem completed_step {progress : Progress} {written : List Char}
    (waits : marks.Waits progress written) (c : Char) (rest : List Char) :
    ∃ written', marks.Waits (marks.step progress c) written' ∧
      marks.completed progress (written ++ c :: rest) =
        marks.completed (marks.step progress c) (written' ++ rest) := by
  unfold Waits at waits
  by_cases escaped : progress.escaped
  · rw [if_pos escaped] at waits
    obtain ⟨mark, rfl, escaping⟩ := waits
    refine ⟨[], by simp [Waits, step, escaped], ?_⟩
    rw [step, if_pos escaped]
    exact marks.completed_escaped escaping progress c rest
  · rw [if_neg escaped] at waits
    obtain rfl := waits
    rw [step, if_neg escaped, List.nil_append]
    by_cases escaping : sameLetter c marks.escape
    · rw [if_pos escaping]
      exact ⟨[c], by simp [Waits, escaping], by simp [completed]⟩
    · rw [if_neg escaping]
      by_cases outer : sameLetter c marks.alternative
      · rw [if_pos outer]
        exact ⟨[], by simp [Waits], marks.completed_alternative outer progress rest⟩
      · rw [if_neg outer]
        by_cases inner : sameLetter c marks.conjunction
        · rw [if_pos inner]
          exact ⟨[], by simp [Waits, escaped], marks.completed_conjunction inner progress rest⟩
        · rw [if_neg inner]
          rw [Bool.not_eq_true] at escaping outer inner
          have first : Segment.Reads .keep marks.outer [c] [c] := Segment.reads_plain outer escaping
          have second : Segment.Reads .resolve marks.inner [c] [c] :=
            Segment.reads_plain inner escaping
          exact ⟨[], by simp [Waits, escaped],
            marks.completed_literal first second progress progress.escaped rest⟩

/-- A scan of a text finds what the two passes find in it. -/
theorem close_foldl_step {progress : Progress} {written : List Char}
    (waits : marks.Waits progress written) (text : List Char) :
    (text.foldl marks.step progress).close = marks.completed progress (written ++ text) := by
  induction text generalizing progress written with
  | nil =>
      unfold Waits at waits
      split at waits
      · obtain ⟨mark, rfl, escaping⟩ := waits
        have first : Segment.stretches (Segment.pieces .keep marks.outer [mark]) =
            ([mark], []) :=
          Segment.stretches_loose marks.alternative_visible marks.escape_visible (by simp)
            marks.alternative_escape escaping
        have second : Segment.stretches (Segment.pieces .resolve marks.inner [mark]) =
            ([], []) :=
          Segment.stretches_loose marks.conjunction_visible marks.escape_visible (by simp)
            marks.conjunction_escape escaping
        simp [completed, first, second, Progress.close]
      · obtain rfl := waits
        simp [completed, Segment.pieces, Segment.stretches, Progress.close]
  | cons c text induction =>
      obtain ⟨written', waits', same⟩ := marks.completed_step waits c text
      rw [List.foldl_cons, induction waits', same]

theorem scan_eq_map_parts (text : List Char) :
    marks.scan text =
      (Segment.parts .keep marks.outer text).map (Segment.parts .resolve marks.inner) := by
  have waits : marks.Waits ⟨[], [], [], false⟩ [] := by simp [Waits]
  rw [scan, marks.close_foldl_step waits]
  simp [completed, Segment.parts]

theorem splitOn_outer_trim (text : List Char) :
    Segment.splitOn .keep marks.outer (Text.trim text) =
      Segment.splitOn .keep marks.outer text :=
  Segment.splitOn_trim marks.alternative_visible marks.escape_visible marks.alternative_escape text

theorem splitOn_inner_trim (text : List Char) :
    Segment.splitOn .resolve marks.inner (Text.trim text) =
      Segment.splitOn .resolve marks.inner text :=
  Segment.splitOn_trim marks.conjunction_visible marks.escape_visible marks.conjunction_escape text

theorem filter_map_splitOn_inner (texts : List (List Char)) :
    ((Segment.trimAll texts).map (Segment.splitOn .resolve marks.inner)).filter
        (fun group => !group.isEmpty) =
      (texts.map (Segment.splitOn .resolve marks.inner)).filter fun group => !group.isEmpty := by
  have vacant : Segment.splitOn .resolve marks.inner [] = [] := by
    rw [Segment.splitOn, if_neg (by simp [inner])]
    simp [Segment.pieces, Segment.stretches, Segment.trimAll, Text.trim, Text.trimEnd,
      Text.trimStart]
  rw [Segment.filter_map_trimAll vacant, List.map_map]
  exact congrArg _ (List.map_congr_left fun text _ => marks.splitOn_inner_trim text)

/-- The two passes find the texts that one scan finds, in malformed expressions too. -/
theorem split_eq_scanned (inversion : Segment.Markers) (expression : String) :
    (marks.punctuation inversion).split expression = marks.scanned expression := by
  have outer : Segment.splitOn .keep marks.outer (Text.trim expression.toList) =
      Segment.trimAll (Segment.parts .keep marks.outer expression.toList) := by
    rw [marks.splitOn_outer_trim, Segment.splitOn_eq_trimAll_parts (by simp [Separators.outer])]
  have inner : ∀ text, Segment.splitOn .resolve marks.inner text =
      Segment.trimAll (Segment.parts .resolve marks.inner text) :=
    Segment.splitOn_eq_trimAll_parts (by simp [Separators.inner])
  have groups : (Segment.parts .keep marks.outer expression.toList).map
      (Segment.splitOn .resolve marks.inner) =
        (marks.scan expression.toList).map Segment.trimAll := by
    rw [marks.scan_eq_map_parts, List.map_map]
    exact List.map_congr_left fun text _ => inner text
  rw [scanned, ← groups, ← marks.filter_map_splitOn_inner, ← outer]
  simp only [Punctuation.split, punctuation, String.toList_singleton]
  rfl

/-- Doubled, stray, protecting and final escapes. -/
theorem split_eq_scanned_malformed :
    let marks : Separators :=
      ⟨'|', '&', '\\', by decide +kernel, by decide +kernel, by decide +kernel, by decide +kernel,
        by decide +kernel, by decide +kernel⟩
    let expression := "a\\\\|\\b\\&c & \\ |d\\"
    (marks.punctuation ⟨"!", ""⟩).split expression = marks.scanned expression ∧
      marks.scanned expression = [["a\\"], ["b&c"], ["d"]] := by
  intro marks expression
  exact ⟨marks.split_eq_scanned ⟨"!", ""⟩ expression, by decide +kernel⟩

end Separators

end ColumnFilter
