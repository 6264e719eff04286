import ColumnFilter.Proofs.Result
import ColumnFilter.Regex.Escape

/-!
# Reading an enclosed pattern

A pattern that was read by itself may also stand in parentheses, with more text behind
it and other flags in force.  What is read of it does not change, as long as white
space and comments are ignored in both places or in neither: reading stops where it
stopped before, with the text behind still to come.  Only where the pattern ends
inside a comment, the comment takes the start of that text as well.
-/

namespace ColumnFilter

namespace Text.Scan

variable {α β : Type} {input : List Char}

@[simp] theorem rest_stay {value : α} : (stay value input).rest = input := rfl

@[simp] theorem rest_first {c : Char} {value : α} :
    (first value : Scan α (c :: input)).rest = input := rfl

@[simp] theorem rest_map {f : α → β} {scan : Scan α input} : (scan.map f).rest = scan.rest := rfl

@[simp] theorem rest_past {c : Char} {scan : Scan α input} :
    (scan.past : Scan α (c :: input)).rest = scan.rest := rfl

@[simp] theorem rest_behind {longer : List Char} {scan : Scan α input}
    {tail : input.length ≤ longer.length} : (scan.behind tail).rest = scan.rest := rfl

end Text.Scan

namespace Regex

open Text (Scan)

/-- What is left of the text behind a part, where that part may end inside a comment. -/
def resume (commented : Bool) (behind : List Char) : List Char :=
  if commented then (skipIgnoredFrom true behind).rest else behind

/-- A text that begins with a closing parenthesis, and does not go on with a question
mark if a comment takes the parenthesis away. -/
structure Encloses (commented : Bool) (behind : List Char) : Prop where
  paren : behind.head? = some ')'
  single : (resume commented behind).head? ≠ some '?'

theorem Encloses.of_paren {behind : List Char} (paren : behind.head? = some ')') :
    Encloses false behind := by
  refine ⟨paren, ?_⟩
  rw [resume, if_neg Bool.false_ne_true, paren]
  decide

/-- What reading under some flags leaves of a text, if it succeeds. -/
abbrev Reading := Flags → List Char → List Char → Prop

/-- However the input goes on, reading goes as far as it does without: up to `rest`,
or on from there if a comment is at its end. -/
def Continues (extended : Bool) (reading : Reading) (input rest : List Char) : Prop :=
  ∃ commented, (commented = true → rest = []) ∧
    ∀ flags behind rest', flags.extended = extended → Encloses commented behind →
      reading flags (input ++ behind) rest' → rest' = rest ++ resume commented behind

namespace Continues

variable {extended : Bool} {reading first second : Reading} {input middle rest : List Char}

/-- Reading that ends at a mark of its own is not concerned with comments. -/
theorem of_append
    (append : ∀ flags behind rest', flags.extended = extended → behind.head? = some ')' →
      reading flags (input ++ behind) rest' → rest' = rest ++ behind) :
    Continues extended reading input rest :=
  ⟨false, by simp, fun flags behind rest' same encloses reads =>
    append flags behind rest' same encloses.paren reads⟩

/-- Reading that leaves something has not come to a comment at the end. -/
theorem eq_append (continues : Continues extended reading input rest) (present : rest ≠ [])
    {flags : Flags} (same : flags.extended = extended) {behind rest' : List Char}
    (paren : behind.head? = some ')') (reads : reading flags (input ++ behind) rest') :
    rest' = rest ++ behind := by
  obtain ⟨commented, ended, goes⟩ := continues
  cases commented with
  | true => exact absurd (ended rfl) present
  | false => exact goes flags behind rest' same (.of_paren paren) reads

/-- One reading after the other, where the second reads nothing if the first has come
to the end. -/
theorem trans (before : Continues extended first input middle)
    (after : Continues extended second middle rest)
    (atEnd : middle = [] → rest = [] ∧ ∀ flags text rest', flags.extended = extended →
      text.head? ≠ some '?' → second flags text rest' → rest' = text) :
    Continues extended (fun flags text rest' =>
      ∃ middle', first flags text middle' ∧ second flags middle' rest') input rest := by
  by_cases vacant : middle = []
  · obtain ⟨commented, ended, goes⟩ := before
    obtain ⟨rfl, stays⟩ := atEnd vacant
    refine ⟨commented, fun _ => rfl, ?_⟩
    rintro flags behind rest' same encloses ⟨middle', reads, reads'⟩
    have left := goes flags behind middle' same encloses reads
    rw [vacant, List.nil_append] at left
    rw [left] at reads'
    exact stays flags _ rest' same encloses.single reads'
  · obtain ⟨commented, ended, goes⟩ := after
    refine ⟨commented, ended, ?_⟩
    rintro flags behind rest' same encloses ⟨middle', reads, reads'⟩
    rw [before.eq_append vacant same encloses.paren reads] at reads'
    exact goes flags behind rest' same encloses reads'

theorem mono {shorter : List Char} (continues : Continues extended first shorter rest)
    (narrower : ∀ flags behind rest', flags.extended = extended → behind.head? = some ')' →
      second flags (input ++ behind) rest' → first flags (shorter ++ behind) rest') :
    Continues extended second input rest := by
  obtain ⟨commented, ended, goes⟩ := continues
  refine ⟨commented, ended, ?_⟩
  intro flags behind rest' same encloses reads
  exact goes flags behind rest' same encloses
    (narrower flags behind rest' same encloses.paren reads)

end Continues

section Leaves

variable {α β : Type} {input rest : List Char}

/-- Reading succeeds and stops in front of the rest. -/
def Leaves (parsed : Parsed α input) (rest : List Char) : Prop :=
  ∃ scan, parsed = .ok scan ∧ scan.rest = rest

@[simp] theorem leaves_error {problem : PatternError} :
    ¬Leaves (.error problem : Parsed α input) rest := by
  simp [Leaves]

@[simp] theorem leaves_ok {scan : Scan α input} : Leaves (.ok scan) rest ↔ scan.rest = rest := by
  simp [Leaves]

@[simp] theorem leaves_map {result : Except PatternError β} {f : β → Scan α input} :
    Leaves (result.map f) rest ↔ ∃ value, result = .ok value ∧ (f value).rest = rest := by
  cases result <;> simp [Except.map]

@[simp] theorem exists_ok_rest {parsed : Parsed α input} :
    (∃ scan, parsed = .ok scan ∧ scan.rest = rest) ↔ Leaves parsed rest := Iff.rfl

theorem Leaves.length_le {parsed : Parsed α input} (leaves : Leaves parsed rest) :
    rest.length ≤ input.length := by
  obtain ⟨scan, -, rfl⟩ := leaves
  exact scan.bounded

end Leaves

section Ignored

theorem skipIgnoredFrom_append (inComment : Bool) (input : List Char) :
    ∃ commented, (commented = true → (skipIgnoredFrom inComment input).rest = []) ∧
      ∀ behind, behind.head? = some ')' → (skipIgnoredFrom inComment (input ++ behind)).rest =
        (skipIgnoredFrom inComment input).rest ++ resume commented behind := by
  induction input generalizing inComment with
  | nil =>
      refine ⟨inComment, fun _ => rfl, ?_⟩
      intro behind paren
      obtain ⟨behind, rfl⟩ := List.head?_eq_some_iff.mp paren
      cases inComment <;> rfl
  | cons c input induction =>
      have visible : ∃ commented, (commented = true → c :: input = []) ∧
          ∀ behind, behind.head? = some ')' →
            c :: (input ++ behind) = c :: input ++ resume commented behind :=
        ⟨false, by simp, fun _ _ => rfl⟩
      simp only [List.cons_append, skipIgnoredFrom]
      split
      · exact induction _
      · split
        · exact induction false
        · split
          · exact induction true
          · exact visible

/-- Skipping what is ignored. -/
def skipping : Reading := fun flags text rest => (skipIgnored flags text).rest = rest

theorem skipping_continues (flags : Flags) (input : List Char) :
    Continues flags.extended skipping input (skipIgnored flags input).rest := by
  cases extended : flags.extended with
  | true =>
      obtain ⟨commented, ended, goes⟩ := skipIgnoredFrom_append false input
      refine ⟨commented, by simpa [skipIgnored, extended] using ended, ?_⟩
      intro flags' behind rest' same encloses skips
      simpa [skipping, skipIgnored, extended, same, eq_comm, goes behind encloses.paren] using skips
  | false =>
      apply Continues.of_append
      intro flags' behind rest' same _ skips
      simpa [skipping, skipIgnored, extended, same, Scan.stay, eq_comm] using skips

end Ignored

end Regex

end ColumnFilter
