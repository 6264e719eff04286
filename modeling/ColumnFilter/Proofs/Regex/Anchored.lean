import ColumnFilter.Proofs.Regex.Capture
import ColumnFilter.Proofs.Regex.Searching

/-!
# Patterns for whole texts

A pattern that begins with the start of a text, behind its flags, and ends with the end of
the text, with no choice between the two, matches a whole text or nothing.
-/

namespace ColumnFilter.Regex

/-- Letters are matched whatever their case. -/
def Flags.insensitive : Flags := { Flags.initial with ignoreCase := true }

/-- What is read so far begins with a flag and the start of the text. -/
structure Anchored (progress : Progress) : Prop where
  flags : progress.flags = .insensitive
  groups : progress.groups = []
  branches : progress.level.branches = []
  starts : ∃ items,
    progress.level.items = items ++ [.plain (.anchor .textStart), ⟨.empty, 0, false⟩]

variable {before after : Progress}

theorem Anchored.flat (anchored : Anchored before) : Flat before := by
  refine ⟨?_, anchored.groups, anchored.branches⟩
  rw [anchored.flags]
  rfl

theorem Extends.anchored (grows : Extends before after) (anchored : Anchored before) :
    Anchored after := by
  obtain ⟨items, level⟩ := grows.level
  obtain ⟨items', starts⟩ := anchored.starts
  refine ⟨grows.flags.trans anchored.flags, grows.groups.trans anchored.groups, ?_,
    items ++ items', ?_⟩
  · rw [level]
    exact anchored.branches
  · rw [level, starts, List.append_assoc]

theorem regex_itemSequence (items : List Item) :
    (Item.sequence items).regex = sequence (items.map Item.regex) := by
  match items with
  | [] => rfl
  | [only] => rfl
  | first :: second :: rest => rfl

theorem regex_close {level : Level} (single : level.branches = []) :
    level.close.regex = sequence (level.items.reverse.map Item.regex) := by
  rw [Level.close, single]
  exact regex_itemSequence level.items.reverse

/-- Between the start and the end of a text, a pattern captures a whole text. -/
theorem captures_anchored {regexes : List Regex} {before matched after : List Char}
    {marks marks' : Marks} :
    (sequence (.empty :: .anchor .textStart :: (regexes ++ [.anchor .textEnd]))).Captures
        before matched after marks marks' ↔
      before = [] ∧ after = [] ∧ (sequence regexes).Captures [] matched [] marks marks' := by
  constructor
  · intro captures
    obtain ⟨_, _, middle, rfl, flag, behind⟩ := captures_sequence_cons.mp captures
    cases flag
    obtain ⟨_, _, middle, rfl, starts, later⟩ := captures_sequence_cons.mp behind
    obtain ⟨rfl, rfl, atStart⟩ := captures_anchor.mp starts
    obtain ⟨one, _, middle', rfl, inside, ends⟩ := captures_sequence_append.mp later
    obtain ⟨rfl, rfl, atEnd⟩ := captures_anchor.mp ends
    obtain rfl : before = [] := by simpa [Anchor.holds] using atStart
    obtain rfl : after = [] := by simpa [Anchor.holds] using atEnd
    exact ⟨rfl, rfl, by simpa using inside⟩
  · rintro ⟨rfl, rfl, inside⟩
    have starts : (anchor .textStart).Captures [] [] (matched ++ []) marks marks :=
      captures_anchor.mpr ⟨rfl, rfl, rfl⟩
    have ends : (sequence [.anchor .textEnd]).Captures ([] ++ [] ++ matched) [] [] marks' marks' :=
      captures_anchor.mpr ⟨rfl, rfl, rfl⟩
    apply captures_sequence_cons.mpr
    refine ⟨[], matched, marks, rfl, .empty, captures_sequence_cons.mpr ?_⟩
    refine ⟨[], matched, marks, rfl, starts, captures_sequence_append.mpr ?_⟩
    exact ⟨matched, [], marks', by simp, by simpa using inside, ends⟩

/-- All that the pattern matches are whole texts. -/
def Spans (regex : Regex) : Prop :=
  ∀ before matched after marks marks', regex.Captures before matched after marks marks' →
    before = [] ∧ after = []

theorem spans_sequence (regexes : List Regex) :
    (sequence (.empty :: .anchor .textStart :: (regexes ++ [.anchor .textEnd]))).Spans := by
  intro before matched after marks marks' captures
  obtain ⟨front, back, -⟩ := captures_anchored.mp captures
  exact ⟨front, back⟩

theorem Anchored.spans (anchored : Anchored before) :
    (before.push (.plain (.anchor .textEnd))).level.close.regex.Spans := by
  obtain ⟨items, starts⟩ := anchored.starts
  have shape : (before.push (.plain (.anchor .textEnd))).level.items.reverse.map Item.regex =
      .empty :: .anchor .textStart :: (items.reverse.map Item.regex ++ [.anchor .textEnd]) := by
    simp [Progress.push, starts, Item.plain]
  have single : (before.push (.plain (.anchor .textEnd))).level.branches = [] := anchored.branches
  rw [regex_close single, shape]
  exact spans_sequence _

/-- What is found by a pattern for whole texts is the whole text. -/
theorem Spans.captures_of_search? {regex : Regex} (spans : regex.Spans) {text : List Char}
    {marks : Marks} (matched : regex.search? text = some marks) :
    regex.Captures [] text [] [] marks := by
  obtain ⟨before, found, after, rfl, captures⟩ := Regex.captures_of_search? matched
  obtain ⟨rfl, rfl⟩ := spans _ _ _ _ _ captures
  simpa using captures

end ColumnFilter.Regex
