import ColumnFilter.Proofs.Segment.Reading
import ColumnFilter.Segment

/-!
# Escaping segments

Any segments can be written as an expression: the escape is put in front of every
mark that occurs in a text.  The first pass takes away the escapes of the looser
delimiter and keeps all others, so that between the passes a segment is spelled
with fewer escapes; the second pass takes away the rest.
-/

namespace ColumnFilter

open Segment (Reads reads_plain reads_escaped_keep reads_escaped_resolve splitOn_intercalate)
open Text (sameLetter sameLetter_self sameLetter_comm sameLetter_congr sameLetter_iff Tight)

/-- Marks of one visible character each, no two of which agree in any case.  Inverted
segments are marked in front only. -/
structure LetterMarks where
  alternative : Char
  conjunction : Char
  escape : Char
  inversion : Char
  visible : ∀ mark ∈ [alternative, conjunction, escape, inversion], Text.isSpace mark = false
  distinct : [alternative, conjunction, escape, inversion].Pairwise fun first second =>
    sameLetter first second = false

namespace LetterMarks

/-- The usual marks. -/
def standard : LetterMarks where
  alternative := '|'
  conjunction := '&'
  escape := '\\'
  inversion := '!'
  visible := by
    intro mark member
    have visible : ['|', '&', '\\', '!'].all (fun mark => !Text.isSpace mark) = true := by decide
    simpa using List.all_eq_true.mp visible mark member
  distinct := by decide

def punctuation (marks : LetterMarks) : Punctuation :=
  ⟨.singleton marks.alternative, .singleton marks.conjunction, .singleton marks.escape,
    ⟨.singleton marks.inversion, ""⟩⟩

/-- A character with the escape in front of it if it agrees with one of the guarded
marks. -/
def spellChar (marks : LetterMarks) (guarded : List Char) (c : Char) : List Char :=
  if guarded.any (sameLetter c) then [marks.escape, c] else [c]

/-- The text of a segment spelled with escapes, behind the mark of an inverted one. -/
def spell (marks : LetterMarks) (guarded : List Char) (segment : Segment) : List Char :=
  (if segment.negated then [marks.inversion] else []) ++
    segment.text.toList.flatMap (marks.spellChar guarded)

/-- Segments that must hold together. -/
def writeGroup (marks : LetterMarks) (guarded : List Char) (group : List Segment) : List Char :=
  [marks.conjunction].intercalate (group.map (marks.spell guarded))

/-- Groups of segments as an expression. -/
def write (marks : LetterMarks) (groups : List (List Segment)) : String :=
  .ofList ([marks.alternative].intercalate (groups.map
    (marks.writeGroup [marks.alternative, marks.conjunction, marks.escape])))

/-- The text is trimmed, and that of a plain segment would not be taken for an
inverted one. -/
structure Writable (marks : LetterMarks) (segment : Segment) : Prop where
  trimmed : Text.trim segment.text.toList = segment.text.toList
  plain : segment.negated = false →
    ∃ c ∈ segment.text.toList.head?, sameLetter c marks.inversion = false

variable (marks : LetterMarks)

theorem alternative_conjunction : sameLetter marks.alternative marks.conjunction = false :=
  List.rel_of_pairwise_cons marks.distinct (by simp)

theorem alternative_escape : sameLetter marks.alternative marks.escape = false :=
  List.rel_of_pairwise_cons marks.distinct (by simp)

theorem conjunction_escape : sameLetter marks.conjunction marks.escape = false :=
  List.rel_of_pairwise_cons marks.distinct.of_cons (by simp)

theorem inversion_distinct : ∀ mark ∈ [marks.alternative, marks.conjunction, marks.escape],
    sameLetter marks.inversion mark = false := by
  have parts : [marks.alternative, marks.conjunction, marks.escape, marks.inversion] =
      [marks.alternative, marks.conjunction, marks.escape] ++ [marks.inversion] := rfl
  have distinct := marks.distinct
  rw [parts, List.pairwise_append] at distinct
  intro mark listed
  rw [sameLetter_comm]
  exact distinct.2.2 mark listed marks.inversion (List.mem_singleton_self _)

/-- The first pass takes the escapes of alternatives away. -/
theorem reads_spellChar_keep (c : Char) :
    Reads .keep ⟨[marks.alternative], [marks.escape]⟩
      (marks.spellChar [marks.alternative, marks.conjunction, marks.escape] c)
      (marks.spellChar [marks.conjunction, marks.escape] c) := by
  have escaped := reads_escaped_keep marks.alternative_escape (sameLetter_self marks.escape) c
  cases alternative : sameLetter c marks.alternative with
  | true =>
      have conjunction : sameLetter c marks.conjunction = false := by
        rw [sameLetter_congr alternative, marks.alternative_conjunction]
      have escape : sameLetter c marks.escape = false := by
        rw [sameLetter_congr alternative, marks.alternative_escape]
      rw [alternative] at escaped
      simp only [spellChar, List.any_cons, List.any_nil, alternative, conjunction, escape]
      exact escaped
  | false =>
      rw [alternative] at escaped
      simp only [spellChar, List.any_cons (a := marks.alternative), alternative, Bool.false_or]
      by_cases unguarded : [marks.conjunction, marks.escape].any (sameLetter c)
      · rw [if_pos unguarded]
        exact escaped
      · rw [if_neg unguarded]
        simp only [List.any_cons, List.any_nil, Bool.or_false, Bool.or_eq_true, not_or,
          Bool.not_eq_true] at unguarded
        exact reads_plain alternative unguarded.2

/-- The second pass takes all other escapes away. -/
theorem reads_spellChar_resolve (c : Char) :
    Reads .resolve ⟨[marks.conjunction], [marks.escape]⟩
      (marks.spellChar [marks.conjunction, marks.escape] c) (marks.spellChar [] c) := by
  rw [spellChar, spellChar, List.any_nil, if_neg Bool.false_ne_true]
  by_cases unguarded : [marks.conjunction, marks.escape].any (sameLetter c)
  · rw [if_pos unguarded]
    exact reads_escaped_resolve (sameLetter_self marks.escape) c
  · rw [if_neg unguarded]
    simp only [List.any_cons, List.any_nil, Bool.or_false, Bool.or_eq_true, not_or,
      Bool.not_eq_true] at unguarded
    exact reads_plain unguarded.1 unguarded.2

/-- A pass reads a segment as it reads its characters; the mark of an inverted one is
plain text to it. -/
theorem reads_spell {mode : Segment.EscapeMode} {delimiter : Char}
    (delimits : delimiter ∈ [marks.alternative, marks.conjunction, marks.escape])
    {guarded guarded' : List Char}
    (reads : ∀ c, Reads mode ⟨[delimiter], [marks.escape]⟩
      (marks.spellChar guarded c) (marks.spellChar guarded' c)) (segment : Segment) :
    Reads mode ⟨[delimiter], [marks.escape]⟩
      (marks.spell guarded segment) (marks.spell guarded' segment) := by
  apply Reads.append
  · split
    · exact reads_plain (marks.inversion_distinct delimiter delimits)
        (marks.inversion_distinct marks.escape (by simp))
    · exact .nil
  · exact .flatMap fun c _ => reads c

theorem tight_flatMap_spellChar {text : List Char} (tight : Tight text)
    (guarded : List Char) :
    Tight (text.flatMap (marks.spellChar guarded)) := by
  obtain ⟨first, atFront, visible⟩ := tight.first
  obtain ⟨last, atBack, visible'⟩ := tight.last
  have escapeVisible := marks.visible marks.escape (by simp)
  constructor
  · obtain ⟨rest, rfl⟩ : ∃ rest, text = first :: rest := List.head?_eq_some_iff.mp atFront
    rw [List.flatMap_cons, spellChar]
    split
    · exact ⟨marks.escape, rfl, escapeVisible⟩
    · exact ⟨first, rfl, visible⟩
  · obtain ⟨rest, rfl⟩ : ∃ rest, text = rest ++ [last] := List.getLast?_eq_some_iff.mp atBack
    refine ⟨last, ?_, visible'⟩
    rw [List.flatMap_append, List.getLast?_append, List.flatMap_singleton, spellChar]
    split <;> rfl

theorem tight_spell {segment : Segment} (writable : marks.Writable segment)
    (guarded : List Char) : Tight (marks.spell guarded segment) := by
  have inversionTight : Tight [marks.inversion] := .singleton (marks.visible _ (by simp))
  unfold spell
  by_cases present : segment.text.toList = []
  · cases negated : segment.negated with
    | true => simpa [present] using inversionTight
    | false =>
        obtain ⟨c, first, -⟩ := writable.plain negated
        simp [present] at first
  · have body := marks.tight_flatMap_spellChar (Tight.of_trim writable.trimmed present) guarded
    split
    · simpa using inversionTight.surround body []
    · exact body

/-- Without escapes a segment is spelled as it is marked. -/
theorem ofMarked_spell {segment : Segment} (writable : marks.Writable segment) :
    Segment.ofMarked marks.punctuation.inversion (.ofList (marks.spell [] segment)) =
      segment := by
  obtain ⟨text, negated⟩ := segment
  have bare : ∀ letters : List Char, letters.flatMap (marks.spellChar []) = letters := by
    intro letters
    rw [show marks.spellChar [] = fun c => [c] from rfl, List.flatMap_singleton']
  have inner : ∀ (c : Char) (rest : List Char),
      marks.punctuation.inversion.inner? (c :: rest) =
        if sameLetter c marks.inversion then some rest else none := by
    intro c rest
    cases same : sameLetter c marks.inversion <;>
      simp [Segment.Markers.inner?, punctuation, Text.lower, ← sameLetter_iff, same]
  have marked : (marks.punctuation.inversion.opening.isEmpty &&
      marks.punctuation.inversion.closing.isEmpty) = false := by
    simp [punctuation]
  rw [Segment.ofMarked, marked, spell, bare]
  cases negated with
  | true =>
      have trimmed := writable.trimmed
      simp only at trimmed
      simp [inner, Text.sameLetter_self, trimmed]
  | false =>
      obtain ⟨c, first, different⟩ := writable.plain rfl
      obtain ⟨rest, shape⟩ : ∃ rest, text.toList = c :: rest := List.head?_eq_some_iff.mp first
      have whole : String.ofList (c :: rest) = text := by rw [← shape, String.ofList_toList]
      simp [shape, inner, different, -String.ofList_cons, whole]

theorem reads_writeGroup (group : List Segment) :
    Reads .keep ⟨[marks.alternative], [marks.escape]⟩
      (marks.writeGroup [marks.alternative, marks.conjunction, marks.escape] group)
      (marks.writeGroup [marks.conjunction, marks.escape] group) := by
  apply Reads.intercalate
  · apply reads_plain
    · rw [sameLetter_comm, marks.alternative_conjunction]
    · exact marks.conjunction_escape
  · intro segment _
    exact marks.reads_spell (by simp) marks.reads_spellChar_keep segment

theorem tight_writeGroup {group : List Segment} (present : group ≠ [])
    (writable : ∀ segment ∈ group, marks.Writable segment) (guarded : List Char) :
    Tight (marks.writeGroup guarded group) := by
  apply Tight.intercalate (by simpa using present)
  intro part member
  obtain ⟨segment, inside, rfl⟩ := List.mem_map.mp member
  exact marks.tight_spell (writable segment inside) guarded

/-- Whatever stands in the texts, the segments of a written expression are those that
were written. -/
theorem segments_write (groups : List (List Segment)) (present : ∀ group ∈ groups, group ≠ [])
    (writable : ∀ group ∈ groups, ∀ segment ∈ group, marks.Writable segment) :
    marks.punctuation.segments (marks.write groups) = groups := by
  have tight : ∀ guarded, ∀ group ∈ groups, Tight (marks.writeGroup guarded group) := by
    intro guarded group listed
    exact marks.tight_writeGroup (present group listed) (writable group listed) guarded
  have trimmed : Text.trim (marks.write groups).toList = (marks.write groups).toList := by
    by_cases vacant : groups = []
    · rw [vacant]
      rfl
    · rw [write, String.toList_ofList]
      apply Tight.trim_eq
      apply Tight.intercalate (by simpa using vacant)
      intro part member
      obtain ⟨group, listed, rfl⟩ := List.mem_map.mp member
      exact tight _ group listed
  have alternatives : Segment.splitOn .keep ⟨[marks.alternative], [marks.escape]⟩
      (Text.trim (marks.write groups).toList) =
        groups.map (marks.writeGroup [marks.conjunction, marks.escape]) := by
    rw [trimmed, write, String.toList_ofList]
    apply splitOn_intercalate marks.alternative_escape
    · intro group _
      exact marks.reads_writeGroup group
    · exact tight _
  have conjunctions : ∀ group ∈ groups,
      Segment.splitOn .resolve ⟨[marks.conjunction], [marks.escape]⟩
        (marks.writeGroup [marks.conjunction, marks.escape] group) =
          group.map (marks.spell []) := by
    intro group listed
    apply splitOn_intercalate marks.conjunction_escape
    · intro segment _
      exact marks.reads_spell (by simp) marks.reads_spellChar_resolve segment
    · intro segment inside
      exact marks.tight_spell (writable group listed segment inside) []
  have filled : (groups.map fun group => group.map (marks.spell [])).filter
      (fun group => !group.isEmpty) = groups.map fun group => group.map (marks.spell []) := by
    rw [List.filter_eq_self]
    intro parts member
    obtain ⟨group, listed, rfl⟩ := List.mem_map.mp member
    simpa using present group listed
  have split : marks.punctuation.split (marks.write groups) =
      groups.map fun group => group.map fun segment => .ofList (marks.spell [] segment) := by
    simp only [Punctuation.split, punctuation, String.toList_singleton, alternatives,
      List.map_map, Function.comp_def]
    rw [List.map_congr_left conjunctions, filled, List.map_map]
    simp
  rw [Punctuation.segments, split, List.map_map]
  refine (List.map_congr_left fun group listed => ?_).trans (List.map_id groups)
  rw [Function.comp_apply, List.map_map]
  refine (List.map_congr_left fun segment inside => ?_).trans (List.map_id group)
  exact marks.ofMarked_spell (writable group listed segment inside)

theorem segments_write_standard :
    standard.write [[⟨"a|b & c", false⟩, ⟨"!\\", true⟩], [⟨"", true⟩]] =
        "a\\|b \\& c&!!\\\\|!" ∧
      Punctuation.standard.segments "a\\|b \\& c&!!\\\\|!" =
        [[⟨"a|b & c", false⟩, ⟨"!\\", true⟩], [⟨"", true⟩]] := by
  have written : standard.write [[⟨"a|b & c", false⟩, ⟨"!\\", true⟩], [⟨"", true⟩]] =
      "a\\|b \\& c&!!\\\\|!" := by decide +kernel
  have plain : standard.Writable ⟨"a|b & c", false⟩ :=
    ⟨by decide +kernel, fun _ => ⟨'a', by decide +kernel, by decide +kernel⟩⟩
  have inverted : standard.Writable ⟨"!\\", true⟩ := ⟨by decide +kernel, by simp⟩
  have vacant : standard.Writable ⟨"", true⟩ := ⟨by decide +kernel, by simp⟩
  refine ⟨written, ?_⟩
  rw [← written]
  exact segments_write standard _ (by simp) (by simp [plain, inverted, vacant])

end LetterMarks

end ColumnFilter
