import Mathlib.Data.List.DropRight
import ColumnFilter.Proofs.Segment.Trimming
import ColumnFilter.Proofs.Text.Cutting
import ColumnFilter.Strategy.Words

/-!
# Words between delimiters

A break takes all white space around its delimiter, and it begins as early as it can.  So
no word has white space at its ends, and no delimiter in it.  White space may be taken for
a part of a delimiter, or hide one; where the delimiter is a space, or has no white space
at its own ends, the words are all the same what is left when the text is cut at the
delimiter and trimmed.
-/

namespace ColumnFilter

open Text (Occurs Spelled Tight cutAt cuts_cutAt takeMark?_eq_some_iff)
open Segment (trimAll)

namespace Words

variable {delimiter text rest : List Char}

/-! ### Breaks -/

theorem takeBreak?_of_takeMark? {c : Char} {written : List Char}
    (marked : Text.takeMark? sameFolded delimiter (c :: text) = some (written, rest)) :
    takeBreak? delimiter (c :: text) ≠ none := by
  rw [takeBreak?, marked]
  split
  · cases takeBreak? delimiter text <;> simp
  · simp

/-- A break may begin with more white space. -/
theorem takeBreak?_cons_of_isSpace {c : Char} (space : Text.isSpace c = true)
    (broken : takeBreak? delimiter text = some rest) :
    takeBreak? delimiter (c :: text) = some rest := by
  rw [takeBreak?, if_pos space, broken]
  rfl

/-- A break is a delimiter with white space around it, as much as there is behind. -/
theorem exists_of_takeBreak? (broken : takeBreak? delimiter text = some rest) :
    ∃ white written behind, text = white ++ written ++ behind ∧
      (∀ c ∈ white, Text.isSpace c = true) ∧
      Text.takeMark? sameFolded delimiter (written ++ behind) = some (written, behind) ∧
      rest = Text.trimStart behind := by
  induction text with
  | nil => contradiction
  | cons c text induction =>
      have atFront : ∀ {rest : List Char},
          ((Text.takeMark? sameFolded delimiter (c :: text)).map fun found =>
            Text.trimStart found.2) = some rest →
          ∃ white written behind, c :: text = white ++ written ++ behind ∧
            (∀ c ∈ white, Text.isSpace c = true) ∧
            Text.takeMark? sameFolded delimiter (written ++ behind) = some (written, behind) ∧
            rest = Text.trimStart behind := by
        intro rest found
        obtain ⟨⟨written, behind⟩, marked, rfl⟩ := Option.map_eq_some_iff.mp found
        have shape := (takeMark?_eq_some_iff.mp marked).2.1
        exact ⟨[], written, behind, shape, by simp, shape ▸ marked, rfl⟩
      rw [takeBreak?] at broken
      by_cases space : Text.isSpace c
      · rw [if_pos space] at broken
        rcases Option.or_eq_some_iff.mp broken with later | ⟨-, here⟩
        · obtain ⟨white, written, behind, rfl, blank, marked, trimmed⟩ := induction later
          exact ⟨c :: white, written, behind, rfl,
            List.forall_mem_cons.mpr ⟨space, blank⟩, marked, trimmed⟩
        · exact atFront here
      · rw [if_neg space] at broken
        exact atFront broken

/-- All stretches of a text between breaks. -/
def parts (delimiter text : List Char) : List (List Char) :=
  (stretches delimiter text).1 :: (stretches delimiter text).2

theorem parts_of_takeBreak? {c : Char} (broken : takeBreak? delimiter (c :: text) = some rest) :
    parts delimiter (c :: text) = [] :: parts delimiter rest := by
  rw [parts, stretches]
  split <;> simp_all [parts]

theorem parts_of_eq_none {c : Char} (missing : takeBreak? delimiter (c :: text) = none) :
    parts delimiter (c :: text) = (parts delimiter text).modifyHead (c :: ·) := by
  rw [parts, stretches]
  split <;> simp_all [parts]

/-- Either there is no break in a text, or there is a first one.  The delimiter is not in
front of it, and neither is white space. -/
theorem parts_cases (delimiter text : List Char) :
    (parts delimiter text = [text] ∧ cutAt sameFolded delimiter text = [text]) ∨
      ∃ before tail rest, text = before ++ tail ∧ takeBreak? delimiter tail = some rest ∧
        parts delimiter text = before :: parts delimiter rest ∧
        (∀ c ∈ before.getLast?, Text.isSpace c = false) ∧
        cutAt sameFolded delimiter text =
          (cutAt sameFolded delimiter tail).modifyHead (before ++ ·) := by
  induction text with
  | nil => exact .inl ⟨by simp [parts, stretches], by simp [cutAt]⟩
  | cons c text induction =>
      cases broken : takeBreak? delimiter (c :: text) with
      | some rest =>
          refine .inr ⟨[], c :: text, rest, rfl, broken, parts_of_takeBreak? broken, by simp, ?_⟩
          exact (congrFun List.modifyHead_id _).symm
      | none =>
          have unmarked : Text.takeMark? sameFolded delimiter (c :: text) = none := by
            by_contra marked
            obtain ⟨⟨written, rest⟩, marked⟩ := Option.ne_none_iff_exists'.mp marked
            exact takeBreak?_of_takeMark? marked broken
          have uncut := Text.cutAt_of_eq_none unmarked
          have unbroken := parts_of_eq_none broken
          rcases induction with
            ⟨whole, whole'⟩ | ⟨before, tail, rest, rfl, later, first, ending, cut⟩
          · left
            rw [unbroken, whole, uncut, whole']
            exact ⟨rfl, rfl⟩
          · right
            refine ⟨c :: before, tail, rest, rfl, later, ?_, ?_, ?_⟩
            · rw [unbroken, first, List.modifyHead_cons]
            · cases before with
              | nil =>
                  intro last here
                  obtain rfl : c = last := by simpa using here
                  by_contra space
                  rw [Bool.not_eq_false] at space
                  rw [List.nil_append, takeBreak?_cons_of_isSpace space later] at broken
                  contradiction
              | cons next before =>
                  rw [List.getLast?_cons_cons]
                  exact ending
            · rw [uncut, cut, List.modifyHead_modifyHead]
              rfl

theorem suffix_of_takeBreak? (broken : takeBreak? delimiter text = some rest) : rest <:+ text := by
  obtain ⟨white, written, behind, rfl, -, -, rfl⟩ := exists_of_takeBreak? broken
  exact (List.dropWhile_suffix Text.isSpace).trans (List.suffix_append (white ++ written) behind)

theorem head_of_takeBreak? (broken : takeBreak? delimiter text = some rest) :
    ∀ c ∈ rest.head?, Text.isSpace c = false := by
  obtain ⟨-, -, behind, -, -, -, rfl⟩ := exists_of_takeBreak? broken
  exact Text.head_of_trimStart (List.dropWhile_idempotent _ behind)

/-- In a text without white space at its ends no stretch has any there, and none has a
delimiter in it. -/
theorem tight_and_free_of_mem_parts {text part : List Char}
    (first : ∀ c ∈ text.head?, Text.isSpace c = false)
    (last : ∀ c ∈ text.getLast?, Text.isSpace c = false) (member : part ∈ parts delimiter text) :
    (part ≠ [] → Tight part) ∧ ¬ Occurs sameFolded delimiter part := by
  have free : ∀ stretch ∈ cutAt sameFolded delimiter text,
      ¬ Occurs sameFolded delimiter stretch :=
    fun stretch listed => ((cuts_cutAt text).infix_and_free listed).2
  rcases parts_cases delimiter text with
    ⟨whole, whole'⟩ | ⟨before, tail, rest, shape, broken, split, ending, cut⟩
  · rw [whole, List.mem_singleton] at member
    subst member
    exact ⟨fun present => .of_ends present first last, free part (by simp [whole'])⟩
  · have shorter : rest.length < text.length := by
      have within := takeBreak?_length broken
      rw [shape, List.length_append]
      omega
    rw [split] at member
    rcases List.mem_cons.mp member with rfl | later
    · constructor
      · intro present
        refine .of_ends present (fun c here => first c ?_) ending
        rw [shape, List.head?_append, Option.mem_def.mp here]
        rfl
      · obtain ⟨head, others, pieces⟩ : ∃ head others,
            cutAt sameFolded delimiter tail = head :: others := Text.exists_cutAt_eq_cons tail
        rw [cut, pieces, List.modifyHead_cons] at free
        exact fun occurs => free _ List.mem_cons_self
          (occurs.of_infix (List.prefix_append part head).isInfix)
    · refine tight_and_free_of_mem_parts (head_of_takeBreak? broken) (fun c here => last c ?_) later
      obtain ⟨front, rfl⟩ := suffix_of_takeBreak? broken
      rw [shape, List.getLast?_append, List.getLast?_append, Option.mem_def.mp here]
      rfl
termination_by text.length

/-! ### White space and cuts -/

/-- The delimiter is a space, or it begins and ends with characters that are no white space. -/
def Plain (delimiter : List Char) : Prop := delimiter = [' '] ∨ Tight delimiter

/-- Of white space such a delimiter takes no more than one character. -/
theorem Plain.takeMark?_of_isSpace (plain : Plain delimiter) {c : Char} {written : List Char}
    (space : Text.isSpace c = true)
    (marked : Text.takeMark? sameFolded delimiter (c :: text) = some (written, rest)) :
    rest = text := by
  obtain ⟨present, shape, spelled⟩ := takeMark?_eq_some_iff.mp marked
  rcases plain with rfl | tight
  · cases spelled with
    | cons agrees later =>
        cases later
        exact (List.cons.inj shape).2.symm
  · cases spelled with
    | nil => exact absurd rfl present
    | @cons first letter written letters agrees later =>
        obtain rfl : c = first := (List.cons.inj shape).1
        have visible := tight.of_mem_head? letter rfl
        have folded : Text.fold letter = Text.fold c := (beq_iff_eq.mp agrees).symm
        exact absurd ((Text.fold_eq_iff_of_isSpace space letter).mp folded)
          (Text.ne_of_isSpace space visible)

/-- White space in front of a text is cut into white space. -/
theorem Plain.trimAll_cutAt_blank_append (plain : Plain delimiter) {white : List Char}
    (blank : ∀ c ∈ white, Text.isSpace c = true) (text : List Char) :
    trimAll (cutAt sameFolded delimiter (white ++ text)) =
      trimAll (cutAt sameFolded delimiter text) := by
  induction white with
  | nil => rfl
  | cons c white induction =>
      obtain ⟨space, later⟩ := List.forall_mem_cons.mp blank
      rw [← induction later, List.cons_append]
      cases marked : Text.takeMark? sameFolded delimiter (c :: (white ++ text)) with
      | none => rw [Text.cutAt_of_eq_none marked, Segment.trimAll_modifyHead_cons space]
      | some found =>
          obtain ⟨written, rest⟩ := found
          rw [Text.cutAt_of_takeMark? marked, plain.takeMark?_of_isSpace space marked]
          rfl

/-- Where a delimiter stands behind white space, the text is cut within this white space or
right behind it. -/
theorem Plain.exists_cutAt_blank_append (plain : Plain delimiter) {white written behind : List Char}
    (blank : ∀ c ∈ white, Text.isSpace c = true)
    (marked : Text.takeMark? sameFolded delimiter (written ++ behind) = some (written, behind)) :
    ∃ head others,
      cutAt sameFolded delimiter (white ++ written ++ behind) = head :: others ∧
        (∀ c ∈ head, Text.isSpace c = true) ∧
        trimAll others = trimAll (cutAt sameFolded delimiter behind) := by
  induction white with
  | nil =>
      obtain ⟨c, later, rfl⟩ : ∃ c later, written = c :: later := by
        obtain ⟨present, -, spelled⟩ := takeMark?_eq_some_iff.mp marked
        apply List.ne_nil_iff_exists_cons.mp
        rintro rfl
        exact present (List.length_eq_zero_iff.mp spelled.length_eq.symm)
      exact ⟨[], _, Text.cutAt_of_takeMark? marked, by simp, rfl⟩
  | cons c white induction =>
      obtain ⟨space, later⟩ := List.forall_mem_cons.mp blank
      obtain ⟨head, others, cut, void, same⟩ := induction later
      rw [List.cons_append, List.cons_append]
      cases front : Text.takeMark? sameFolded delimiter (c :: (white ++ written ++ behind)) with
      | none =>
          refine ⟨c :: head, others, ?_, List.forall_mem_cons.mpr ⟨space, void⟩, same⟩
          rw [Text.cutAt_of_eq_none front, cut, List.modifyHead_cons]
      | some found =>
          obtain ⟨taken, rest⟩ := found
          refine ⟨[], head :: others, ?_, by simp, ?_⟩
          · rw [Text.cutAt_of_takeMark? front, plain.takeMark?_of_isSpace space front, cut]
          · rw [Segment.trimAll_cons, Segment.trimAll_singleton_of_blank void, List.nil_append,
              same]

/-- The delimiter does not begin in a text and end in the white space behind it. -/
theorem Plain.takeMark?_append_blank (plain : Plain delimiter) {white : List Char}
    (blank : ∀ c ∈ white, Text.isSpace c = true) (present : text ≠ [])
    (unmarked : Text.takeMark? sameFolded delimiter text = none) :
    Text.takeMark? sameFolded delimiter (text ++ white) = none := by
  by_contra marked
  obtain ⟨⟨written, rest⟩, marked⟩ := Option.ne_none_iff_exists'.mp marked
  obtain ⟨letters, shape, spelled⟩ := takeMark?_eq_some_iff.mp marked
  obtain ⟨ending, rfl, inside⟩ | ⟨more, rfl, -⟩ := List.append_eq_append_iff.mp shape
  · rcases List.eq_nil_or_concat ending with rfl | ⟨front, last, rfl⟩
    · rw [List.append_nil] at spelled
      rw [takeMark?_eq_some_iff.mpr ⟨letters, (List.append_nil text).symm, spelled⟩] at unmarked
      contradiction
    · have space : Text.isSpace last = true := blank last (by simp [inside])
      rcases plain with rfl | tight
      · have single := spelled.length_eq
        have positive := List.length_pos_iff.mpr present
        simp only [List.length_append, List.length_concat, List.length_singleton] at single
        omega
      · obtain ⟨letter, here, agrees⟩ := spelled.exists_getLast? (c := last) (by simp)
        have folded : Text.fold letter = Text.fold last := (beq_iff_eq.mp agrees).symm
        exact absurd ((Text.fold_eq_iff_of_isSpace space letter).mp folded)
          (Text.ne_of_isSpace space (tight.of_mem_getLast? letter here))
  · rw [takeMark?_eq_some_iff.mpr ⟨letters, rfl, spelled⟩] at unmarked
    contradiction

/-- A text without the delimiter is not cut when white space comes behind it. -/
theorem Plain.cutAt_append_blank (plain : Plain delimiter) {white : List Char}
    (blank : ∀ c ∈ white, Text.isSpace c = true) (free : ¬ Occurs sameFolded delimiter text) :
    cutAt sameFolded delimiter (text ++ white) =
      (cutAt sameFolded delimiter white).modifyHead (text ++ ·) := by
  induction text with
  | nil => exact (congrFun List.modifyHead_id _).symm
  | cons c text induction =>
      rw [Occurs.cons_iff, not_or, not_not] at free
      have unmarked := plain.takeMark?_append_blank blank (List.cons_ne_nil c text) free.1
      rw [List.cons_append] at unmarked ⊢
      rw [Text.cutAt_of_eq_none unmarked, induction free.2, List.modifyHead_modifyHead]
      rfl

/-- White space behind a text is cut into white space. -/
theorem Plain.trimAll_cutAt_append_blank (plain : Plain delimiter) {white : List Char}
    (blank : ∀ c ∈ white, Text.isSpace c = true) {text : List Char} {parts : List (List Char)}
    (cuts : Text.Cuts sameFolded delimiter text parts) :
    trimAll (cutAt sameFolded delimiter (text ++ white)) = trimAll parts := by
  induction cuts with
  | @whole text free =>
      have void : ∀ stretch ∈ cutAt sameFolded delimiter white,
          ∀ c ∈ stretch, Text.isSpace c = true := fun stretch listed c member =>
        blank c (((cuts_cutAt white).infix_and_free listed).1.subset member)
      obtain ⟨head, others, pieces⟩ : ∃ head others,
          cutAt sameFolded delimiter white = head :: others := Text.exists_cutAt_eq_cons white
      rw [pieces] at void
      obtain ⟨here, later⟩ := List.forall_mem_cons.mp void
      rw [plain.cutAt_append_blank blank free, pieces, List.modifyHead_cons, Segment.trimAll_cons,
        Segment.trimAll_singleton_append_right here, Segment.trimAll_of_blank later,
        List.append_nil]
  | @cut before written rest parts present spelled leftmost later induction =>
      rw [List.append_assoc (before ++ written), Text.cutAt_of_leftmost present spelled leftmost,
        Segment.trimAll_cons, induction, ← Segment.trimAll_cons]

theorem Plain.trimAll_cutAt_trim (plain : Plain delimiter) (text : List Char) :
    trimAll (cutAt sameFolded delimiter (Text.trim text)) =
      trimAll (cutAt sameFolded delimiter text) := by
  obtain ⟨before, after, shape, blank, blank'⟩ := Text.exists_eq_trim text
  calc
    trimAll (cutAt sameFolded delimiter (Text.trim text)) =
        trimAll (cutAt sameFolded delimiter (Text.trim text ++ after)) :=
      (plain.trimAll_cutAt_append_blank blank' (cuts_cutAt _)).symm
    _ = trimAll (cutAt sameFolded delimiter (before ++ (Text.trim text ++ after))) :=
      (plain.trimAll_cutAt_blank_append blank _).symm
    _ = trimAll (cutAt sameFolded delimiter text) := by
      rw [← List.append_assoc, ← shape]

/-- Up to white space the stretches between breaks are those between delimiters. -/
theorem Plain.trimAll_parts (plain : Plain delimiter) (text : List Char) :
    trimAll (parts delimiter text) = trimAll (cutAt sameFolded delimiter text) := by
  rcases parts_cases delimiter text with
    ⟨whole, whole'⟩ | ⟨before, tail, rest, shape, broken, split, -, cut⟩
  · rw [whole, whole']
  · have shorter : rest.length < text.length := by
      have within := takeBreak?_length broken
      rw [shape, List.length_append]
      omega
    obtain ⟨white, written, behind, rfl, blank, marked, trimmed⟩ := exists_of_takeBreak? broken
    obtain ⟨head, others, pieces, void, same⟩ := plain.exists_cutAt_blank_append blank marked
    have leading : behind = behind.takeWhile Text.isSpace ++ rest := by
      rw [trimmed]
      exact List.takeWhile_append_dropWhile.symm
    have tails : trimAll (cutAt sameFolded delimiter behind) =
        trimAll (cutAt sameFolded delimiter rest) := by
      rw [leading]
      exact plain.trimAll_cutAt_blank_append (fun c => List.mem_takeWhile_imp) rest
    calc
      trimAll (parts delimiter text) = trimAll [before] ++ trimAll (parts delimiter rest) := by
        rw [split, Segment.trimAll_cons]
      _ = trimAll [before ++ head] ++ trimAll others := by
        rw [plain.trimAll_parts rest, Segment.trimAll_singleton_append_right void, same, tails]
      _ = trimAll (cutAt sameFolded delimiter text) := by
        rw [cut, pieces, List.modifyHead_cons, ← Segment.trimAll_cons]
termination_by text.length

/-! ### The words -/

/-- The words are the stretches between breaks of the trimmed text, without the empty ones. -/
theorem wordsOf_eq_filter_parts (delimited : delimiter ≠ []) (text : List Char) :
    wordsOf delimiter text =
      (parts delimiter (Text.trim text)).filter fun word => !word.isEmpty := by
  rw [wordsOf, if_neg (by simpa using delimited)]
  rfl

theorem tight_and_free_of_mem_wordsOf (delimited : delimiter ≠ []) {text word : List Char}
    (member : word ∈ wordsOf delimiter text) :
    Tight word ∧ ¬ Occurs sameFolded delimiter word := by
  rw [wordsOf_eq_filter_parts delimited, List.mem_filter] at member
  obtain ⟨listed, present⟩ := member
  have settled := Text.trim_trim text
  obtain ⟨tight, free⟩ := tight_and_free_of_mem_parts (Text.head_of_trim settled)
    (Text.getLast_of_trim settled) listed
  exact ⟨tight (by simpa using present), free⟩

theorem Plain.wordsOf_eq_trimAll_cutAt (plain : Plain delimiter) (delimited : delimiter ≠ [])
    (text : List Char) :
    wordsOf delimiter text = trimAll (cutAt sameFolded delimiter text) := by
  have tight : ∀ word ∈ wordsOf delimiter text, Tight word :=
    fun word member => (tight_and_free_of_mem_wordsOf delimited member).1
  calc
    wordsOf delimiter text = trimAll (wordsOf delimiter text) :=
      (Segment.trimAll_of_tight tight).symm
    _ = trimAll (parts delimiter (Text.trim text)) := by
      rw [wordsOf_eq_filter_parts delimited, Segment.trimAll_filter]
    _ = trimAll (cutAt sameFolded delimiter text) := by
      rw [plain.trimAll_parts, plain.trimAll_cutAt_trim]

/-- Words have no white space at their ends and no delimiter in them, whatever the
delimiter is.  Where it is plain, they are what is left of the text between delimiters. -/
theorem words_between (options : Words) (delimited : options.delimiter ≠ "") (text : String) :
    (∀ word ∈ options.words text,
      Tight word.toList ∧ ¬ Occurs sameFolded options.delimiter.toList word.toList) ∧
    (Plain options.delimiter.toList →
      options.words text =
        (trimAll (cutAt sameFolded options.delimiter.toList text.toList)).map String.ofList) := by
  have delimited' : options.delimiter.toList ≠ [] := by simpa using delimited
  refine ⟨fun word member => ?_, fun plain => ?_⟩
  · obtain ⟨letters, listed, rfl⟩ := List.mem_map.mp member
    rw [String.toList_ofList]
    exact tight_and_free_of_mem_wordsOf delimited' listed
  · rw [words, plain.wordsOf_eq_trimAll_cutAt delimited']

/-- The white space between a delimiter and a word belongs to neither, and two delimiters
have no word between them. -/
theorem words_between_folded :
    let options : Words := ⟨"and", true⟩
    options.delimiter ≠ "" ∧ Plain options.delimiter.toList ∧
      options.words "Red AND  deep blue\tandAnd green and" = ["Red", "deep blue", "green"] ∧
      ¬ Occurs sameFolded "and".toList "deep blue".toList := by
  intro options
  have delimited : options.delimiter ≠ "" := by decide
  have plain : Plain options.delimiter.toList :=
    .inr ⟨⟨'a', by decide, by decide +kernel⟩, 'd', by decide, by decide +kernel⟩
  obtain ⟨free, cut⟩ := words_between options delimited "Red AND  deep blue\tandAnd green and"
  have found : options.words "Red AND  deep blue\tandAnd green and" =
      ["Red", "deep blue", "green"] := by
    rw [cut plain]
    decide +kernel
  exact ⟨delimited, plain, found, (free "deep blue" (by simp [found])).2⟩

end Words

end ColumnFilter
