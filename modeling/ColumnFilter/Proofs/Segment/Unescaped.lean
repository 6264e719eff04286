import ColumnFilter.Proofs.Segment.Scan
import ColumnFilter.Proofs.Text.Cutting

/-!
# Expressions without escapes

Where the escape does not stand in an expression, marks of any length do nothing but
cut: the trimmed expression into alternatives, and each of these, trimmed, into the
texts that must hold together.  No mark stands in what is left, wherever the cuts were
made, so that such a text is split no further when it is taken for an expression.
-/

namespace ColumnFilter

open Text (Occurs cutAt cuts_cutAt cutAt_of_not_occurs sameLetter Tight)

namespace Segment

variable {mode : EscapeMode} {marks : Marks}

theorem parts_of_cut {c : Char} {text rest : List Char}
    (cut : pieces mode marks (c :: text) = .cut :: pieces mode marks rest) :
    parts mode marks (c :: text) = [] :: parts mode marks rest := by
  rw [parts, cut]
  rfl

theorem parts_of_text {c : Char} {text written rest : List Char}
    (read : pieces mode marks (c :: text) = .text written :: pieces mode marks rest) :
    parts mode marks (c :: text) = (parts mode marks rest).modifyHead (written ++ ·) := by
  rw [parts, read]
  rfl

/-- Without escapes a pass cuts at its delimiter. -/
theorem parts_eq_cutAt {text : List Char} (unescaped : ¬ Occurs sameLetter marks.escape text) :
    parts mode marks text = cutAt sameLetter marks.delimiter text := by
  match text with
  | [] => simp [parts, pieces, stretches, cutAt]
  | c :: text =>
      have later : ¬ Occurs sameLetter marks.escape text := fun occurs =>
        unescaped (Occurs.cons_iff.mpr (.inr occurs))
      have bare : takeMark? marks.escape (c :: text) = none := by
        by_contra escaped
        exact unescaped (Occurs.cons_iff.mpr (.inl escaped))
      have read : takeEscape? mode marks (c :: text) = none := by
        rw [takeEscape?, bare]
      have piece := pieces_of_unescaped read
      cases delimited : takeMark? marks.delimiter (c :: text) with
      | none =>
          rw [delimited] at piece
          rw [parts_of_text piece, parts_eq_cutAt later, Text.cutAt_of_eq_none delimited]
          rfl
      | some found =>
          obtain ⟨written, rest⟩ := found
          rw [delimited] at piece
          have shape := (Text.takeMark?_eq_some_iff.mp delimited).2.1
          have shorter : rest.length < text.length + 1 := takeMark?_length delimited
          have behind : ¬ Occurs sameLetter marks.escape rest := fun occurs =>
            unescaped (occurs.of_infix (shape ▸ (List.suffix_append written rest).isInfix))
          rw [parts_of_cut piece, parts_eq_cutAt behind, Text.cutAt_of_takeMark? delimited]
termination_by text.length

theorem splitOn_eq_trimAll_cutAt {text : List Char}
    (unescaped : ¬ Occurs sameLetter marks.escape text) :
    splitOn mode marks text = trimAll (cutAt sameLetter marks.delimiter text) := by
  by_cases delimited : marks.delimiter = []
  · have free : ¬ Occurs sameLetter marks.delimiter text := fun occurs => occurs.1 delimited
    rw [splitOn, if_pos (by simpa using delimited), cutAt_of_not_occurs free]
  · rw [splitOn_eq_trimAll_parts delimited, parts_eq_cutAt unescaped]

/-- What is cut out of a text and trimmed is a part of it without the mark. -/
theorem infix_and_free_of_mem_trimAll_cutAt {mark text part : List Char}
    (member : part ∈ trimAll (cutAt sameLetter mark text)) :
    part <:+: text ∧ ¬ Occurs sameLetter mark part := by
  obtain ⟨-, stretch, listed, rfl⟩ := mem_trimAll.mp member
  obtain ⟨inside, free⟩ := (cuts_cutAt text).infix_and_free listed
  have trimmed := Text.trim_infix stretch
  exact ⟨trimmed.trans inside, fun occurs => free (occurs.of_infix trimmed)⟩

end Segment

namespace Punctuation

/-- Cuts the trimmed expression at the marks between alternatives, and each of these,
trimmed, at the marks between texts that must hold together.  Texts are trimmed; empty
ones are dropped, and so are groups without any. -/
def cut (punctuation : Punctuation) (expression : String) : List (List String) :=
  let stretches := cutAt sameLetter punctuation.orMark.toList (Text.trim expression.toList)
  let groups := (stretches.map Text.trim).map fun alternative =>
    Segment.trimAll (cutAt sameLetter punctuation.andMark.toList alternative)
  (groups.filter fun group => !group.isEmpty).map fun group => group.map String.ofList

variable {punctuation : Punctuation} {expression : String}

theorem split_eq_cut
    (unescaped : ¬ Occurs sameLetter punctuation.escape.toList expression.toList) :
    punctuation.split expression = punctuation.cut expression := by
  have trimmed : ¬ Occurs sameLetter punctuation.escape.toList (Text.trim expression.toList) :=
    fun occurs => unescaped (occurs.of_infix (Text.trim_infix _))
  have groups : ∀ alternative ∈ Segment.trimAll
      (cutAt sameLetter punctuation.orMark.toList (Text.trim expression.toList)),
      Segment.splitOn .resolve ⟨punctuation.andMark.toList, punctuation.escape.toList⟩ alternative =
        Segment.trimAll (cutAt sameLetter punctuation.andMark.toList alternative) := by
    intro alternative member
    have inside := (Segment.infix_and_free_of_mem_trimAll_cutAt member).1
    exact Segment.splitOn_eq_trimAll_cutAt fun occurs => trimmed (occurs.of_infix inside)
  have vacant : Segment.trimAll (cutAt sameLetter punctuation.andMark.toList []) = [] := by
    simp [cutAt, Segment.trimAll, Text.trim, Text.trimEnd, Text.trimStart]
  rw [split, cut, Segment.splitOn_eq_trimAll_cutAt trimmed]
  simp only
  rw [List.map_congr_left groups, Segment.filter_map_trimAll vacant]

/-- What is known of a text that was cut out of an expression. -/
structure Bare (punctuation : Punctuation) (text : List Char) : Prop where
  tight : Tight text
  no_alternatives : ¬ Occurs sameLetter punctuation.orMark.toList text
  no_conjunctions : ¬ Occurs sameLetter punctuation.andMark.toList text

theorem bare_of_mem_cut {group : List String} (member : group ∈ punctuation.cut expression)
    {text : String} (inside : text ∈ group) :
    punctuation.Bare text.toList ∧ text.toList <:+: expression.toList := by
  rw [cut] at member
  obtain ⟨texts, listed, rfl⟩ := List.mem_map.mp member
  obtain ⟨alternative, made, rfl⟩ := List.mem_map.mp (List.mem_filter.mp listed).1
  obtain ⟨stretch, cutOut, rfl⟩ := List.mem_map.mp made
  obtain ⟨letters, found, rfl⟩ := List.mem_map.mp inside
  obtain ⟨inner, no_conjunctions⟩ := Segment.infix_and_free_of_mem_trimAll_cutAt found
  obtain ⟨outer, no_alternatives⟩ := (cuts_cutAt _).infix_and_free cutOut
  have within := inner.trans (Text.trim_infix stretch)
  rw [String.toList_ofList]
  exact ⟨⟨Segment.tight_of_mem_trimAll found,
    fun occurs => no_alternatives (occurs.of_infix within), no_conjunctions⟩,
    (within.trans outer).trans (Text.trim_infix _)⟩

theorem cut_of_bare {text : String} (bare : punctuation.Bare text.toList) :
    punctuation.cut text = [[text]] := by
  rw [cut, bare.tight.trim_eq, cutAt_of_not_occurs bare.no_alternatives]
  simp [bare.tight.trim_eq, cutAt_of_not_occurs bare.no_conjunctions,
    Segment.trimAll_singleton_of_tight bare.tight]

/-- With marks of any length and without the escape, an expression is cut at its marks, and
each text that it is split into would be split no further. -/
theorem split_unescaped (punctuation : Punctuation) (expression : String)
    (unescaped : ¬ Occurs sameLetter punctuation.escape.toList expression.toList) :
    punctuation.split expression = punctuation.cut expression ∧
      ∀ group ∈ punctuation.split expression, ∀ text ∈ group,
        punctuation.split text = [[text]] := by
  refine ⟨split_eq_cut unescaped, fun group member text inside => ?_⟩
  rw [split_eq_cut unescaped] at member
  obtain ⟨bare, part⟩ := bare_of_mem_cut member inside
  rw [split_eq_cut fun occurs => unescaped (occurs.of_infix part), cut_of_bare bare]

/-- Marks with white space and letters in them: what is left of `or` at the end is text,
and of three letters `a` in a row two are a mark. -/
theorem split_unescaped_overlapping :
    let punctuation : Punctuation := ⟨" or ", "aa", "^^", ⟨"", ""⟩⟩
    ¬ Occurs sameLetter "^^".toList " x OR y^aAa or ".toList ∧
      punctuation.split " x OR y^aAa or " = [["x"], ["y^", "a or"]] ∧
      punctuation.split "a or" = [["a or"]] := by
  intro punctuation
  have unescaped : ¬ Occurs sameLetter "^^".toList " x OR y^aAa or ".toList := by decide +kernel
  obtain ⟨cut, stable⟩ := split_unescaped punctuation " x OR y^aAa or " unescaped
  have found : punctuation.split " x OR y^aAa or " = [["x"], ["y^", "a or"]] := by
    rw [cut]
    decide +kernel
  refine ⟨unescaped, found, stable ["y^", "a or"] ?_ "a or" (by simp)⟩
  rw [found]
  simp

end Punctuation

end ColumnFilter
