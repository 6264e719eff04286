import ColumnFilter.Proofs.Segment.Unescaped

/-!
# Expressions without a mark

A mark that shares no character with an expression cuts it nowhere, and so does an empty
one.  For the first pass the two are alike.  The second pass leaves the escapes of a text
alone when its delimiter is empty, where any other delimiter has them resolved: the two
differ exactly when there is an escape left to resolve, since this makes a text shorter.
-/

namespace ColumnFilter

open Text (Occurs cutAt_of_not_occurs sameLetter Tight)

namespace Text

/-- No character of the text agrees with one of the mark. -/
def Avoids (same : Char → Char → Bool) (mark text : List Char) : Prop :=
  ∀ c ∈ text, ∀ letter ∈ mark, same c letter = false

instance (same : Char → Char → Bool) (mark text : List Char) :
    Decidable (Avoids same mark text) :=
  decidable_of_iff ((text.all fun c => mark.all fun letter => !same c letter) = true)
    (by simp [Avoids])

namespace Avoids

variable {same : Char → Char → Bool} {mark text part : List Char}

theorem mono (avoids : Avoids same mark text) (inside : part ⊆ text) : Avoids same mark part :=
  fun c member => avoids c (inside member)

theorem takeMark?_eq_none (avoids : Avoids same mark text) : takeMark? same mark text = none := by
  rw [← Option.not_isSome_iff_eq_none, Option.isSome_iff_exists]
  rintro ⟨⟨written, rest⟩, taken⟩
  obtain ⟨present, rfl, spelled⟩ := takeMark?_eq_some_iff.mp taken
  cases spelled with
  | nil => exact present rfl
  | cons agrees later =>
      rw [avoids _ List.mem_cons_self _ List.mem_cons_self] at agrees
      contradiction

theorem not_occurs (avoids : Avoids same mark text) : ¬ Occurs same mark text := by
  intro occurs
  obtain ⟨before, written, rest, rfl, spelled, -⟩ := occurs.exists_leftmost
  have behind : Avoids same mark (written ++ rest) :=
    avoids.mono (by rw [List.append_assoc]; exact List.subset_append_right before _)
  have missing := behind.takeMark?_eq_none
  rw [takeMark?_eq_some_iff.mpr ⟨occurs.1, rfl, spelled⟩] at missing
  contradiction

end Avoids

end Text

open Text (Avoids)

namespace Segment

variable {mode : EscapeMode} {marks : Marks} {text written rest : List Char}

/-- What stands behind an escape: another one, the delimiter, or something that only the
second pass has it taken away from. -/
theorem takeEscape?_cases (taken : takeEscape? mode marks text = some (written, rest)) :
    ∃ first after, takeMark? marks.escape text = some (first, after) ∧
      ((∃ second, takeMark? marks.escape after = some (second, rest) ∧
          written = (if mode = .keep then first else []) ++ second) ∨
        takeMark? marks.delimiter after = some (written, rest) ∨
        mode = .resolve ∧ written = [] ∧ rest = after) := by
  revert taken
  fun_cases takeEscape? mode marks text with
  | case1 | case5 => simp
  | case2 first after escaped second behind doubled
  | case3 first after escaped second behind doubled =>
      intro taken
      obtain ⟨rfl, rfl⟩ := Prod.mk.inj (Option.some.inj taken)
      exact ⟨first, after, escaped, .inl ⟨second, doubled, rfl⟩⟩
  | case4 mode first after escaped _ delimiter behind delimited =>
      intro taken
      obtain ⟨rfl, rfl⟩ := Prod.mk.inj (Option.some.inj taken)
      exact ⟨first, after, escaped, .inr (.inl delimited)⟩
  | case6 first after escaped _ _ =>
      intro taken
      obtain ⟨rfl, rfl⟩ := Prod.mk.inj (Option.some.inj taken)
      exact ⟨first, after, escaped, .inr (.inr ⟨rfl, rfl, rfl⟩)⟩

theorem eq_append_of_takeMark? {mark : List Char}
    (taken : takeMark? mark text = some (written, rest)) : text = written ++ rest :=
  (Text.takeMark?_eq_some_iff.mp taken).2.1

/-- An escape adds nothing to a text. -/
theorem sublist_of_takeEscape? (taken : takeEscape? mode marks text = some (written, rest)) :
    (written ++ rest).Sublist text := by
  obtain ⟨first, after, escaped, ⟨second, doubled, rfl⟩ | delimited | ⟨-, rfl, rfl⟩⟩ :=
    takeEscape?_cases taken
  · rw [eq_append_of_takeMark? escaped, eq_append_of_takeMark? doubled, List.append_assoc]
    refine List.Sublist.append ?_ (List.Sublist.refl _)
    split
    · exact List.Sublist.refl first
    · exact List.nil_sublist first
  · rw [eq_append_of_takeMark? escaped, eq_append_of_takeMark? delimited]
    exact List.sublist_append_right first _
  · rw [eq_append_of_takeMark? escaped]
    exact List.sublist_append_right first _

/-- Resolving an escape makes a text shorter. -/
theorem length_lt_of_takeEscape?_resolve
    (taken : takeEscape? .resolve marks text = some (written, rest)) :
    written.length + rest.length < text.length := by
  obtain ⟨first, after, escaped, ending⟩ := takeEscape?_cases taken
  have shorter := takeMark?_length escaped
  obtain ⟨second, doubled, rfl⟩ | delimited | ⟨-, rfl, rfl⟩ := ending
  · have whole := congrArg List.length (eq_append_of_takeMark? doubled)
    rw [List.length_append] at whole
    omega
  · have whole := congrArg List.length (eq_append_of_takeMark? delimited)
    rw [List.length_append] at whole
    omega
  · simpa using shorter

theorem stretches_of_escape {c : Char}
    (escaped : takeEscape? mode marks (c :: text) = some (written, rest)) :
    stretches (pieces mode marks (c :: text)) =
      (written ++ (stretches (pieces mode marks rest)).1,
        (stretches (pieces mode marks rest)).2) := by
  rw [pieces_of_escape escaped]
  rfl

theorem stretches_of_avoids_cons {c : Char} (avoids : Avoids sameLetter marks.delimiter (c :: text))
    (unescaped : takeEscape? mode marks (c :: text) = none) :
    stretches (pieces mode marks (c :: text)) =
      (c :: (stretches (pieces mode marks text)).1, (stretches (pieces mode marks text)).2) := by
  have uncut : takeMark? marks.delimiter (c :: text) = none := avoids.takeMark?_eq_none
  rw [pieces_of_unescaped unescaped, uncut]
  rfl

/-- The first pass leaves a text as it is if its delimiter shares no character with it. -/
theorem stretches_keep_of_avoids {text : List Char}
    (avoids : Avoids sameLetter marks.delimiter text) :
    stretches (pieces .keep marks text) = (text, []) := by
  match text with
  | [] => simp [pieces, stretches]
  | c :: text =>
      cases escaped : takeEscape? .keep marks (c :: text) with
      | none =>
          rw [stretches_of_avoids_cons avoids escaped,
            stretches_keep_of_avoids (avoids.mono (List.subset_cons_self c text))]
      | some found =>
          obtain ⟨written, rest⟩ := found
          have shorter : rest.length < text.length + 1 := takeEscape?_length escaped
          have later := avoids.mono ((List.sublist_append_right written rest).trans
            (sublist_of_takeEscape? escaped)).subset
          obtain ⟨first, after, marked, ⟨second, doubled, rfl⟩ | delimited | ⟨other, -⟩⟩ :=
            takeEscape?_cases escaped
          · have whole : c :: text = first ++ second ++ rest := by
              rw [eq_append_of_takeMark? marked, eq_append_of_takeMark? doubled, List.append_assoc]
            rw [stretches_of_escape escaped, stretches_keep_of_avoids later, if_pos rfl, whole]
          · have behind : Avoids sameLetter marks.delimiter after := by
              apply avoids.mono
              rw [eq_append_of_takeMark? marked]
              exact List.subset_append_right first after
            have missing : takeMark? marks.delimiter after = none := behind.takeMark?_eq_none
            rw [missing] at delimited
            contradiction
          · contradiction
termination_by text.length

/-- The second pass makes one text of it, which is shorter if there was an escape. -/
theorem exists_stretches_resolve {text : List Char}
    (avoids : Avoids sameLetter marks.delimiter text) :
    ∃ kept, stretches (pieces .resolve marks text) = (kept, []) ∧ kept.length ≤ text.length ∧
      (Occurs sameLetter marks.escape text → kept.length < text.length) := by
  match text with
  | [] => exact ⟨[], by simp [pieces, stretches], Nat.le_refl 0,
      fun occurs => absurd occurs Text.not_occurs_nil⟩
  | c :: text =>
      cases escaped : takeEscape? .resolve marks (c :: text) with
      | none =>
          obtain ⟨kept, read, bounded, strictly⟩ :=
            exists_stretches_resolve (avoids.mono (List.subset_cons_self c text))
          refine ⟨c :: kept, ?_, Nat.succ_le_succ bounded, fun occurs => ?_⟩
          · rw [stretches_of_avoids_cons avoids escaped, read]
          · rcases Occurs.cons_iff.mp occurs with front | behind
            · obtain ⟨⟨first, after⟩, marked⟩ := Option.ne_none_iff_exists'.mp front
              have marked : takeMark? marks.escape (c :: text) = some (first, after) := marked
              exfalso
              simp only [takeEscape?, marked] at escaped
              split at escaped
              · contradiction
              · split at escaped <;> contradiction
            · exact Nat.succ_lt_succ (strictly behind)
      | some found =>
          obtain ⟨written, rest⟩ := found
          have shorter : rest.length < text.length + 1 := takeEscape?_length escaped
          have resolved := length_lt_of_takeEscape?_resolve escaped
          have later := avoids.mono ((List.sublist_append_right written rest).trans
            (sublist_of_takeEscape? escaped)).subset
          obtain ⟨kept, read, bounded, -⟩ := exists_stretches_resolve later
          have less : (written ++ kept).length < (c :: text).length := by
            rw [List.length_append]
            omega
          exact ⟨written ++ kept, by rw [stretches_of_escape escaped, read], less.le, fun _ => less⟩
termination_by text.length

theorem splitOn_keep_of_avoids (avoids : Avoids sameLetter marks.delimiter text) :
    splitOn .keep marks text = trimAll [text] := by
  rw [splitOn]
  split
  · rfl
  · rw [stretches_keep_of_avoids avoids]

/-- The second pass leaves a trimmed text as it is if and only if there is no escape in it. -/
theorem splitOn_resolve_of_avoids (delimited : marks.delimiter ≠ [])
    (avoids : Avoids sameLetter marks.delimiter text) (tight : Tight text) :
    splitOn .resolve marks text = [text] ↔ ¬ Occurs sameLetter marks.escape text := by
  constructor
  · intro same occurs
    obtain ⟨kept, read, -, strictly⟩ := exists_stretches_resolve avoids
    have member : text ∈ splitOn .resolve marks text := by
      rw [same]
      exact List.mem_singleton_self text
    rw [splitOn_eq_trimAll_parts delimited, parts, read] at member
    obtain ⟨-, only, listed, trimmed⟩ := mem_trimAll.mp member
    obtain rfl := List.mem_singleton.mp listed
    have shorter := (Text.trim_infix only).length_le
    rw [trimmed] at shorter
    exact absurd (strictly occurs) (Nat.not_lt.mpr shorter)
  · intro unescaped
    rw [splitOn_eq_trimAll_cutAt unescaped, cutAt_of_not_occurs avoids.not_occurs,
      trimAll_singleton_of_tight tight]

theorem mem_modifyHead {α : Type} {f : α → α} {items : List α} {item : α}
    (member : item ∈ items.modifyHead f) : (∃ first ∈ items, item = f first) ∨ item ∈ items := by
  cases items with
  | nil => contradiction
  | cons first items =>
      rcases List.mem_cons.mp member with rfl | later
      · exact .inl ⟨first, List.mem_cons_self, rfl⟩
      · exact .inr (List.mem_cons_of_mem first later)

/-- The stretches of a pass are made of characters of the text. -/
theorem sublist_of_mem_parts {text part : List Char} (member : part ∈ parts mode marks text) :
    part.Sublist text := by
  match text with
  | [] =>
      obtain rfl : part = [] := by simpa [parts, pieces, stretches] using member
      exact List.Sublist.refl []
  | c :: text =>
      cases escaped : takeEscape? mode marks (c :: text) with
      | some found =>
          obtain ⟨written, rest⟩ := found
          have shorter : rest.length < text.length + 1 := takeEscape?_length escaped
          have inside := sublist_of_takeEscape? escaped
          rw [parts_of_text (pieces_of_escape escaped)] at member
          rcases mem_modifyHead member with ⟨first, listed, rfl⟩ | later
          · exact ((sublist_of_mem_parts listed).append_left written).trans inside
          · exact (sublist_of_mem_parts later).trans
              ((List.sublist_append_right written rest).trans inside)
      | none =>
          have piece := pieces_of_unescaped escaped
          cases delimited : takeMark? marks.delimiter (c :: text) with
          | some found =>
              obtain ⟨written, rest⟩ := found
              have shorter : rest.length < text.length + 1 := takeMark?_length delimited
              rw [delimited] at piece
              rw [parts_of_cut piece] at member
              rcases List.mem_cons.mp member with rfl | later
              · exact List.nil_sublist _
              · rw [eq_append_of_takeMark? delimited]
                exact (sublist_of_mem_parts later).trans (List.sublist_append_right written rest)
          | none =>
              rw [delimited] at piece
              rw [parts_of_text piece] at member
              rcases mem_modifyHead member with ⟨first, listed, rfl⟩ | later
              · exact (sublist_of_mem_parts listed).cons_cons c
              · exact (sublist_of_mem_parts later).cons c
termination_by text.length

theorem tight_and_subset_of_mem_splitOn {part : List Char}
    (member : part ∈ splitOn mode marks text) : Tight part ∧ part ⊆ text := by
  have stretched : ∃ texts, splitOn mode marks text = trimAll texts ∧
      ∀ stretch ∈ texts, stretch ⊆ text := by
    by_cases delimited : marks.delimiter = []
    · refine ⟨[text], by rw [splitOn, if_pos (by simpa using delimited)], ?_⟩
      simp
    · exact ⟨_, splitOn_eq_trimAll_parts delimited text,
        fun stretch listed => (sublist_of_mem_parts listed).subset⟩
  obtain ⟨texts, split, inside⟩ := stretched
  rw [split] at member
  obtain ⟨-, stretch, listed, rfl⟩ := mem_trimAll.mp member
  exact ⟨tight_of_mem_trimAll member,
    List.Subset.trans (Text.trim_infix stretch).subset (inside stretch listed)⟩

end Segment

theorem filter_map_eq_map_iff {α β : Type} {keeps : β → Bool} {f g : α → β} {items : List α}
    (kept : ∀ item ∈ items, keeps (g item) = true) :
    (items.map f).filter keeps = items.map g ↔ ∀ item ∈ items, f item = g item := by
  constructor
  · intro same
    have length := congrArg List.length same
    rw [List.length_map, ← List.length_map f, List.length_filter_eq_length_iff] at length
    rwa [List.filter_eq_self.mpr length, List.map_inj_left] at same
  · intro same
    rw [List.map_congr_left same, List.filter_eq_self]
    simpa using kept

namespace Punctuation

variable {punctuation : Punctuation} {expression : String}

/-- What the first pass makes of an expression. -/
def alternatives (punctuation : Punctuation) (expression : String) : List (List Char) :=
  Segment.splitOn .keep ⟨punctuation.orMark.toList, punctuation.escape.toList⟩
    (Text.trim expression.toList)

theorem split_eq_map_alternatives :
    punctuation.split expression =
      (((punctuation.alternatives expression).map
        (Segment.splitOn .resolve ⟨punctuation.andMark.toList, punctuation.escape.toList⟩)).filter
          fun group => !group.isEmpty).map fun group => group.map String.ofList := rfl

theorem tight_of_mem_alternatives {text : List Char}
    (member : text ∈ punctuation.alternatives expression) : Tight text :=
  (Segment.tight_and_subset_of_mem_splitOn member).1

/-- Without a delimiter of the second pass, the alternatives stay as the first one left them. -/
theorem split_without_andMark :
    ({ punctuation with andMark := "" } : Punctuation).split expression =
      ((punctuation.alternatives expression).map fun text => [text]).map
        fun group => group.map String.ofList := by
  have whole : ∀ text ∈ punctuation.alternatives expression,
      Segment.splitOn .resolve ⟨"".toList, punctuation.escape.toList⟩ text = [text] :=
    fun text member => Segment.trimAll_singleton_of_tight (tight_of_mem_alternatives member)
  rw [split_eq_map_alternatives]
  congr 1
  refine (filter_map_eq_map_iff ?_).mpr whole
  simp

/-- Without a delimiter of the first pass an expression is split as with any that shares no
character with it.  Without a delimiter of the second pass this is so if and only if there
is no escape in the texts that are found without it. -/
theorem split_without_marks (punctuation : Punctuation) (expression : String) :
    (Avoids sameLetter punctuation.orMark.toList expression.toList →
      ({ punctuation with orMark := "" } : Punctuation).split expression =
        punctuation.split expression) ∧
    (punctuation.andMark ≠ "" → Avoids sameLetter punctuation.andMark.toList expression.toList →
      let unmarked : Punctuation := { punctuation with andMark := "" }
      (unmarked.split expression = punctuation.split expression ↔
        ∀ group ∈ unmarked.split expression, ∀ text ∈ group,
          ¬ Occurs sameLetter punctuation.escape.toList text.toList)) := by
  constructor
  · intro avoids
    let marks : Segment.Marks := ⟨punctuation.orMark.toList, punctuation.escape.toList⟩
    have trimmed : Avoids sameLetter marks.delimiter (Text.trim expression.toList) :=
      avoids.mono (Text.trim_infix expression.toList).subset
    have same : ({ punctuation with orMark := "" } : Punctuation).alternatives expression =
        punctuation.alternatives expression :=
      (Segment.splitOn_keep_of_avoids trimmed).symm
    rw [split_eq_map_alternatives, split_eq_map_alternatives, same]
  · intro delimited avoids unmarked
    have resolved : ∀ text ∈ punctuation.alternatives expression,
        (Segment.splitOn .resolve ⟨punctuation.andMark.toList, punctuation.escape.toList⟩ text =
          [text] ↔ ¬ Occurs sameLetter punctuation.escape.toList text) := by
      intro text member
      obtain ⟨tight, inside⟩ := Segment.tight_and_subset_of_mem_splitOn member
      exact Segment.splitOn_resolve_of_avoids (by simpa using delimited)
        (avoids.mono (List.Subset.trans inside (Text.trim_infix _).subset)) tight
    have unescaped : (∀ group ∈ unmarked.split expression, ∀ text ∈ group,
        ¬ Occurs sameLetter punctuation.escape.toList text.toList) ↔
          ∀ text ∈ punctuation.alternatives expression,
            ¬ Occurs sameLetter punctuation.escape.toList text := by
      rw [split_without_andMark]
      simp
    have injective : Function.Injective fun group : List (List Char) => group.map String.ofList :=
      List.map_injective_iff.mpr fun first second => String.ofList_inj.mp
    rw [unescaped, split_without_andMark, split_eq_map_alternatives,
      (List.map_injective_iff.mpr injective).eq_iff, eq_comm, filter_map_eq_map_iff (by simp)]
    exact forall₂_congr resolved

/-- The escape in front of a delimiter is read by the pass of this delimiter. -/
theorem split_without_marks_protected :
    let first : Punctuation := { Punctuation.standard with orMark := "" }
    let second : Punctuation := { Punctuation.standard with andMark := "" }
    Avoids sameLetter "|".toList "a\\&b & c".toList ∧
      first.split "a\\&b & c" = [["a&b", "c"]] ∧
      Avoids sameLetter "&".toList "a\\|b|c".toList ∧
      second.split "a\\|b|c" = Punctuation.standard.split "a\\|b|c" := by
  intro first second
  have noOr : Avoids sameLetter "|".toList "a\\&b & c".toList := by decide +kernel
  have noAnd : Avoids sameLetter "&".toList "a\\|b|c".toList := by decide +kernel
  refine ⟨noOr, ?_, noAnd, ?_⟩
  · rw [(split_without_marks .standard "a\\&b & c").1 noOr]
    decide +kernel
  · apply ((split_without_marks .standard "a\\|b|c").2 (by decide) noAnd).mpr
    decide +kernel

/-- An escape that protects nothing is dropped by the second pass, but not if its delimiter
is empty. -/
theorem split_without_andMark_stray :
    let unmarked : Punctuation := { Punctuation.standard with andMark := "" }
    Avoids sameLetter "&".toList "a\\b".toList ∧
      unmarked.split "a\\b" = [["a\\b"]] ∧ Punctuation.standard.split "a\\b" = [["ab"]] := by
  decide +kernel

end Punctuation

end ColumnFilter
