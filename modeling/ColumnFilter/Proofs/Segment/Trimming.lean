import ColumnFilter.Proofs.Text.Trimming
import ColumnFilter.Segment.Split

/-!
# Texts that are trimmed one by one

What is left of the pieces of a text when each of them is trimmed and the empty ones are
dropped.  White space at the ends of a piece does not matter, nor does a piece of white
space.
-/

namespace ColumnFilter.Segment

open Text (Tight)

theorem mem_trimAll {texts : List (List Char)} {part : List Char} :
    part ∈ trimAll texts ↔ part ≠ [] ∧ ∃ text ∈ texts, Text.trim text = part := by
  rw [trimAll, List.mem_filter, List.mem_map, and_comm]
  simp

theorem tight_of_mem_trimAll {texts : List (List Char)} {part : List Char}
    (member : part ∈ trimAll texts) : Tight part := by
  obtain ⟨present, text, -, rfl⟩ := mem_trimAll.mp member
  exact Text.tight_trim present

theorem trimAll_of_tight {texts : List (List Char)} (tight : ∀ text ∈ texts, Tight text) :
    trimAll texts = texts := by
  have unchanged : texts.map Text.trim = texts := by
    rw [List.map_congr_left fun text member => (tight text member).trim_eq, List.map_id']
  rw [trimAll, unchanged, List.filter_eq_self]
  intro text member
  simpa using (tight text member).ne_nil

theorem trimAll_singleton_of_tight {text : List Char} (tight : Tight text) :
    trimAll [text] = [text] :=
  trimAll_of_tight (by simpa using tight)

theorem trimAll_append (front back : List (List Char)) :
    trimAll (front ++ back) = trimAll front ++ trimAll back := by
  rw [trimAll, List.map_append, List.filter_append]
  rfl

theorem trimAll_cons (text : List Char) (texts : List (List Char)) :
    trimAll (text :: texts) = trimAll [text] ++ trimAll texts :=
  trimAll_append [text] texts

theorem trimAll_singleton_of_blank {text : List Char}
    (blank : ∀ c ∈ text, Text.isSpace c = true) : trimAll [text] = [] := by
  have trimmed := Text.trim_append_right blank []
  rw [List.nil_append] at trimmed
  rw [trimAll, List.map_singleton, trimmed]
  rfl

theorem trimAll_of_blank {texts : List (List Char)}
    (blank : ∀ text ∈ texts, ∀ c ∈ text, Text.isSpace c = true) : trimAll texts = [] := by
  induction texts with
  | nil => rfl
  | cons text texts induction =>
      obtain ⟨here, later⟩ := List.forall_mem_cons.mp blank
      rw [trimAll_cons, trimAll_singleton_of_blank here, induction later, List.append_nil]

theorem trimAll_filter (texts : List (List Char)) :
    trimAll (texts.filter fun text => !text.isEmpty) = trimAll texts := by
  induction texts with
  | nil => rfl
  | cons text texts induction =>
      cases text with
      | nil =>
          rw [List.filter_cons_of_neg (by simp), induction]
          rfl
      | cons c text =>
          rw [List.filter_cons_of_pos (by simp), trimAll_cons, induction, ← trimAll_cons]

theorem trimAll_singleton_append_right {white : List Char}
    (blank : ∀ c ∈ white, Text.isSpace c = true) (text : List Char) :
    trimAll [text ++ white] = trimAll [text] := by
  rw [trimAll, trimAll, List.map_singleton, List.map_singleton, Text.trim_append_right blank]

theorem trimAll_modifyHead_cons {c : Char} (blank : Text.isSpace c = true)
    (texts : List (List Char)) : trimAll (texts.modifyHead (c :: ·)) = trimAll texts := by
  cases texts with
  | nil => rfl
  | cons text texts =>
      have white : ∀ d ∈ [c], Text.isSpace d = true := by simpa using blank
      have trimmed : Text.trim (c :: text) = Text.trim text := Text.trim_append_left white text
      rw [List.modifyHead_cons, trimAll, List.map_cons, trimmed]
      rfl

/-- Texts that are dropped early would have become empty groups. -/
theorem filter_map_trimAll {f : List Char → List (List Char)} (vacant : f [] = [])
    (texts : List (List Char)) :
    ((trimAll texts).map f).filter (fun group => !group.isEmpty) =
      ((texts.map Text.trim).map f).filter fun group => !group.isEmpty := by
  rw [trimAll]
  induction texts.map Text.trim with
  | nil => rfl
  | cons text texts induction =>
      rw [List.map_cons, List.filter_cons, List.filter_cons, ← induction]
      cases text with
      | nil => simp [vacant]
      | cons c text => exact List.filter_cons

end ColumnFilter.Segment
