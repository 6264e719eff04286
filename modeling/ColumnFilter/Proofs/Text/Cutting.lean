import Mathlib.Data.List.Forall2
import Mathlib.Data.List.Infix
import ColumnFilter.Text.Mark

/-!
# Cutting a text at a mark

The plain way to take a text apart: it is cut at the places of a mark, from left to
right and without overlap.  `Cuts` says what the stretches between these places are,
and `cutAt` computes them.
-/

namespace ColumnFilter.Text

section Marks

variable (same : Char → Char → Bool) (mark : List Char)

/-- The characters agree with those of the mark, one by one. -/
def Spelled (written : List Char) : Prop :=
  List.Forall₂ (fun c letter => same c letter = true) written mark

/-- The mark stands somewhere in the text.  An empty mark stands nowhere. -/
def Occurs (text : List Char) : Prop :=
  mark ≠ [] ∧
    ∃ before written after, text = before ++ written ++ after ∧ Spelled same mark written

/-- The stretches of a text between the places of a mark.  A cut is made at the leftmost
place, and the next one is looked for behind it. -/
inductive Cuts : List Char → List (List Char) → Prop where
  | whole {text : List Char} (free : ¬ Occurs same mark text) : Cuts text [text]
  | cut {before written rest : List Char} {parts : List (List Char)} (present : mark ≠ [])
      (spelled : Spelled same mark written)
      (leftmost : ¬ Occurs same mark (before ++ written.dropLast)) (later : Cuts rest parts) :
      Cuts (before ++ written ++ rest) (before :: parts)

/-- Cuts a text at the places of a mark. -/
def cutAt : List Char → List (List Char)
  | [] => [[]]
  | c :: text =>
      match _ : takeMark? same mark (c :: text) with
      | some (_, rest) => [] :: cutAt rest
      | none => (cutAt text).modifyHead (c :: ·)
termination_by text => text.length
decreasing_by
  · exact takeMark?_length ‹_›
  · simp

end Marks

variable {same : Char → Char → Bool} {mark : List Char}

theorem Spelled.length_eq {written : List Char} (spelled : Spelled same mark written) :
    written.length = mark.length :=
  List.Forall₂.length_eq spelled

/-- The last characters agree too. -/
theorem Spelled.exists_getLast? {written : List Char} (spelled : Spelled same mark written)
    {c : Char} (last : c ∈ written.getLast?) : ∃ letter ∈ mark.getLast?, same c letter = true := by
  have backwards := List.forall₂_reverse_iff.mpr spelled
  rw [← List.head?_reverse] at last ⊢
  generalize written.reverse = front, mark.reverse = letters at backwards last ⊢
  cases backwards with
  | nil => contradiction
  | cons agrees later =>
      obtain rfl := Option.some.inj last
      exact ⟨_, rfl, agrees⟩

theorem takeLetters?_eq_some_iff {letters text written rest : List Char} :
    takeLetters? same letters text = some (written, rest) ↔
      text = written ++ rest ∧ Spelled same letters written := by
  induction letters generalizing text written with
  | nil =>
      constructor
      · intro taken
        obtain ⟨rfl, rfl⟩ := Prod.mk.inj (Option.some.inj taken)
        exact ⟨rfl, .nil⟩
      · rintro ⟨rfl, spelled⟩
        cases spelled
        rfl
  | cons letter letters induction =>
      constructor
      · intro taken
        cases text with
        | nil => simp [takeLetters?] at taken
        | cons c text =>
            rw [takeLetters?] at taken
            by_cases agrees : same c letter
            · rw [if_pos agrees] at taken
              obtain ⟨⟨later, rest'⟩, inner, equal⟩ := Option.map_eq_some_iff.mp taken
              obtain ⟨rfl, rfl⟩ := Prod.mk.inj equal
              obtain ⟨rfl, spelled⟩ := induction.mp inner
              exact ⟨rfl, .cons agrees spelled⟩
            · rw [if_neg agrees] at taken
              contradiction
      · rintro ⟨rfl, spelled⟩
        cases spelled with
        | cons agrees spelled =>
            rw [List.cons_append, takeLetters?, if_pos agrees, induction.mpr ⟨rfl, spelled⟩]
            rfl

theorem takeMark?_eq_some_iff {text written rest : List Char} :
    takeMark? same mark text = some (written, rest) ↔
      mark ≠ [] ∧ text = written ++ rest ∧ Spelled same mark written := by
  rw [takeMark?]
  by_cases vacant : mark.isEmpty
  · rw [if_pos vacant]
    simp [List.isEmpty_iff.mp vacant]
  · rw [if_neg vacant, takeLetters?_eq_some_iff]
    simp [List.isEmpty_iff.not.mp vacant]

/-- A mark at the front of a text is also at the front of a longer one. -/
theorem takeMark?_append {text written rest : List Char}
    (taken : takeMark? same mark text = some (written, rest)) (more : List Char) :
    takeMark? same mark (text ++ more) = some (written, rest ++ more) := by
  obtain ⟨present, rfl, spelled⟩ := takeMark?_eq_some_iff.mp taken
  exact takeMark?_eq_some_iff.mpr ⟨present, List.append_assoc .., spelled⟩

theorem takeMark?_eq_none_of_append {text more : List Char}
    (missing : takeMark? same mark (text ++ more) = none) : takeMark? same mark text = none := by
  cases taken : takeMark? same mark text with
  | none => rfl
  | some found => simp [takeMark?_append taken] at missing

/-- What stands behind as many characters as the mark has does not matter to it. -/
theorem takeMark?_append_eq_none {text : List Char} (missing : takeMark? same mark text = none)
    (long : mark.length ≤ text.length) (more : List Char) :
    takeMark? same mark (text ++ more) = none := by
  rw [← Option.not_isSome_iff_eq_none, Option.isSome_iff_exists]
  rintro ⟨⟨written, rest⟩, taken⟩
  obtain ⟨present, shape, spelled⟩ := takeMark?_eq_some_iff.mp taken
  have front : written <+: text ++ more := ⟨rest, shape.symm⟩
  have inside : written <+: text := by
    apply List.prefix_of_prefix_length_le front (List.prefix_append text more)
    rwa [spelled.length_eq]
  obtain ⟨behind, rfl⟩ := inside
  rw [takeMark?_eq_some_iff.mpr ⟨present, rfl, spelled⟩] at missing
  contradiction

theorem append_dropLast_prefix (before written rest : List Char) :
    before ++ written.dropLast <+: before ++ written ++ rest :=
  ((List.prefix_append_right_inj before).mpr (List.dropLast_prefix written)).trans
    (List.prefix_append _ rest)

namespace Occurs

theorem of_takeMark? {text written rest : List Char}
    (taken : takeMark? same mark text = some (written, rest)) : Occurs same mark text := by
  obtain ⟨present, rfl, spelled⟩ := takeMark?_eq_some_iff.mp taken
  exact ⟨present, [], written, rest, rfl, spelled⟩

theorem of_infix {part text : List Char} (occurs : Occurs same mark part)
    (inside : part <:+: text) : Occurs same mark text := by
  obtain ⟨front, back, rfl⟩ := inside
  obtain ⟨present, before, written, after, rfl, spelled⟩ := occurs
  exact ⟨present, front ++ before, written, after ++ back, by simp, spelled⟩

theorem length_le {text : List Char} (occurs : Occurs same mark text) :
    mark.length ≤ text.length := by
  obtain ⟨-, before, written, after, rfl, spelled⟩ := occurs
  rw [List.length_append, List.length_append, spelled.length_eq]
  omega

/-- A mark stands at the front of a text or behind its first character. -/
theorem cons_iff {c : Char} {text : List Char} :
    Occurs same mark (c :: text) ↔
      takeMark? same mark (c :: text) ≠ none ∨ Occurs same mark text := by
  constructor
  · rintro ⟨present, before, written, after, shape, spelled⟩
    cases before with
    | nil =>
        left
        rw [takeMark?_eq_some_iff.mpr ⟨present, shape, spelled⟩]
        exact Option.some_ne_none _
    | cons first before =>
        right
        exact ⟨present, before, written, after, (List.cons.inj shape).2, spelled⟩
  · rintro (front | behind)
    · obtain ⟨⟨written, rest⟩, taken⟩ := Option.ne_none_iff_exists'.mp front
      exact of_takeMark? taken
    · exact behind.of_infix (List.infix_cons (List.infix_refl text))

end Occurs

theorem not_occurs_nil : ¬ Occurs same mark [] := fun occurs =>
  occurs.1 (List.length_eq_zero_iff.mp (Nat.le_zero.mp occurs.length_le))

theorem occurs_iff_exists_tail {text : List Char} :
    Occurs same mark text ↔ ∃ tail ∈ text.tails, (takeMark? same mark tail).isSome := by
  induction text with
  | nil =>
      have vacant : takeMark? same mark [] = none := by
        cases taken : takeMark? same mark [] with
        | none => rfl
        | some found => exact absurd (.of_takeMark? taken) not_occurs_nil
      simp [not_occurs_nil, vacant]
  | cons c text induction =>
      rw [Occurs.cons_iff, induction, List.tails, ← Option.isSome_iff_ne_none]
      simp only [List.mem_cons, exists_eq_or_imp]

instance (same : Char → Char → Bool) (mark text : List Char) :
    Decidable (Occurs same mark text) :=
  decidable_of_iff _ occurs_iff_exists_tail.symm

/-- Where a mark stands in a text, it has a leftmost place. -/
theorem Occurs.exists_leftmost {text : List Char} (occurs : Occurs same mark text) :
    ∃ before written rest, text = before ++ written ++ rest ∧ Spelled same mark written ∧
      ¬ Occurs same mark (before ++ written.dropLast) := by
  induction text with
  | nil => exact absurd occurs not_occurs_nil
  | cons c text induction =>
      cases taken : takeMark? same mark (c :: text) with
      | some found =>
          obtain ⟨written, rest⟩ := found
          obtain ⟨present, shape, spelled⟩ := takeMark?_eq_some_iff.mp taken
          refine ⟨[], written, rest, shape, spelled, fun early => ?_⟩
          have longer := early.length_le
          have positive := List.length_pos_iff.mpr present
          rw [List.nil_append, List.length_dropLast, spelled.length_eq] at longer
          omega
      | none =>
          obtain behind : Occurs same mark text := by simpa [taken] using Occurs.cons_iff.mp occurs
          obtain ⟨before, written, rest, rfl, spelled, leftmost⟩ := induction behind
          refine ⟨c :: before, written, rest, rfl, spelled, fun early => ?_⟩
          rcases Occurs.cons_iff.mp early with front | later
          · obtain ⟨more, longer⟩ := append_dropLast_prefix (c :: before) written rest
            rw [← List.cons_append, ← List.cons_append, ← longer] at taken
            exact front (takeMark?_eq_none_of_append taken)
          · exact leftmost later

/-! ### Cutting from left to right -/

theorem cutAt_of_takeMark? {c : Char} {text written rest : List Char}
    (taken : takeMark? same mark (c :: text) = some (written, rest)) :
    cutAt same mark (c :: text) = [] :: cutAt same mark rest := by
  rw [cutAt]
  split <;> simp_all

theorem cutAt_of_eq_none {c : Char} {text : List Char}
    (missing : takeMark? same mark (c :: text) = none) :
    cutAt same mark (c :: text) = (cutAt same mark text).modifyHead (c :: ·) := by
  rw [cutAt]
  split <;> simp_all

theorem cutAt_of_not_occurs {text : List Char} (free : ¬ Occurs same mark text) :
    cutAt same mark text = [text] := by
  induction text with
  | nil => simp [cutAt]
  | cons c text induction =>
      rw [Occurs.cons_iff, not_or, not_not] at free
      rw [cutAt_of_eq_none free.1, induction free.2, List.modifyHead_cons]

/-- The first cut is made at the leftmost place. -/
theorem cutAt_of_leftmost {before written : List Char} (present : mark ≠ [])
    (spelled : Spelled same mark written)
    (leftmost : ¬ Occurs same mark (before ++ written.dropLast)) (rest : List Char) :
    cutAt same mark (before ++ written ++ rest) = before :: cutAt same mark rest := by
  induction before with
  | nil =>
      obtain ⟨c, later, rfl⟩ : ∃ c later, written = c :: later := by
        apply List.ne_nil_iff_exists_cons.mp
        rw [← List.length_pos_iff, spelled.length_eq]
        exact List.length_pos_iff.mpr present
      exact cutAt_of_takeMark? (takeMark?_eq_some_iff.mpr ⟨present, rfl, spelled⟩)
  | cons c before induction =>
      rw [List.cons_append, Occurs.cons_iff, not_or, not_not] at leftmost
      have missing : takeMark? same mark (c :: (before ++ written ++ rest)) = none := by
        obtain ⟨more, longer⟩ := append_dropLast_prefix (c :: before) written rest
        have long : mark.length ≤ (c :: before ++ written.dropLast).length := by
          simp only [List.length_append, List.length_cons, List.length_dropLast,
            spelled.length_eq]
          omega
        rw [← List.cons_append, ← List.cons_append, ← longer]
        exact takeMark?_append_eq_none leftmost.1 long more
      rw [List.cons_append, List.cons_append, cutAt_of_eq_none missing, induction leftmost.2,
        List.modifyHead_cons]

theorem Cuts.cutAt_eq {text : List Char} {parts : List (List Char)}
    (cuts : Cuts same mark text parts) : cutAt same mark text = parts := by
  induction cuts with
  | whole free => exact cutAt_of_not_occurs free
  | cut present spelled leftmost later induction =>
      rw [cutAt_of_leftmost present spelled leftmost, induction]

theorem cuts_cutAt (text : List Char) : Cuts same mark text (cutAt same mark text) := by
  by_cases occurs : Occurs same mark text
  · obtain ⟨before, written, rest, rfl, spelled, leftmost⟩ := occurs.exists_leftmost
    have shorter : rest.length < (before ++ written ++ rest).length := by
      have positive := List.length_pos_iff.mpr occurs.1
      rw [List.length_append, List.length_append, spelled.length_eq]
      omega
    rw [cutAt_of_leftmost occurs.1 spelled leftmost]
    exact .cut occurs.1 spelled leftmost (cuts_cutAt rest)
  · rw [cutAt_of_not_occurs occurs]
    exact .whole occurs
termination_by text.length

theorem exists_cutAt_eq_cons (text : List Char) :
    ∃ head others, cutAt same mark text = head :: others := by
  have cuts : Cuts same mark text (cutAt same mark text) := cuts_cutAt text
  generalize cutAt same mark text = parts at cuts
  cases cuts with
  | whole => exact ⟨_, _, rfl⟩
  | cut => exact ⟨_, _, rfl⟩

/-- There is one way to cut a text, and `cutAt` finds it. -/
theorem cuts_iff {text : List Char} {parts : List (List Char)} :
    Cuts same mark text parts ↔ cutAt same mark text = parts :=
  ⟨Cuts.cutAt_eq, fun equal => equal ▸ cuts_cutAt text⟩

/-- The stretches are parts of the text in which the mark does not stand. -/
theorem Cuts.infix_and_free {text : List Char} {parts : List (List Char)}
    (cuts : Cuts same mark text parts) {part : List Char} (member : part ∈ parts) :
    part <:+: text ∧ ¬ Occurs same mark part := by
  induction cuts with
  | whole free =>
      obtain rfl := List.mem_singleton.mp member
      exact ⟨List.infix_refl _, free⟩
  | @cut before written rest parts present spelled leftmost later induction =>
      rcases List.mem_cons.mp member with rfl | behind
      · refine ⟨⟨[], written ++ rest, by simp⟩, fun early => leftmost ?_⟩
        exact early.of_infix (List.prefix_append part _).isInfix
      · obtain ⟨inside, free⟩ := induction behind
        exact ⟨inside.trans (List.suffix_append _ rest).isInfix, free⟩

end ColumnFilter.Text
