import ColumnFilter.Text.Trim

/-!
# Texts that trimming leaves alone

A text is tight when it has a first and a last character and neither is white
space.  Trimming changes no such text, and what is put between two of them does
not matter.
-/

namespace ColumnFilter.Text

/-- The text begins and ends with a character that is no white space. -/
structure Tight (text : List Char) : Prop where
  first : ∃ c ∈ text.head?, isSpace c = false
  last : ∃ c ∈ text.getLast?, isSpace c = false

theorem trimStart_of_head {text : List Char} (visible : ∀ c ∈ text.head?, isSpace c = false) :
    trimStart text = text := by
  cases text with
  | nil => rfl
  | cons c text =>
      have shown := visible c rfl
      rw [trimStart, List.dropWhile_cons, if_neg]
      simp [shown]

theorem head_of_trimStart {text : List Char} (kept : trimStart text = text) :
    ∀ c ∈ text.head?, isSpace c = false := by
  intro c first
  cases text with
  | nil => simp at first
  | cons other text =>
      obtain rfl : other = c := by simpa using first
      rw [trimStart, List.dropWhile_cons] at kept
      split at kept
      · have shorter := (List.dropWhile_suffix (p := isSpace) (l := text)).length_le
        rw [kept, List.length_cons] at shorter
        omega
      · simpa using ‹¬isSpace other = true›

namespace Tight

theorem of_visible {text : List Char} (present : text ≠ [])
    (visible : ∀ c ∈ text, isSpace c = false) : Tight text :=
  ⟨⟨text.head present, List.head?_eq_some_head present, visible _ (List.head_mem present)⟩,
    text.getLast present, List.getLast?_eq_some_getLast present,
    visible _ (List.getLast_mem present)⟩

theorem ne_nil {text : List Char} (tight : Tight text) : text ≠ [] := by
  intro vacant
  obtain ⟨c, first, -⟩ := tight.first
  simp [vacant] at first

theorem of_ends {text : List Char} (present : text ≠ [])
    (first : ∀ c ∈ text.head?, isSpace c = false)
    (last : ∀ c ∈ text.getLast?, isSpace c = false) : Tight text :=
  ⟨⟨text.head present, List.head?_eq_some_head present, first _ (List.head?_eq_some_head present)⟩,
    text.getLast present, List.getLast?_eq_some_getLast present,
    last _ (List.getLast?_eq_some_getLast present)⟩

theorem of_mem_head? {text : List Char} (tight : Tight text) :
    ∀ c ∈ text.head?, isSpace c = false := by
  intro c here
  obtain ⟨first, atFront, visible⟩ := tight.first
  rwa [← Option.mem_unique atFront here]

theorem of_mem_getLast? {text : List Char} (tight : Tight text) :
    ∀ c ∈ text.getLast?, isSpace c = false := by
  intro c here
  obtain ⟨last, atBack, visible⟩ := tight.last
  rwa [← Option.mem_unique atBack here]

theorem trim_eq {text : List Char} (tight : Tight text) : trim text = text := by
  have front : trimStart text = text := trimStart_of_head tight.of_mem_head?
  have back : trimStart text.reverse = text.reverse := by
    apply trimStart_of_head
    rw [List.head?_reverse]
    exact tight.of_mem_getLast?
  rw [trim, front, trimEnd, back, List.reverse_reverse]

theorem of_trim {text : List Char} (trimmed : trim text = text) (present : text ≠ []) :
    Tight text := by
  have shorter : (trimEnd (trimStart text)).length ≤ (trimStart text).length := by
    have bound := (List.dropWhile_suffix (p := isSpace) (l := (trimStart text).reverse)).length_le
    simpa [trimEnd, trimStart] using bound
  have front : trimStart text = text := by
    apply (List.dropWhile_suffix isSpace).eq_of_length_le
    have total := congrArg List.length trimmed
    rw [trim] at total
    rw [← total]
    exact shorter
  have back : trimStart text.reverse = text.reverse := by
    rw [trim, front, trimEnd] at trimmed
    exact List.reverse_eq_iff.mp trimmed
  obtain ⟨first, atFront⟩ := Option.isSome_iff_exists.mp (List.isSome_head?.mpr present)
  obtain ⟨last, atBack⟩ := Option.isSome_iff_exists.mp (List.getLast?_isSome.mpr present)
  refine ⟨⟨first, atFront, head_of_trimStart front first atFront⟩, last, atBack, ?_⟩
  apply head_of_trimStart back
  rw [List.head?_reverse]
  exact atBack

theorem singleton {c : Char} (visible : isSpace c = false) : Tight [c] :=
  ⟨⟨c, rfl, visible⟩, c, rfl, visible⟩

/-- The ends of a longer text are those of its outer parts. -/
theorem surround {front back : List Char} (tight : Tight front) (tight' : Tight back)
    (middle : List Char) : Tight (front ++ middle ++ back) := by
  obtain ⟨first, atFront, visible⟩ := tight.first
  obtain ⟨last, atBack, visible'⟩ := tight'.last
  refine ⟨⟨first, ?_, visible⟩, last, ?_, visible'⟩
  · rw [List.append_assoc, List.head?_append, Option.mem_def.mp atFront]
    rfl
  · rw [List.getLast?_append, Option.mem_def.mp atBack]
    rfl

theorem intercalate {separator : List Char} {parts : List (List Char)} (present : parts ≠ [])
    (tight : ∀ part ∈ parts, Tight part) : Tight (separator.intercalate parts) := by
  induction parts with
  | nil => exact absurd rfl present
  | cons part parts induction =>
      cases parts with
      | nil => simpa using tight part List.mem_cons_self
      | cons other parts =>
          rw [List.intercalate_cons_cons]
          apply surround (tight part List.mem_cons_self)
          apply induction (List.cons_ne_nil other parts)
          intro later member
          exact tight later (List.mem_cons_of_mem part member)

end Tight

end ColumnFilter.Text
