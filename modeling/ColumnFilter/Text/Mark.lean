/-!
# Marks

A mark is found at the front of a text when the characters there agree with it one
by one.  What counts as agreement is left to the caller, and an empty mark is
nowhere.
-/

namespace ColumnFilter.Text

/-- The part of a text that spells `letters`, as it is written, and what follows. -/
def takeLetters? (same : Char → Char → Bool) :
    (letters text : List Char) → Option (List Char × List Char)
  | [], text => some ([], text)
  | _ :: _, [] => none
  | letter :: letters, c :: text =>
      if same c letter then
        (takeLetters? same letters text).map fun (written, rest) => (c :: written, rest)
      else none

/-- A mark at the start of a text, as it is written there, and what follows. -/
def takeMark? (same : Char → Char → Bool) (mark text : List Char) :
    Option (List Char × List Char) :=
  if mark.isEmpty then none else takeLetters? same mark text

theorem takeLetters?_length {same : Char → Char → Bool} {letters text written rest : List Char}
    (taken : takeLetters? same letters text = some (written, rest)) :
    rest.length + letters.length = text.length := by
  induction letters generalizing text written rest with
  | nil =>
      simp only [takeLetters?, Option.some.injEq, Prod.mk.injEq] at taken
      simp [taken.2]
  | cons letter letters induction =>
      cases text with
      | nil => simp [takeLetters?] at taken
      | cons c text =>
          simp only [takeLetters?] at taken
          split at taken
          · obtain ⟨⟨written', rest'⟩, inner, equal⟩ := Option.map_eq_some_iff.1 taken
            simp only [Prod.mk.injEq] at equal
            have := induction inner
            simp [← equal.2]
            omega
          · simp at taken

theorem takeMark?_length {same : Char → Char → Bool} {mark text written rest : List Char}
    (taken : takeMark? same mark text = some (written, rest)) :
    rest.length < text.length := by
  unfold takeMark? at taken
  by_cases nonempty : mark.isEmpty
  · rw [if_pos nonempty] at taken
    simp at taken
  · rw [if_neg nonempty] at taken
    have := takeLetters?_length taken
    cases mark with
    | nil => simp at nonempty
    | cons letter letters => simp at this; omega

end ColumnFilter.Text
