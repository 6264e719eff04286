import ColumnFilter.Proofs.Segment.Trimming

/-!
# Reading marks of one character

How one pass of the splitting reads a text whose delimiter and escape are single
characters.  What a stretch of text is read as does not depend on what follows it,
so stretches can be put together, and delimiters between them cut exactly there.
-/

namespace ColumnFilter

namespace Text

theorem sameLetter_iff {left right : Char} :
    sameLetter left right = true ↔ lowerChar left = lowerChar right := by
  rw [sameLetter, Bool.or_eq_true, beq_iff_eq, beq_iff_eq]
  constructor
  · rintro (rfl | same)
    · rfl
    · exact same
  · exact Or.inr

theorem sameLetter_self (c : Char) : sameLetter c c = true := sameLetter_iff.mpr rfl

theorem sameLetter_comm (left right : Char) : sameLetter left right = sameLetter right left := by
  rw [Bool.eq_iff_iff, sameLetter_iff, sameLetter_iff, eq_comm]

/-- Characters that agree are told apart from the same characters. -/
theorem sameLetter_congr {left right : Char} (same : sameLetter left right = true) (c : Char) :
    sameLetter left c = sameLetter right c := by
  rw [Bool.eq_iff_iff, sameLetter_iff, sameLetter_iff, sameLetter_iff.mp same]

end Text

namespace Segment

open Text (sameLetter sameLetter_self sameLetter_comm sameLetter_congr Tight)

theorem takeMark?_cons (mark c : Char) (text : List Char) :
    takeMark? [mark] (c :: text) = if sameLetter c mark then some ([c], text) else none := by
  cases same : sameLetter c mark <;> simp [takeMark?, Text.takeMark?, Text.takeLetters?, same]

theorem pieces_of_escape {mode : EscapeMode} {marks : Marks} {c : Char}
    {text written rest : List Char}
    (escaped : takeEscape? mode marks (c :: text) = some (written, rest)) :
    pieces mode marks (c :: text) = .text written :: pieces mode marks rest := by
  rw [pieces]
  split <;> simp_all

theorem pieces_of_unescaped {mode : EscapeMode} {marks : Marks} {c : Char} {text : List Char}
    (unescaped : takeEscape? mode marks (c :: text) = none) :
    pieces mode marks (c :: text) =
      match takeMark? marks.delimiter (c :: text) with
      | some (_, rest) => .cut :: pieces mode marks rest
      | none => .text [c] :: pieces mode marks text := by
  rw [pieces]
  split
  · simp_all
  · split <;> simp_all

/-- Whatever follows, `written` is read as `meant` and not cut. -/
def Reads (mode : EscapeMode) (marks : Marks) (written meant : List Char) : Prop :=
  ∀ rest, stretches (pieces mode marks (written ++ rest)) =
    (meant ++ (stretches (pieces mode marks rest)).1, (stretches (pieces mode marks rest)).2)

namespace Reads

variable {mode : EscapeMode} {marks : Marks} {written meant written' meant' : List Char}

theorem nil : Reads mode marks [] [] := fun _ => rfl

theorem append (front : Reads mode marks written meant)
    (back : Reads mode marks written' meant') :
    Reads mode marks (written ++ written') (meant ++ meant') := by
  intro rest
  rw [List.append_assoc, front, back, List.append_assoc]

theorem flatMap {α : Type} {items : List α} {write mean : α → List Char}
    (reads : ∀ item ∈ items, Reads mode marks (write item) (mean item)) :
    Reads mode marks (items.flatMap write) (items.flatMap mean) := by
  induction items with
  | nil => exact nil
  | cons item items induction =>
      rw [List.flatMap_cons, List.flatMap_cons]
      apply append (reads item List.mem_cons_self)
      apply induction
      intro other member
      exact reads other (List.mem_cons_of_mem item member)

theorem intercalate {α : Type} {items : List α} {write mean : α → List Char}
    {separator separator' : List Char} (between : Reads mode marks separator separator')
    (reads : ∀ item ∈ items, Reads mode marks (write item) (mean item)) :
    Reads mode marks (separator.intercalate (items.map write))
      (separator'.intercalate (items.map mean)) := by
  induction items with
  | nil => exact nil
  | cons item items induction =>
      have here := reads item List.mem_cons_self
      have there := induction fun other member => reads other (List.mem_cons_of_mem item member)
      cases items with
      | nil => simpa using here
      | cons other items =>
          rw [List.map_cons, List.map_cons, List.map_cons, List.map_cons,
            List.intercalate_cons_cons, List.intercalate_cons_cons]
          exact (here.append between).append there

end Reads

section Letters

variable {mode : EscapeMode} {delimiter escape mark c : Char}

theorem reads_plain (free : sameLetter c delimiter = false) (bare : sameLetter c escape = false) :
    Reads mode ⟨[delimiter], [escape]⟩ [c] [c] := by
  intro rest
  have unescaped : takeEscape? mode ⟨[delimiter], [escape]⟩ (c :: rest) = none := by
    simp [takeEscape?, takeMark?_cons, bare]
  rw [List.singleton_append, pieces_of_unescaped unescaped]
  simp [takeMark?_cons, free, stretches]

/-- The first pass takes away the escape of a delimiter; every other one is kept for the
second pass. -/
theorem reads_escaped_keep (different : sameLetter delimiter escape = false)
    (escaping : sameLetter mark escape = true) (c : Char) :
    Reads .keep ⟨[delimiter], [escape]⟩ [mark, c]
      (if sameLetter c delimiter then [c] else [mark, c]) := by
  intro rest
  rw [List.cons_append, List.singleton_append]
  cases marked : sameLetter c delimiter with
  | true =>
      have bare : sameLetter c escape = false := by rw [sameLetter_congr marked, different]
      have escaped : takeEscape? .keep ⟨[delimiter], [escape]⟩ (mark :: c :: rest) =
          some ([c], rest) := by
        simp [takeEscape?, takeMark?_cons, escaping, bare, marked]
      rw [pieces_of_escape escaped]
      rfl
  | false =>
      cases bare : sameLetter c escape with
      | true =>
          have escaped : takeEscape? .keep ⟨[delimiter], [escape]⟩ (mark :: c :: rest) =
              some ([mark, c], rest) := by
            simp [takeEscape?, takeMark?_cons, escaping, bare]
          rw [pieces_of_escape escaped]
          rfl
      | false =>
          have unescaped : takeEscape? .keep ⟨[delimiter], [escape]⟩ (mark :: c :: rest) =
              none := by
            simp [takeEscape?, takeMark?_cons, escaping, marked, bare]
          have uncut : sameLetter mark delimiter = false := by
            rw [sameLetter_congr escaping, sameLetter_comm, different]
          have plain : Reads .keep ⟨[delimiter], [escape]⟩ [c] [c] := reads_plain marked bare
          have plain := plain rest
          rw [List.singleton_append] at plain
          rw [pieces_of_unescaped unescaped]
          simp [takeMark?_cons, uncut, stretches, plain]

/-- In the second pass an escape makes what follows it text, whatever it is. -/
theorem reads_escaped_resolve (escaping : sameLetter mark escape = true) (c : Char) :
    Reads .resolve ⟨[delimiter], [escape]⟩ [mark, c] [c] := by
  intro rest
  rw [List.cons_append, List.singleton_append]
  cases bare : sameLetter c escape with
  | true =>
      have escaped : takeEscape? .resolve ⟨[delimiter], [escape]⟩ (mark :: c :: rest) =
          some ([c], rest) := by
        simp [takeEscape?, takeMark?_cons, escaping, bare]
      rw [pieces_of_escape escaped]
      rfl
  | false =>
      cases marked : sameLetter c delimiter with
      | true =>
          have escaped : takeEscape? .resolve ⟨[delimiter], [escape]⟩ (mark :: c :: rest) =
              some ([c], rest) := by
            simp [takeEscape?, takeMark?_cons, escaping, bare, marked]
          rw [pieces_of_escape escaped]
          rfl
      | false =>
          have dropped : takeEscape? .resolve ⟨[delimiter], [escape]⟩ (mark :: c :: rest) =
              some ([], c :: rest) := by
            simp [takeEscape?, takeMark?_cons, escaping, bare, marked]
          rw [pieces_of_escape dropped]
          exact reads_plain marked bare rest

theorem stretches_cut (different : sameLetter delimiter escape = false)
    (cutting : sameLetter c delimiter = true) (rest : List Char) :
    stretches (pieces mode ⟨[delimiter], [escape]⟩ (c :: rest)) =
      ([], (stretches (pieces mode ⟨[delimiter], [escape]⟩ rest)).1 ::
        (stretches (pieces mode ⟨[delimiter], [escape]⟩ rest)).2) := by
  have bare : sameLetter c escape = false := by rw [sameLetter_congr cutting, different]
  have unescaped : takeEscape? mode ⟨[delimiter], [escape]⟩ (c :: rest) = none := by
    simp [takeEscape?, takeMark?_cons, bare]
  rw [pieces_of_unescaped unescaped]
  simp [takeMark?_cons, cutting, stretches]

/-- Tight texts with delimiters between them are split into what they are read as. -/
theorem splitOn_intercalate {α : Type} {items : List α} {write mean : α → List Char}
    (different : sameLetter delimiter escape = false)
    (reads : ∀ item ∈ items, Reads mode ⟨[delimiter], [escape]⟩ (write item) (mean item))
    (tight : ∀ item ∈ items, Tight (mean item)) :
    splitOn mode ⟨[delimiter], [escape]⟩ ([delimiter].intercalate (items.map write)) =
      items.map mean := by
  have cut : ∀ (item : α) (others : List α),
      (∀ other ∈ item :: others, Reads mode ⟨[delimiter], [escape]⟩ (write other) (mean other)) →
      stretches (pieces mode ⟨[delimiter], [escape]⟩
        ([delimiter].intercalate ((item :: others).map write))) =
          (mean item, others.map mean) := by
    intro item others
    induction others generalizing item with
    | nil =>
        intro reads
        have alone := reads item List.mem_cons_self []
        simpa [pieces, stretches] using alone
    | cons other others induction =>
        intro reads
        have later := induction other fun next member =>
          reads next (List.mem_cons_of_mem item member)
        rw [List.map_cons, List.map_cons, List.intercalate_cons_cons, List.append_assoc,
          reads item List.mem_cons_self, List.singleton_append,
          stretches_cut different (sameLetter_self delimiter), ← List.map_cons, later]
        simp
  cases items with
  | nil => simp [splitOn, pieces, stretches, trimAll, Text.trim, Text.trimEnd, Text.trimStart]
  | cons item others =>
      have parts := cut item others reads
      rw [splitOn, if_neg (by simp), parts]
      apply trimAll_of_tight
      intro text member
      rw [← List.map_cons, List.mem_map] at member
      obtain ⟨next, listed, rfl⟩ := member
      exact tight next listed

end Letters

end Segment

end ColumnFilter
