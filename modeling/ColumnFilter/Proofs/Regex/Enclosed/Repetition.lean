import ColumnFilter.Proofs.Regex.Enclosed.Bracket
import ColumnFilter.Regex.Pattern

/-!
# Repetitions in an enclosed pattern

A repetition without numbers ends at its sign, one with numbers at its closing brace.
Either may be followed by a question mark, which what stands behind the pattern does not
begin with.
-/

namespace ColumnFilter.Regex

open Text (Scan)

variable {flags flags' : Flags} {input behind rest rest' : List Char}

/-- The names of groups that were known stand for the same groups. -/
def Remembers (before after : Progress) : Prop :=
  ∀ name index, before.names.lookup name = some index → after.names.lookup name = some index

theorem remembers_of_eq {before after : Progress} (names : after.names = before.names) :
    Remembers before after := by
  intro name index known
  rw [names]
  exact known

theorem remembers_of_cons {before after : Progress} {name : String} {index : Nat}
    (names : after.names = (name, index) :: before.names)
    (fresh : (before.names.lookup name).isSome = false) : Remembers before after := by
  intro other index' known
  rw [names, List.lookup_cons]
  by_cases same : other = name
  · subst same
    rw [known] at fresh
    contradiction
  · rw [beq_false_of_ne same]
    exact known

theorem Remembers.trans {before middle after : Progress} (first : Remembers before middle)
    (second : Remembers middle after) : Remembers before after := by
  intro name index known
  exact second name index (first name index known)

/-- Neither flags nor groups change. -/
structure Keeps (before after : Progress) : Prop where
  flags : after.flags = before.flags
  groups : after.groups = before.groups
  names : after.names = before.names

theorem keeps_of_repeatLast {before after : Progress} {low : Nat} {high : Option Nat}
    {greedy : Bool} (repeated : before.repeatLast low high greedy = .ok after) :
    Keeps before after := by
  unfold Progress.repeatLast at repeated
  split at repeated
  · simp at repeated
  · split at repeated
    · simp at repeated
    · rw [Except.ok.injEq] at repeated
      subst repeated
      exact ⟨rfl, rfl, rfl⟩

theorem takeLazy_continues {extended : Bool} (input : List Char) :
    Continues extended (fun _ text rest => (takeLazy text).rest = rest) input
      (takeLazy input).rest := by
  apply Continues.of_append
  intro _ behind rest' _ paren reads
  obtain ⟨tail, rfl⟩ := List.head?_eq_some_iff.mp paren
  rw [← reads]
  cases input with
  | nil => rfl
  | cons c text =>
      by_cases mark : c = '?'
      · subst mark
        rfl
      · simp [takeLazy, mark]

theorem takeLazy_of_head {text : List Char} (plain : text.head? ≠ some '?') :
    takeLazy text = .stay false text := by
  unfold takeLazy
  split
  · simp at plain
  · rfl

theorem repeatLast_of_takeRepetition {progress : Progress} {low : Nat} {high : Option Nat}
    {scan : Scan Progress input} (read : takeRepetition progress low high input = .ok scan) :
    ∃ greedy, progress.repeatLast low high greedy = .ok scan.value ∧
      (takeLazy input).rest = scan.rest := by
  obtain ⟨after, repeated, rfl⟩ := Except.exists_of_map_eq_ok read
  exact ⟨_, repeated, rfl⟩

theorem takeSpace_append {text : List Char} (present : (takeSpace text).rest ≠ []) :
    (takeSpace (text ++ behind)).rest = (takeSpace text).rest ++ behind := by
  induction text with
  | nil => exact absurd rfl present
  | cons c text induction =>
      simp only [List.cons_append, takeSpace] at present ⊢
      by_cases space : Text.isSpace c
      · rw [if_pos space] at present
        rw [if_pos space, if_pos space]
        exact induction present
      · rw [if_neg space] at present
        rw [if_neg space, if_neg space]
        rfl

theorem takeCountDigits_append (same : flags'.extended = flags.extended) {acc : Option Nat}
    {text : List Char} (present : (takeCountDigits flags acc text).rest ≠ []) :
    (takeCountDigits flags' acc (text ++ behind)).rest =
      (takeCountDigits flags acc text).rest ++ behind := by
  induction text generalizing acc with
  | nil => exact absurd rfl present
  | cons c text induction =>
      simp only [List.cons_append, takeCountDigits, same] at present ⊢
      by_cases digit : '0' ≤ c ∧ c ≤ '9'
      · rw [if_pos digit] at present
        rw [if_pos digit, if_pos digit]
        exact induction present
      · rw [if_neg digit] at present
        rw [if_neg digit, if_neg digit]
        by_cases ignored : flags.extended && acc.isSome && Text.isSpace c
        · rw [if_pos ignored] at present
          rw [if_pos ignored, if_pos ignored]
          exact induction present
        · rw [if_neg ignored] at present
          rw [if_neg ignored, if_neg ignored]
          rfl

/-- What is left behind a number of rounds and the white space around it. -/
def behindCount (flags : Flags) (text : List Char) : List Char :=
  (skipIgnored flags
    (takeSpace (takeCountDigits flags none (takeSpace text).rest).rest).rest).rest

theorem leaves_takeCount (leaves : Leaves (takeCount flags input) rest) :
    behindCount flags input = rest := by
  unfold takeCount at leaves
  extract_lets before digits after next at leaves
  have stops : next.rest = rest := by
    split at leaves
    · simpa using leaves
    · split at leaves
      · simpa using leaves
      · simp at leaves
  exact stops

theorem skipIgnored_nil (flags : Flags) : (skipIgnored flags []).rest = [] :=
  List.length_eq_zero_iff.mp (Nat.le_zero.mp (skipIgnored flags []).bounded)

theorem behindCount_nil (flags : Flags) : behindCount flags [] = [] := skipIgnored_nil flags

theorem behindCount_append (same : flags'.extended = flags.extended)
    (paren : behind.head? = some ')') (present : behindCount flags input ≠ []) :
    behindCount flags' (input ++ behind) = behindCount flags input ++ behind := by
  unfold behindCount at present ⊢
  have after : (takeSpace (takeCountDigits flags none (takeSpace input).rest).rest).rest ≠ [] := by
    intro vacant
    rw [vacant] at present
    exact present (skipIgnored_nil flags)
  have digits : (takeCountDigits flags none (takeSpace input).rest).rest ≠ [] := by
    intro vacant
    rw [vacant] at after
    exact after rfl
  have before : (takeSpace input).rest ≠ [] := by
    intro vacant
    rw [vacant] at digits
    exact digits rfl
  rw [takeSpace_append before, takeCountDigits_append same digits, takeSpace_append after]
  exact (skipping_continues flags _).eq_append present same paren rfl

/-- The end of a counted repetition. -/
def closing : Reading := fun flags text rest =>
  ∃ inner, text = '\x7d' :: inner ∧ (takeLazy (skipIgnored flags inner).rest).rest = rest

theorem keeps_of_closeCounted {progress : Progress} {low : Nat} {high : Option Nat}
    {scan : Scan Progress input} (read : closeCounted progress low high input = .ok scan) :
    Keeps progress scan.value ∧ closing progress.flags input scan.rest := by
  cases input with
  | nil => simp [closeCounted] at read
  | cons c inner =>
      by_cases brace : c = '\x7d'
      · subst brace
        simp only [closeCounted] at read
        by_cases crossed : high.any (· < low)
        · rw [if_pos crossed] at read
          simp at read
        · rw [if_neg crossed] at read
          obtain ⟨after, repeated, rfl⟩ := Except.exists_of_map_eq_ok read
          exact ⟨keeps_of_repeatLast repeated, inner, rfl, rfl⟩
      · simp [closeCounted, brace] at read

theorem closing_continues (reads : closing flags input rest) :
    Continues flags.extended closing input rest := by
  obtain ⟨inner, rfl, rfl⟩ := reads
  have marks := (skipping_continues flags inner).trans
    (takeLazy_continues (skipIgnored flags inner).rest) (by
      intro vacant
      rw [vacant]
      refine ⟨rfl, ?_⟩
      intro _ text rest' _ plain reads
      rw [← reads, takeLazy_of_head plain, Scan.rest_stay])
  apply marks.mono
  rintro flags' behind rest' _ _ ⟨inner', shape, reads'⟩
  obtain rfl : inner ++ behind = inner' := by simpa using shape
  exact ⟨_, rfl, reads'⟩

/-- Where the closing brace has to stand behind a comma, with or without a number. -/
def behindComma (flags : Flags) (text : List Char) : List Char :=
  let high := (skipIgnored flags text).rest
  if high.head? = some '\x7d' then high else behindCount flags high

/-- Where the closing brace of a counted repetition has to stand. -/
def behindNumbers (flags : Flags) (text : List Char) : List Char :=
  match behindCount flags (skipIgnored flags text).rest with
  | ',' :: text => behindComma flags text
  | low => low

theorem keeps_of_takeCounted {progress : Progress} {scan : Scan Progress input}
    (read : takeCounted progress input = .ok scan) :
    Keeps progress scan.value ∧
      closing progress.flags (behindNumbers progress.flags input) scan.rest := by
  revert read
  fun_cases takeCounted progress input with
  | case1 | case2 | case4 | case5 => simp
  | case3 start _ low first _ count text comma _ next _ _ brace =>
      intro read
      obtain ⟨inner, closed, rfl⟩ := Except.exists_of_map_eq_ok read
      rw [behindNumbers, leaves_takeCount ⟨low, first, rfl⟩, comma]
      simp only [behindComma]
      rw [if_pos brace]
      exact keeps_of_closeCounted closed
  | case6 start _ low first _ count text comma _ next _ _ digit high second bound _ _ =>
      intro read
      obtain ⟨inner, closed, rfl⟩ := Except.exists_of_map_eq_ok read
      rw [behindNumbers, leaves_takeCount ⟨low, first, rfl⟩, comma]
      simp only [behindComma]
      rw [if_neg digit, leaves_takeCount ⟨high, second, rfl⟩]
      exact keeps_of_closeCounted closed
  | case7 start _ low first _ count _ noComma =>
      intro read
      obtain ⟨inner, closed, rfl⟩ := Except.exists_of_map_eq_ok read
      have numbers : behindNumbers progress.flags input = low.rest := by
        rw [behindNumbers, leaves_takeCount ⟨low, first, rfl⟩]
        cases shape : low.rest with
        | nil => rfl
        | cons c text =>
            have other : c ≠ ',' := by
              rintro rfl
              exact noComma text shape
            simp [other]
      rw [numbers]
      exact keeps_of_closeCounted closed

theorem behindComma_append (same : flags'.extended = flags.extended)
    (paren : behind.head? = some ')') (present : behindComma flags input ≠ []) :
    behindComma flags' (input ++ behind) = behindComma flags input ++ behind := by
  unfold behindComma at present ⊢
  have visible : (skipIgnored flags input).rest ≠ [] := by
    intro vacant
    rw [vacant] at present
    exact present (behindCount_nil flags)
  rw [(skipping_continues flags input).eq_append visible same paren rfl]
  obtain ⟨c, text, shape⟩ := List.exists_cons_of_ne_nil visible
  simp only [shape, List.cons_append, List.head?_cons] at present ⊢
  by_cases brace : some c = some '\x7d'
  · rw [if_pos brace] at present
    rw [if_pos brace, if_pos brace, List.cons_append]
  · rw [if_neg brace] at present
    rw [if_neg brace, if_neg brace, ← List.cons_append]
    exact behindCount_append same paren present

theorem behindNumbers_append (same : flags'.extended = flags.extended)
    (paren : behind.head? = some ')') (present : behindNumbers flags input ≠ []) :
    behindNumbers flags' (input ++ behind) = behindNumbers flags input ++ behind := by
  unfold behindNumbers at present ⊢
  have low : behindCount flags (skipIgnored flags input).rest ≠ [] := by
    intro vacant
    simp [vacant] at present
  have visible : (skipIgnored flags input).rest ≠ [] := by
    intro vacant
    rw [vacant] at low
    exact low (behindCount_nil flags)
  rw [(skipping_continues flags input).eq_append visible same paren rfl,
    behindCount_append same paren low]
  obtain ⟨c, text, shape⟩ := List.exists_cons_of_ne_nil low
  rw [shape] at present ⊢
  by_cases comma : c = ','
  · subst comma
    exact behindComma_append same paren present
  · simp [comma]

theorem takeCounted_continues (reads : closing flags (behindNumbers flags input) rest) :
    Continues flags.extended (fun flags text => closing flags (behindNumbers flags text))
      input rest := by
  have present : behindNumbers flags input ≠ [] := by
    obtain ⟨inner, shape, -⟩ := reads
    simp [shape]
  apply (closing_continues reads).mono
  intro flags' behind rest' same paren reads'
  rwa [behindNumbers_append same paren present] at reads'

end ColumnFilter.Regex
