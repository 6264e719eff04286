import Mathlib.Data.List.Forall2
import ColumnFilter.Proofs.Regex.Anchored

/-!
# Letters whatever their case

Where case is ignored, an escaped text is read as one set for each of its characters.  It
captures the texts that are spelled alike but for case.
-/

namespace ColumnFilter.Regex

open Text (Scan)

/-- A character, or one that differs from it by case only. -/
def letter (c : Char) : Regex := .set (.single true c)

/-- Patterns are added to the branch that is being read, and nothing else changes. -/
def Appends (regexes : List Regex) (before after : Progress) : Prop :=
  ∃ items, items.map Item.regex = regexes.reverse ∧
    after = { before with level := { before.level with items := items ++ before.level.items } }

variable {regexes regexes' : List Regex} {before middle after : Progress} {input behind : List Char}

theorem Appends.adds (appends : Appends regexes before after) : Adds before after := by
  obtain ⟨items, -, equal⟩ := appends
  exact ⟨items, equal⟩

theorem Appends.refl (progress : Progress) : Appends [] progress progress := ⟨[], rfl, rfl⟩

theorem Appends.trans (first : Appends regexes before middle)
    (second : Appends regexes' middle after) : Appends (regexes ++ regexes') before after := by
  obtain ⟨items, same, rfl⟩ := first
  obtain ⟨later, same', rfl⟩ := second
  exact ⟨later ++ items, by simp [same, same'], by rw [List.append_assoc]⟩

theorem appends_push (progress : Progress) (item : Item) :
    Appends [item.regex] progress (progress.push item) := ⟨[item], rfl, rfl⟩

theorem takeItem_letter {c : Char} (insensitive : before.flags = .insensitive)
    (plain : isMeta c = false) {scan : Scan Progress input}
    (read : takeItem before c input = .ok scan) :
    scan.value = before.push (.plain (letter c)) ∧ scan.rest = input := by
  unfold takeItem at read
  simp only at read
  split at read
  -- The last case is that of all characters which mean themselves.
  case h_13 =>
    rw [insensitive] at read
    obtain rfl := Except.ok.inj read
    exact ⟨rfl, rfl⟩
  all_goals exact absurd rfl (ne_of_isMeta plain (by decide))

theorem takeItem_escaped_letter {c : Char} (insensitive : before.flags = .insensitive)
    (special : isMeta c = true) {scan : Scan Progress (c :: input)}
    (read : takeItem before '\\' (c :: input) = .ok scan) :
    scan.value = before.push (.plain (letter c)) ∧ scan.rest = input := by
  simp only [takeItem, takeEscape_of_isMeta special] at read
  rw [insensitive] at read
  obtain rfl := Except.ok.inj read
  exact ⟨rfl, rfl⟩

theorem takeItems_letters {text : List Char} (insensitive : before.flags = .insensitive)
    (read : takeItems before (Pattern.escape text ++ behind) = .ok after) :
    ∃ middle, Appends (text.map letter) before middle ∧ takeItems middle behind = .ok after := by
  induction text generalizing before with
  | nil => exact ⟨before, .refl before, read⟩
  | cons c text induction =>
      have visible : ∀ d, ¬(before.flags.extended && (Text.isSpace d || d == '#')) = true := by
        rw [insensitive]
        exact fun _ => Bool.false_ne_true
      have pushed : ∀ {next : Progress}, next = before.push (.plain (letter c)) →
          takeItems next (Pattern.escape text ++ behind) = .ok after →
          ∃ middle, Appends ((c :: text).map letter) before middle ∧
            takeItems middle behind = .ok after := by
        rintro _ rfl later
        have kept : (before.push (.plain (letter c))).flags = .insensitive := insensitive
        have appends : Appends [letter c] before (before.push (.plain (letter c))) :=
          appends_push before (.plain (letter c))
        obtain ⟨middle, appends', later⟩ := induction kept later
        exact ⟨middle, appends.trans appends', later⟩
      cases special : isMeta c with
      | true =>
          rw [escape_special special] at read
          obtain ⟨scan, taken, later⟩ := takeItems_item (visible _) read
          obtain ⟨value, left⟩ := takeItem_escaped_letter insensitive special taken
          rw [left] at later
          exact pushed value later
      | false =>
          rw [escape_plain special] at read
          obtain ⟨scan, taken, later⟩ := takeItems_item (visible _) read
          obtain ⟨value, left⟩ := takeItem_letter insensitive special taken
          rw [left] at later
          exact pushed value later

/-- The letters are those of the mark, but for case. -/
abbrev Spelled (mark letters : List Char) : Prop :=
  List.Forall₂ (fun c d => d ∈ Text.foldClass c) mark letters

theorem spelled_cons {c : Char} {mark letters : List Char} :
    Spelled (c :: mark) letters ↔
      ∃ d rest, d ∈ Text.foldClass c ∧ Spelled mark rest ∧ letters = d :: rest :=
  List.forall₂_cons_left_iff

/-- Signs that have no case are spelled in one way only. -/
theorem spelled_iff_eq {mark letters : List Char} (caseless : ∀ c ∈ mark, Text.foldClass c = [c]) :
    Spelled mark letters ↔ letters = mark := by
  induction mark generalizing letters with
  | nil => exact List.forall₂_nil_left_iff
  | cons c mark induction =>
      obtain ⟨single, later⟩ := List.forall_mem_cons.mp caseless
      rw [spelled_cons, single]
      constructor
      · rintro ⟨d, rest, member, spelled, rfl⟩
        rw [List.mem_singleton.mp member, (induction later).mp spelled]
      · rintro rfl
        exact ⟨c, mark, List.mem_singleton_self c, (induction later).mpr rfl, rfl⟩

theorem captures_letter {c : Char} {before matched after : List Char} {marks marks' : Marks} :
    (letter c).Captures before matched after marks marks' ↔
      marks' = marks ∧ ∃ d ∈ Text.foldClass c, matched = [d] := by
  have plain : (letter c).Plain := trivial
  rw [captures_iff_matches plain, letter, matches_set]
  simp [CharSet.contains, CharSet.single, and_comm]

theorem captures_letters {mark : List Char} {rest : List Regex} {before matched after : List Char}
    {marks marks' : Marks} :
    (sequence (mark.map letter ++ rest)).Captures before matched after marks marks' ↔
      ∃ letters text, matched = letters ++ text ∧ Spelled mark letters ∧
        (sequence rest).Captures (before ++ letters) text after marks marks' := by
  induction mark generalizing before matched with
  | nil =>
      constructor
      · intro captures
        exact ⟨[], matched, rfl, .nil, by simpa using captures⟩
      · rintro ⟨_, text, rfl, spelled, captures⟩
        cases spelled
        simpa using captures
  | cons c mark induction =>
      rw [List.map_cons, List.cons_append, captures_sequence_cons]
      constructor
      · rintro ⟨_, _, _, rfl, here, later⟩
        obtain ⟨rfl, d, same, rfl⟩ := captures_letter.mp here
        obtain ⟨letters, text, rfl, spelled, captures⟩ := induction.mp later
        exact ⟨d :: letters, text, rfl, .cons same spelled, by simpa using captures⟩
      · rintro ⟨_, text, rfl, spelled, captures⟩
        cases spelled with
        | @cons _ d _ letters same spelled =>
            refine ⟨[d], letters ++ text, marks, rfl, captures_letter.mpr ⟨rfl, d, same, rfl⟩, ?_⟩
            exact induction.mpr ⟨letters, text, rfl, spelled, by simpa using captures⟩

end ColumnFilter.Regex
