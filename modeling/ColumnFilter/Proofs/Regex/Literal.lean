import ColumnFilter.Proofs.Regex.Enclosed.Item

/-!
# Escaped texts in a pattern

An escaped text only adds items to the branch that is being read, whatever flags are in
force: every character with a meaning of its own is escaped, and escapes of that kind
read nothing else.
-/

namespace ColumnFilter.Regex

open Text (Scan)

/-- Items are added to the branch that is being read. -/
def Adds (before after : Progress) : Prop :=
  ∃ items, after =
    { before with level := { before.level with items := items ++ before.level.items } }

theorem Adds.refl (progress : Progress) : Adds progress progress := ⟨[], rfl⟩

theorem Adds.trans {before middle after : Progress} (first : Adds before middle)
    (second : Adds middle after) : Adds before after := by
  obtain ⟨items, rfl⟩ := first
  obtain ⟨later, rfl⟩ := second
  exact ⟨later ++ items, by rw [List.append_assoc]⟩

theorem adds_push (progress : Progress) (item : Item) : Adds progress (progress.push item) :=
  ⟨[item], rfl⟩

theorem mem_of_isMeta {c : Char} (special : isMeta c = true) :
    c ∈ "\\.+*?()|[]\x7b\x7d^$#&-~".toList := by
  simpa [isMeta] using special

theorem ne_of_isMeta {c special : Char} (plain : isMeta c = false)
    (isSpecial : isMeta special = true) : c ≠ special := by
  rintro rfl
  rw [plain] at isSpecial
  contradiction

theorem takeEscape_of_isMeta {c : Char} (special : isMeta c = true) (flags : Flags)
    (rest : List Char) :
    takeEscape flags (c :: rest) = .ok (Scan.stay (.char c false) rest).past := by
  have plain : "\\.+*?()|[]\x7b\x7d^$#&-~".toList.all (fun c =>
      !c.isDigit && c != 'x' && c != 'u' && c != 'U' && !(c == 'p' || c == 'P') &&
        !"dswDSW".toList.contains c) = true := by
    decide +kernel
  have known := List.all_eq_true.mp plain c (mem_of_isMeta special)
  simp only [Bool.and_eq_true, Bool.not_eq_true', bne_iff_ne, Bool.or_eq_false_iff,
    beq_eq_false_iff_ne, ← not_or] at known
  obtain ⟨⟨⟨⟨⟨digit, x⟩, u⟩, u'⟩, p⟩, classes⟩ := known
  have escapable : isEscapable c = true := by simp [isEscapable, special]
  unfold takeEscape
  simp only [digit, x, u, u', p, classes, escapable, Bool.false_eq_true, if_false, if_true]
  rfl

theorem takeItem_backslash {progress : Progress} {input : List Char}
    {scan : Scan Progress input} (read : takeItem progress '\\' input = .ok scan) :
    (∃ regex, scan.value = progress.push (.plain regex)) ∧
      Leaves (takeEscape progress.flags input) scan.rest := by
  simp only [takeItem] at read
  cases taken : takeEscape progress.flags input with
  | error problem => simp [taken] at read
  | ok escape =>
      simp only [taken] at read
      obtain ⟨regex, -, rfl⟩ := Except.exists_of_map_eq_ok read
      exact ⟨⟨regex, rfl⟩, escape, rfl, rfl⟩

theorem takeItem_of_isMeta {c : Char} (special : isMeta c = true) {progress : Progress}
    {rest : List Char} {scan : Scan Progress (c :: rest)}
    (read : takeItem progress '\\' (c :: rest) = .ok scan) :
    Adds progress scan.value ∧ scan.rest = rest := by
  obtain ⟨⟨regex, value⟩, leaves⟩ := takeItem_backslash read
  rw [takeEscape_of_isMeta special, leaves_ok] at leaves
  rw [value]
  exact ⟨adds_push progress _, leaves.symm⟩

theorem takeItem_of_not_isMeta {c : Char} (plain : isMeta c = false) {progress : Progress}
    {rest : List Char} {scan : Scan Progress rest}
    (read : takeItem progress c rest = .ok scan) :
    Adds progress scan.value ∧ scan.rest = rest := by
  unfold takeItem at read
  simp only at read
  split at read
  -- The last case is that of all characters which mean themselves.
  case h_13 =>
    split at read
    · simp at read
    · rw [Except.ok.injEq] at read
      subst read
      exact ⟨adds_push progress _, rfl⟩
  all_goals exact absurd rfl (ne_of_isMeta plain (by decide))

theorem takeItems_skipIgnored {progress : Progress} (extended : progress.flags.extended = true)
    (text : List Char) :
    takeItems progress (skipIgnoredFrom false text).rest = takeItems progress text := by
  cases text with
  | nil => rfl
  | cons c text =>
      by_cases ignored : (Text.isSpace c || c == '#') = true
      · rw [takeItems_ignored (by rw [extended, Bool.true_and]; exact ignored)]
        by_cases space : Text.isSpace c = true
        · have hash : (c == '#') = false := by
            rw [beq_eq_false_iff_ne]
            rintro rfl
            revert space
            decide
          rw [hash]
          simp only [skipIgnoredFrom, space, if_true, Bool.false_eq_true, if_false]
          rfl
        · obtain rfl : c = '#' := by simpa [space] using ignored
          rfl
      · obtain ⟨space, hash⟩ : ¬Text.isSpace c = true ∧ c ≠ '#' := by simpa using ignored
        simp only [skipIgnoredFrom, space, hash, Bool.false_eq_true, if_false]
        rfl

theorem backslash_visible : (Text.isSpace '\\' || '\\' == '#') = false := by decide

theorem escape_special {c : Char} (special : isMeta c = true) (text : List Char) :
    Pattern.escape (c :: text) = '\\' :: c :: Pattern.escape text := by
  rw [Pattern.escape, List.flatMap_cons, Pattern.escapeChar, if_pos special]
  rfl

theorem escape_plain {c : Char} (plain : isMeta c = false) (text : List Char) :
    Pattern.escape (c :: text) = c :: Pattern.escape text := by
  rw [Pattern.escape, List.flatMap_cons, Pattern.escapeChar, plain, if_neg Bool.false_ne_true]
  rfl

theorem takeItems_escape {text behind : List Char} {before after : Progress}
    (read : takeItems before (Pattern.escape text ++ behind) = .ok after) :
    ∃ middle, Adds before middle ∧ takeItems middle behind = .ok after := by
  induction text generalizing before with
  | nil => exact ⟨before, .refl before, read⟩
  | cons c text induction =>
      cases special : isMeta c with
      | true =>
          rw [escape_special special, List.cons_append, List.cons_append] at read
          have visible : ¬(before.flags.extended && (Text.isSpace '\\' || '\\' == '#')) = true := by
            rw [backslash_visible, Bool.and_false]
            exact Bool.false_ne_true
          obtain ⟨scan, taken, later⟩ := takeItems_item visible read
          obtain ⟨adds, left⟩ := takeItem_of_isMeta special taken
          rw [left] at later
          obtain ⟨middle, adds', later⟩ := induction later
          exact ⟨middle, adds.trans adds', later⟩
      | false =>
          rw [escape_plain special, List.cons_append] at read
          by_cases ignored : (before.flags.extended && (Text.isSpace c || c == '#')) = true
          · have hash : (c == '#') = false :=
              beq_eq_false_iff_ne.mpr (ne_of_isMeta special (by decide))
            have extended : before.flags.extended = true := (Bool.and_eq_true _ _ ▸ ignored).1
            rw [takeItems_ignored ignored, hash, takeItems_skipIgnored extended] at read
            exact induction read
          · obtain ⟨scan, taken, later⟩ := takeItems_item ignored read
            obtain ⟨adds, left⟩ := takeItem_of_not_isMeta special taken
            rw [left] at later
            obtain ⟨middle, adds', later⟩ := induction later
            exact ⟨middle, adds.trans adds', later⟩

theorem takeItems_dollar {before after : Progress}
    (read : takeItems before ['$'] = .ok after) :
    after = before.push (.plain (.anchor (lineAnchor before.flags false))) := by
  have visible : ¬(before.flags.extended && (Text.isSpace '$' || '$' == '#')) = true := by
    have shown : (Text.isSpace '$' || '$' == '#') = false := by decide
    rw [shown, Bool.and_false]
    exact Bool.false_ne_true
  obtain ⟨scan, taken, later⟩ := takeItems_item visible read
  rw [takeItem, Except.ok.injEq] at taken
  subst taken
  obtain rfl : before.push _ = after := by simpa [Scan.stay, takeItems_nil] using later
  rfl

theorem skipIgnoredFrom_false_escape (text : List Char) :
    ∃ text', (skipIgnoredFrom false (Pattern.escape text ++ ['$'])).rest =
      Pattern.escape text' ++ ['$'] := by
  induction text with
  | nil => exact ⟨[], rfl⟩
  | cons c text induction =>
      cases special : isMeta c with
      | true =>
          refine ⟨c :: text, ?_⟩
          rw [escape_special special]
          rfl
      | false =>
          have hash : c ≠ '#' := ne_of_isMeta special (by decide)
          by_cases space : Text.isSpace c = true
          · obtain ⟨text', skips⟩ := induction
            refine ⟨text', ?_⟩
            rw [escape_plain special, ← skips]
            simp only [List.cons_append, skipIgnoredFrom, space, Bool.false_eq_true, if_false,
              if_true]
            rfl
          · refine ⟨c :: text, ?_⟩
            rw [escape_plain special]
            simp only [List.cons_append, skipIgnoredFrom, space, hash, Bool.false_eq_true, if_false]
            rfl

/-- What a comment leaves of an escaped text and the end of a pattern. -/
theorem skipIgnoredFrom_true_escape (text : List Char) :
    (skipIgnoredFrom true (Pattern.escape text ++ ['$'])).rest = [] ∨
      ∃ text', (skipIgnoredFrom true (Pattern.escape text ++ ['$'])).rest =
        Pattern.escape text' ++ ['$'] := by
  have inside : ∀ {c : Char} (text : List Char), c ≠ '\n' →
      (skipIgnoredFrom true (c :: text)).rest = (skipIgnoredFrom true text).rest := by
    intro c text other
    rw [skipIgnoredFrom, if_pos rfl, bne_iff_ne.mpr other]
    rfl
  induction text with
  | nil => exact .inl rfl
  | cons c text induction =>
      cases special : isMeta c with
      | true =>
          have other : c ≠ '\n' := by
            rintro rfl
            revert special
            decide
          rw [escape_special special, List.cons_append, List.cons_append, inside _ (by decide),
            inside _ other]
          exact induction
      | false =>
          rw [escape_plain special, List.cons_append]
          by_cases newline : c = '\n'
          · subst newline
            exact .inr (skipIgnoredFrom_false_escape text)
          · rw [inside _ newline]
            exact induction

theorem head?_escape_append {text behind : List Char} {special : Char}
    (isSpecial : isMeta special = true) (other : special ≠ '\\')
    (behind_ : behind.head? ≠ some special) :
    (Pattern.escape text ++ behind).head? ≠ some special := by
  cases text with
  | nil => exact behind_
  | cons c text =>
      cases shown : isMeta c with
      | true =>
          rw [escape_special shown]
          simpa using Ne.symm other
      | false =>
          rw [escape_plain shown]
          simpa using ne_of_isMeta shown isSpecial

end ColumnFilter.Regex
