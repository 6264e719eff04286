import ColumnFilter.Proofs.Regex.Enclosed.Reading

/-!
# Escapes in an enclosed pattern

Each part of an escape either ends at a mark of its own, as a name in braces does, or
at the first character that does not belong to it.
-/

namespace ColumnFilter.Regex

open Text (Scan)

section Hexadecimal

variable {flags flags' : Flags} {input behind rest rest' : List Char}

theorem leaves_takeHexDigits_zero {acc : Nat} :
    Leaves (takeHexDigits flags 0 acc input) rest ↔ input = rest := by
  simp [takeHexDigits]

theorem leaves_takeHexDigits_succ {count acc : Nat} {c : Char} :
    Leaves (takeHexDigits flags (count + 1) acc (c :: input)) rest ↔
      ∃ digit, hexValue? c = some digit ∧
        Leaves (takeHexDigits flags count (16 * acc + digit) (skipIgnored flags input).rest)
          rest := by
  rw [takeHexDigits]
  cases hexValue? c with
  | none => simp
  | some digit => simp

theorem takeHexDigits_continues {count acc : Nat}
    (leaves : Leaves (takeHexDigits flags count acc input) rest) :
    Continues flags.extended
      (fun flags text => Leaves (takeHexDigits flags count acc text)) input rest := by
  induction count generalizing acc input with
  | zero =>
      apply Continues.of_append
      intro flags' behind rest' _ _ leaves'
      rw [leaves_takeHexDigits_zero] at leaves leaves'
      rw [← leaves, ← leaves']
  | succ count induction =>
      cases input with
      | nil => simp [takeHexDigits] at leaves
      | cons c input =>
          obtain ⟨digit, value, leaves⟩ := leaves_takeHexDigits_succ.mp leaves
          refine ((skipping_continues flags input).trans (induction leaves) ?_).mono ?_
          · intro vacant
            -- Only the last digit can be followed by nothing.
            rw [vacant] at leaves
            cases count with
            | succ count => simp [takeHexDigits] at leaves
            | zero =>
                refine ⟨(leaves_takeHexDigits_zero.mp leaves).symm, ?_⟩
                intro _ text rest' _ _ leaves'
                exact (leaves_takeHexDigits_zero.mp leaves').symm
          · intro flags' text rest' _ _ leaves'
            obtain ⟨digit', value', leaves'⟩ := leaves_takeHexDigits_succ.mp leaves'
            obtain rfl : digit = digit' := Option.some.inj (value.symm.trans value')
            exact ⟨_, rfl, leaves'⟩

theorem takeHexBrace_append {acc : Option Nat} (same : flags'.extended = flags.extended)
    (leaves : Leaves (takeHexBrace flags acc input) rest)
    (leaves' : Leaves (takeHexBrace flags' acc (input ++ behind)) rest') :
    rest' = rest ++ behind := by
  induction input generalizing acc with
  | nil => simp [takeHexBrace] at leaves
  | cons c input induction =>
      rw [List.cons_append] at leaves'
      by_cases ignored : (Text.isSpace c && flags.extended) = true
      · simp only [takeHexBrace, same, ignored, if_true, leaves_map, Scan.rest_past,
          exists_ok_rest] at leaves leaves'
        exact induction leaves leaves'
      · simp only [takeHexBrace, same, ignored, Bool.false_eq_true, if_false] at leaves leaves'
        by_cases brace : c = '\x7d'
        · rw [if_pos brace] at leaves leaves'
          cases acc with
          | none => simp at leaves
          | some code =>
              simp only [leaves_ok, Scan.rest_first] at leaves leaves'
              rw [← leaves, ← leaves']
        · rw [if_neg brace] at leaves leaves'
          cases value : hexValue? c with
          | none => simp [value] at leaves
          | some digit =>
              simp only [value, leaves_map, Scan.rest_past, exists_ok_rest] at leaves leaves'
              exact induction leaves leaves'

/-- A code point behind what is ignored in front of it. -/
def codePoint (digits : Nat) : Reading := fun flags text rest =>
  (∃ inner middle, text = '\x7b' :: inner ∧ Leaves (takeHexBrace flags none inner) middle ∧
    (skipIgnored flags middle).rest = rest) ∨
  (∀ inner, text ≠ '\x7b' :: inner) ∧ Leaves (takeHexDigits flags digits 0 text) rest

theorem leaves_takeHex {digits : Nat} (leaves : Leaves (takeHex flags digits input) rest) :
    codePoint digits flags (skipIgnored flags input).rest rest := by
  revert leaves
  fun_cases takeHex flags digits input with
  | case1 | case2 | case4 | case5 => simp
  | case3 start _ inner shape scan brace c _ =>
      intro leaves
      exact .inl ⟨inner, scan.rest, shape, ⟨scan, brace, rfl⟩, by simpa using leaves⟩
  | case6 start _ c other scan read _ =>
      intro leaves
      exact .inr ⟨other, scan, read, by simpa using leaves⟩

theorem codePoint_continues {digits : Nat} (present : input ≠ [])
    (reads : codePoint digits flags input rest) :
    Continues flags.extended (codePoint digits) input rest := by
  rcases reads with ⟨inner, middle, rfl, brace, skips⟩ | ⟨other, leaves⟩
  · have last := skipping_continues flags middle
    rw [skips] at last
    apply last.mono
    rintro flags' behind rest' same - (⟨inner', middle', shape, brace', skips'⟩ | ⟨other, -⟩)
    · obtain rfl : inner ++ behind = inner' := by simpa using shape
      rw [takeHexBrace_append same brace brace'] at skips'
      exact skips'
    · exact absurd rfl (other _)
  · apply (takeHexDigits_continues leaves).mono
    rintro flags' behind rest' same - (⟨inner', middle', shape, -⟩ | ⟨-, leaves'⟩)
    · obtain ⟨c, input, rfl⟩ := List.exists_cons_of_ne_nil present
      simp only [List.cons_append, List.cons.injEq] at shape
      exact absurd (congrArg (· :: input) shape.1) (other input)
    · exact leaves'

theorem takeHex_continues {digits : Nat} (some : digits ≠ 0)
    (leaves : Leaves (takeHex flags digits input) rest) :
    Continues flags.extended (fun flags text => Leaves (takeHex flags digits text)) input rest := by
  have reads := leaves_takeHex leaves
  have present : (skipIgnored flags input).rest ≠ [] := by
    intro vacant
    rw [vacant] at reads
    obtain ⟨count, rfl⟩ := Nat.exists_eq_succ_of_ne_zero some
    simp [codePoint, takeHexDigits] at reads
  refine ((skipping_continues flags input).trans
    (codePoint_continues present reads) (absurd · present)).mono ?_
  intro flags' behind rest' _ _ leaves'
  exact ⟨_, rfl, leaves_takeHex leaves'⟩

end Hexadecimal

section Named

variable {flags flags' : Flags} {input behind rest rest' : List Char}

theorem takeProperty_append (same : flags'.extended = flags.extended)
    (leaves : Leaves (takeProperty flags input) rest)
    (leaves' : Leaves (takeProperty flags' (input ++ behind)) rest') :
    rest' = rest ++ behind := by
  induction input with
  | nil => simp [takeProperty] at leaves
  | cons c input induction =>
      rw [List.cons_append] at leaves'
      simp only [takeProperty, same] at leaves leaves'
      by_cases ignored : Text.isSpace c && flags.extended
      · rw [if_pos ignored] at leaves
        simp only [ignored, if_true, leaves_map, Scan.rest_past, exists_ok_rest] at leaves leaves'
        exact induction leaves leaves'
      · rw [if_neg ignored] at leaves leaves'
        by_cases brace : c = '\x7d'
        · rw [if_pos brace] at leaves leaves'
          simp only [leaves_ok, Scan.rest_first] at leaves leaves'
          rw [← leaves, ← leaves']
        · rw [if_neg brace] at leaves leaves'
          simp only [leaves_map, Scan.rest_past, Scan.rest_map, exists_ok_rest] at leaves leaves'
          exact induction leaves leaves'

/-- The name of a class behind what is ignored in front of it. -/
def className : Reading := fun flags text rest =>
  ∃ c inner, text = c :: inner ∧
    if c = '\x7b' then Leaves (takeProperty flags inner) rest
    else (skipIgnored flags inner).rest = rest

theorem leaves_takeNamedClass {negated : Bool}
    (leaves : Leaves (takeNamedClass flags negated input) rest) :
    className flags (skipIgnored flags input).rest rest := by
  revert leaves
  fun_cases takeNamedClass flags negated input with
  | case1 | case2 | case4 => simp
  | case3 start _ inner scan read shape =>
      intro leaves
      refine ⟨'\x7b', inner, shape, ?_⟩
      rw [if_pos rfl]
      rw [leaves_map] at leaves
      obtain ⟨_, -, stopped⟩ := leaves
      exact ⟨scan, read, stopped⟩
  | case5 start _ c inner shape brace _ next =>
      intro leaves
      refine ⟨c, inner, shape, ?_⟩
      rw [if_neg brace]
      rw [leaves_map] at leaves
      obtain ⟨_, -, stopped⟩ := leaves
      exact stopped

theorem takeNamedClass_continues {negated : Bool}
    (leaves : Leaves (takeNamedClass flags negated input) rest) :
    Continues flags.extended (fun flags text => Leaves (takeNamedClass flags negated text))
      input rest := by
  have reads := leaves_takeNamedClass leaves
  have inside : Continues flags.extended className (skipIgnored flags input).rest rest := by
    obtain ⟨c, inner, shape, reads⟩ := reads
    rw [shape]
    by_cases brace : c = '\x7b'
    · rw [if_pos brace] at reads
      apply Continues.of_append
      rintro flags' behind rest' same - ⟨c', inner', shape', reads'⟩
      obtain ⟨rfl, rfl⟩ : c = c' ∧ inner ++ behind = inner' := by simpa using shape'
      rw [if_pos brace] at reads'
      exact takeProperty_append same reads reads'
    · rw [if_neg brace] at reads
      have last := skipping_continues flags inner
      rw [reads] at last
      apply last.mono
      rintro flags' behind rest' same - ⟨c', inner', shape', reads'⟩
      obtain ⟨rfl, rfl⟩ : c = c' ∧ inner ++ behind = inner' := by simpa using shape'
      rw [if_neg brace] at reads'
      exact reads'
  obtain ⟨c, inner, shape, -⟩ := reads
  refine ((skipping_continues flags input).trans inside ?_).mono ?_
  · simp [shape]
  · intro flags' behind rest' _ _ leaves'
    exact ⟨_, rfl, leaves_takeNamedClass leaves'⟩

end Named

section Boundary

variable {flags flags' : Flags} {input behind rest rest' : List Char}

theorem takeBoundaryName_append (same : flags'.extended = flags.extended)
    (present : (takeBoundaryName flags input).rest ≠ []) :
    (takeBoundaryName flags' (input ++ behind)).rest =
      (takeBoundaryName flags input).rest ++ behind := by
  induction input with
  | nil => exact absurd rfl present
  | cons c input induction =>
      simp only [List.cons_append, takeBoundaryName, same] at present ⊢
      by_cases letter : isBoundaryLetter c
      · rw [if_pos letter] at present
        rw [if_pos letter, if_pos letter]
        exact induction present
      · rw [if_neg letter] at present
        rw [if_neg letter, if_neg letter]
        by_cases ignored : flags.extended && Text.isSpace c
        · rw [if_pos ignored] at present
          rw [if_pos ignored, if_pos ignored]
          exact induction present
        · rw [if_neg ignored] at present
          rw [if_neg ignored, if_neg ignored]
          rfl

theorem leaves_takeBoundary (leaves : Leaves (takeBoundary flags input) rest) :
    (∀ inner, input ≠ '\x7b' :: inner) ∧ input = rest ∨
      ∃ inner c text, input = '\x7b' :: inner ∧ (skipIgnored flags inner).rest = c :: text ∧
        if isBoundaryLetter c then (takeBoundaryName flags (c :: text)).rest = '\x7d' :: rest
        else input = rest := by
  unfold takeBoundary at leaves
  split at leaves
  · rename_i inner
    refine .inr ?_
    simp only at leaves
    split at leaves
    · simp at leaves
    · rename_i c text shape
      refine ⟨inner, c, text, rfl, shape, ?_⟩
      by_cases other : !isBoundaryLetter c
      · rw [if_pos other] at leaves
        rw [Bool.not_eq_true'] at other
        simpa [other] using leaves
      · rw [if_neg other] at leaves
        rw [Bool.not_eq_true', Bool.not_eq_false] at other
        rw [if_pos other, ← shape]
        split at leaves
        · rename_i text' shape'
          rw [shape']
          split at leaves <;> simp at leaves <;> rw [leaves]
        · simp at leaves
  · rename_i other
    exact .inl ⟨other, by simpa using leaves⟩

theorem takeBoundary_append (same : flags'.extended = flags.extended)
    (paren : behind.head? = some ')') (leaves : Leaves (takeBoundary flags input) rest)
    (leaves' : Leaves (takeBoundary flags' (input ++ behind)) rest') :
    rest' = rest ++ behind := by
  rcases leaves_takeBoundary leaves with ⟨other, rfl⟩ | ⟨inner, c, text, rfl, shape, ends⟩
  · rcases leaves_takeBoundary leaves' with ⟨-, stays⟩ | ⟨inner', c', text', shape', -⟩
    · exact stays.symm
    · cases input with
      | nil =>
          rw [List.nil_append] at shape'
          simp [shape'] at paren
      | cons c input =>
          simp only [List.cons_append, List.cons.injEq] at shape'
          exact absurd (congrArg (· :: input) shape'.1) (other input)
  · have start : (skipIgnored flags' (inner ++ behind)).rest = c :: text ++ behind := by
      rw [← shape]
      exact (skipping_continues flags inner).eq_append (by simp [shape]) same paren rfl
    rcases leaves_takeBoundary leaves' with ⟨other, -⟩ | ⟨inner', c', text', shape', start', ends'⟩
    · exact absurd rfl (other _)
    · obtain rfl : inner ++ behind = inner' := by simpa using shape'
      obtain ⟨rfl, rfl⟩ : c = c' ∧ text ++ behind = text' := by
        simpa using start.symm.trans start'
      by_cases letter : isBoundaryLetter c
      · rw [if_pos letter] at ends
        rw [if_pos letter, ← List.cons_append,
          takeBoundaryName_append same (by simp [ends]), ends] at ends'
        simpa using ends'.symm
      · rw [if_neg letter] at ends ends'
        rw [← ends, ← ends']

end Boundary

/-- What is read behind a backslash and a first character; most characters stand
alone. -/
def escapeTail (c : Char) : Reading :=
  if c = 'x' then fun flags text => Leaves (takeHex flags 2 text)
  else if c = 'u' then fun flags text => Leaves (takeHex flags 4 text)
  else if c = 'U' then fun flags text => Leaves (takeHex flags 8 text)
  else if c = 'p' ∨ c = 'P' then fun flags text => Leaves (takeNamedClass flags (c = 'P') text)
  else if c = 'b' then fun flags text => Leaves (takeBoundary flags text)
  else fun _ text rest => text = rest

theorem leaves_takeEscape {flags : Flags} {c : Char} {input rest : List Char}
    (leaves : Leaves (takeEscape flags (c :: input)) rest) :
    escapeTail c flags input rest := by
  simp only [takeEscape, leaves_map, Scan.rest_past, exists_ok_rest] at leaves
  unfold escapeTail
  by_cases digit : c.isDigit
  · rw [if_pos digit] at leaves
    simp at leaves
  rw [if_neg digit] at leaves
  by_cases hex : c = 'x'
  · rw [if_pos hex] at leaves
    rwa [if_pos hex]
  rw [if_neg hex] at leaves
  rw [if_neg hex]
  by_cases short : c = 'u'
  · rw [if_pos short] at leaves
    rwa [if_pos short]
  rw [if_neg short] at leaves
  rw [if_neg short]
  by_cases long : c = 'U'
  · rw [if_pos long] at leaves
    rwa [if_pos long]
  rw [if_neg long] at leaves
  rw [if_neg long]
  by_cases named : c = 'p' ∨ c = 'P'
  · rw [if_pos named] at leaves
    rwa [if_pos named]
  rw [if_neg named] at leaves
  rw [if_neg named]
  by_cases boundary : c = 'b'
  · rw [if_pos boundary]
    subst boundary
    exact leaves
  rw [if_neg boundary]
  by_cases letter : "dswDSW".toList.contains c
  · rw [if_pos letter, leaves_map] at leaves
    obtain ⟨_, -, stays⟩ := leaves
    exact stays
  rw [if_neg letter] at leaves
  by_cases plain : isEscapable c
  · rw [if_pos plain] at leaves
    simpa using leaves
  rw [if_neg plain] at leaves
  split at leaves <;> simp_all

theorem escapeTail_continues {c : Char} {flags : Flags} {input rest : List Char} :
    escapeTail c flags input rest → Continues flags.extended (escapeTail c) input rest := by
  unfold escapeTail
  split
  · exact takeHex_continues (by decide)
  split
  · exact takeHex_continues (by decide)
  split
  · exact takeHex_continues (by decide)
  split
  · exact takeNamedClass_continues
  split
  · intro leaves
    apply Continues.of_append
    intro flags' behind rest' same paren leaves'
    exact takeBoundary_append same paren leaves leaves'
  · intro stays
    apply Continues.of_append
    intro flags' behind rest' _ _ stays'
    rw [← stays, ← stays']

theorem takeEscape_continues {flags : Flags} {input rest : List Char}
    (leaves : Leaves (takeEscape flags input) rest) :
    Continues flags.extended (fun flags text => Leaves (takeEscape flags text)) input rest := by
  cases input with
  | nil => simp [takeEscape] at leaves
  | cons c input =>
      apply (escapeTail_continues (leaves_takeEscape leaves)).mono
      intro flags' behind rest' _ _ leaves'
      exact leaves_takeEscape leaves'

end ColumnFilter.Regex
