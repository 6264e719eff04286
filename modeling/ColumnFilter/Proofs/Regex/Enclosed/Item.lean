import ColumnFilter.Proofs.Regex.Enclosed.Group

/-!
# Items of an enclosed pattern

Item by item, reading the enclosed pattern opens and closes the groups that reading it
by itself opens and closes, on top of the group around it.
-/

namespace ColumnFilter.Regex

open Text (Scan)

variable {flags flags' : Flags} {input behind rest rest' : List Char}

/-- What is read behind the first character of an item that is no parenthesis. -/
def itemTail (c : Char) : Reading :=
  if c = '[' then fun flags text => Leaves (takeBracket flags text)
  else if c = '\x7b' then fun flags text => closing flags (behindNumbers flags text)
  else if c = '\\' then fun flags text => Leaves (takeEscape flags text)
  else if c = '?' ∨ c = '*' ∨ c = '+' then fun _ text rest => (takeLazy text).rest = rest
  else fun _ text rest => text = rest

theorem itemTail_continues {c : Char} :
    itemTail c flags input rest → Continues flags.extended (itemTail c) input rest := by
  unfold itemTail
  split
  · intro leaves
    apply Continues.of_append
    intro flags' behind rest' same paren leaves'
    exact takeBracket_append same paren leaves leaves'
  split
  · exact takeCounted_continues
  split
  · exact takeEscape_continues
  split
  · rintro rfl
    exact takeLazy_continues input
  · intro stays
    apply Continues.of_append
    intro flags' behind rest' _ _ stays'
    rw [← stays, ← stays']

theorem keeps_of_takeItem {progress : Progress} {c : Char} {scan : Scan Progress input}
    (opening : c ≠ '(') (close : c ≠ ')') (read : takeItem progress c input = .ok scan) :
    Keeps progress scan.value ∧ itemTail c progress.flags input scan.rest := by
  have repetition : ∀ {low high}, takeRepetition progress low high input = .ok scan →
      Keeps progress scan.value ∧ (takeLazy input).rest = scan.rest := by
    intro low high read
    obtain ⟨greedy, repeated, left⟩ := repeatLast_of_takeRepetition read
    exact ⟨keeps_of_repeatLast repeated, left⟩
  have pushed : ∀ {regex}, Except.ok (.stay (progress.push (.plain regex)) input) =
      (.ok scan : Parsed Progress input) → Keeps progress scan.value ∧ input = scan.rest := by
    intro regex read
    rw [Except.ok.injEq] at read
    subst read
    exact ⟨⟨rfl, rfl, rfl⟩, rfl⟩
  revert read
  fun_cases takeItem progress c input with
  | case1 => exact absurd rfl opening
  | case2 => exact absurd rfl close
  | case3 =>
      intro read
      rw [Except.ok.injEq] at read
      subst read
      exact ⟨⟨rfl, rfl, rfl⟩, rfl⟩
  | case4 =>
      intro read
      obtain ⟨bracket, taken, rfl⟩ := Except.exists_of_map_eq_ok read
      exact ⟨⟨rfl, rfl, rfl⟩, bracket, taken, rfl⟩
  | case5 | case6 | case7 => exact repetition
  | case8 => exact keeps_of_takeCounted
  | case9 | case11 | case15 => simp
  | case10 _ escape taken =>
      intro read
      obtain ⟨regex, atom, rfl⟩ := Except.exists_of_map_eq_ok read
      exact ⟨⟨rfl, rfl, rfl⟩, escape, taken, rfl⟩
  | case12 | case13 | case14 => exact pushed
  | case16 _ _ _ _ _ _ bracket question star plus brace escape =>
      intro read
      rw [itemTail, if_neg bracket, if_neg brace, if_neg escape, if_neg]
      · exact pushed read
      · rintro (mark | mark | mark)
        · exact question mark
        · exact star mark
        · exact plus mark

/-- Two readings of one pattern, by itself and enclosed: the same groups are open, with
the group around the pattern below them. -/
structure Tracks (bottom : OpenGroup) (own enclosed : Progress) : Prop where
  extended : enclosed.flags.extended = own.flags.extended
  groups : ∃ inner : List OpenGroup, enclosed.groups = inner ++ [bottom] ∧
    inner.map (·.flags.extended) = own.groups.map (·.flags.extended)

namespace Tracks

variable {bottom : OpenGroup} {own own' enclosed enclosed' : Progress}

theorem keeps (tracks : Tracks bottom own enclosed) (kept : Keeps own own')
    (kept' : Keeps enclosed enclosed') : Tracks bottom own' enclosed' := by
  constructor
  · rw [kept.flags, kept'.flags]
    exact tracks.extended
  · rw [kept.groups, kept'.groups]
    exact tracks.groups

theorem enters (tracks : Tracks bottom own enclosed) {flags flags' : Flags}
    (same : flags'.extended = flags.extended) (entered : Enters own own' flags)
    (entered' : Enters enclosed enclosed' flags') : Tracks bottom own' enclosed' := by
  obtain ⟨rfl, ⟨level, index, groups⟩, -⟩ := entered
  obtain ⟨rfl, ⟨level', index', groups'⟩, -⟩ := entered'
  obtain ⟨inner, below, equal⟩ := tracks.groups
  refine ⟨same, ⟨level', enclosed.flags, index'⟩ :: inner, ?_, ?_⟩
  · rw [groups', below, List.cons_append]
  · rw [groups, List.map_cons, List.map_cons, equal, tracks.extended]

theorem flagged (tracks : Tracks bottom own enclosed) {letters rest rest' behind : List Char}
    (changed : Flagged own own' rest letters)
    (changed' : Flagged enclosed enclosed' rest' (letters ++ behind)) :
    rest' = rest ++ behind ∧ Tracks bottom own' enclosed' := by
  obtain ⟨scan, read, rfl, effect⟩ := changed
  obtain ⟨scan', read', rfl, effect'⟩ := changed'
  obtain ⟨left, same, alone⟩ := takeFlags_append tracks.extended read read'
  refine ⟨left, ?_⟩
  rw [alone] at effect'
  by_cases here : scan.value.snd.snd
  · rw [if_pos here] at effect effect'
    obtain ⟨flags, groups, -⟩ := effect
    obtain ⟨flags', groups', -⟩ := effect'
    constructor
    · rw [flags, flags', same]
    · rw [groups, groups']
      exact tracks.groups
  · rw [if_neg here] at effect effect'
    exact tracks.enters same effect effect'

theorem closeGroup (tracks : Tracks bottom own enclosed) (closed : own.closeGroup = .ok own')
    (closed' : enclosed.closeGroup = .ok enclosed') : Tracks bottom own' enclosed' := by
  obtain ⟨inner, below, equal⟩ := tracks.groups
  unfold Progress.closeGroup at closed closed'
  cases groups : own.groups with
  | nil => simp [groups] at closed
  | cons innermost later =>
      cases inner with
      | nil => simp [groups] at equal
      | cons innermost' later' =>
          rw [groups, List.map_cons, List.map_cons, List.cons.injEq] at equal
          simp only [groups, below, List.cons_append, Except.ok.injEq] at closed closed'
          subst closed closed'
          exact ⟨equal.1, later', rfl, equal.2⟩

end Tracks

/-- Reading from a state does with the text in parentheses what it does with the text
by itself. -/
def Accompanied (take : Progress → (input : List Char) → Parsed Progress input)
    (own : Progress) {input : List Char} (scan : Scan Progress input) : Prop :=
  ∃ commented, (commented = true → scan.rest = []) ∧
    ∀ bottom enclosed behind scan', Encloses commented behind → Tracks bottom own enclosed →
      take enclosed (input ++ behind) = .ok scan' →
        scan'.rest = scan.rest ++ resume commented behind ∧ Tracks bottom scan.value scan'.value

theorem takeGroup_accompanied {own : Progress} {scan : Scan Progress input}
    (read : takeGroup own input = .ok scan) : Accompanied takeGroup own scan := by
  have opens := opens_of_takeGroup read
  by_cases vacant : (skipIgnored own.flags input).rest = []
  · obtain ⟨commented, ended, goes⟩ := skipping_continues own.flags input
    rw [vacant] at opens
    obtain ⟨stops, entered⟩ := opens
    refine ⟨commented, fun _ => stops.symm, ?_⟩
    intro bottom enclosed behind scan' encloses tracks read'
    have opens' := opens_of_takeGroup read'
    rw [goes enclosed.flags behind _ tracks.extended encloses rfl, vacant, List.nil_append,
      Opens, Opening.ofText_of_head encloses.single] at opens'
    refine ⟨?_, tracks.enters tracks.extended entered opens'.2⟩
    rw [← opens'.1, ← stops, List.nil_append]
  · refine ⟨false, by simp, ?_⟩
    intro bottom enclosed behind scan' encloses tracks read'
    have opens' := opens_of_takeGroup read'
    rw [(skipping_continues own.flags input).eq_append vacant tracks.extended encloses.paren rfl,
      Opens, Opening.ofText_append encloses.paren] at opens'
    unfold Opens at opens
    cases opening : Opening.ofText (skipIgnored own.flags input).rest with
    | named text =>
        simp only [opening, Opening.append] at opens opens'
        obtain ⟨name, read, left, named⟩ := opens
        obtain ⟨name', read', left', named'⟩ := opens'
        exact ⟨takeGroupName_append ⟨name, read, left⟩ ⟨name', read', left'⟩,
          tracks.enters tracks.extended named.enters named'.enters⟩
    | flagged letters =>
        simp only [opening, Opening.append] at opens opens'
        exact tracks.flagged opens opens'
    | plain =>
        simp only [opening, Opening.append] at opens opens'
        refine ⟨?_, tracks.enters tracks.extended opens.2 opens'.2⟩
        rw [← opens'.1, ← opens.1]
        rfl

theorem takeItem_accompanied {own : Progress} {c : Char} {scan : Scan Progress input}
    (read : takeItem own c input = .ok scan) :
    Accompanied (fun progress input => takeItem progress c input) own scan := by
  by_cases opening : c = '('
  · subst opening
    exact takeGroup_accompanied read
  by_cases close : c = ')'
  · subst close
    obtain ⟨after, closed, rfl⟩ := Except.exists_of_map_eq_ok read
    refine ⟨false, by simp, ?_⟩
    intro bottom enclosed behind scan' _ tracks read'
    obtain ⟨after', closed', rfl⟩ := Except.exists_of_map_eq_ok read'
    exact ⟨rfl, tracks.closeGroup closed closed'⟩
  · obtain ⟨kept, reads⟩ := keeps_of_takeItem opening close read
    obtain ⟨commented, ended, goes⟩ := itemTail_continues reads
    refine ⟨commented, ended, ?_⟩
    intro bottom enclosed behind scan' encloses tracks read'
    obtain ⟨kept', reads'⟩ := keeps_of_takeItem opening close read'
    exact ⟨goes enclosed.flags behind _ tracks.extended encloses reads', tracks.keeps kept kept'⟩

theorem takeItems_nil (progress : Progress) : takeItems progress [] = .ok progress := by
  rw [takeItems]

theorem takeItems_ignored {progress : Progress} {c : Char}
    (ignored : (progress.flags.extended && (Text.isSpace c || c == '#')) = true)
    (text : List Char) : takeItems progress (c :: text) =
      takeItems progress (skipIgnoredFrom (c == '#') text).rest := by
  rw [takeItems, if_pos ignored]

theorem takeItems_item {progress progress' : Progress} {c : Char} {text : List Char}
    (visible : ¬(progress.flags.extended && (Text.isSpace c || c == '#')) = true)
    (read : takeItems progress (c :: text) = .ok progress') :
    ∃ scan, takeItem progress c text = .ok scan ∧
      takeItems scan.value scan.rest = .ok progress' := by
  rw [takeItems, if_neg visible] at read
  cases taken : takeItem progress c text with
  | error problem => simp [taken] at read
  | ok scan =>
      simp only [taken] at read
      exact ⟨scan, rfl, read⟩

theorem takeItems_taken {progress progress' : Progress} {c : Char} {text : List Char}
    {scan : Scan Progress text} (shown : progress.flags.extended = false)
    (taken : takeItem progress c text = .ok scan)
    (read : takeItems progress (c :: text) = .ok progress') :
    takeItems scan.value scan.rest = .ok progress' := by
  have visible : ¬(progress.flags.extended && (Text.isSpace c || c == '#')) = true := by
    rw [shown, Bool.false_and]
    exact Bool.false_ne_true
  obtain ⟨scan', taken', read⟩ := takeItems_item visible read
  obtain rfl : scan = scan' := Except.ok.inj (taken.symm.trans taken')
  exact read

/-- In parentheses, reading the text comes from the one state to the other at the end
of the text, or of a comment that it ends with. -/
def Enclosed (commented : Bool) (own own' : Progress) (text : List Char) : Prop :=
  ∀ bottom enclosed enclosed' behind, Encloses commented behind →
    Tracks bottom own enclosed → takeItems enclosed (text ++ behind) = .ok enclosed' →
      ∃ middle, Tracks bottom own' middle ∧
        takeItems middle (resume commented behind) = .ok enclosed'

theorem exists_enclosed_of_step {own next own' : Progress} {text rest : List Char}
    (first : ∃ commented, (commented = true → rest = []) ∧
      ∀ bottom enclosed enclosed' behind, Encloses commented behind →
        Tracks bottom own enclosed → takeItems enclosed (text ++ behind) = .ok enclosed' →
          ∃ middle, Tracks bottom next middle ∧
            takeItems middle (rest ++ resume commented behind) = .ok enclosed')
    (later : ∃ commented, Enclosed commented next own' rest)
    (read : takeItems next rest = .ok own') : ∃ commented, Enclosed commented own own' text := by
  obtain ⟨commented, ended, goes⟩ := first
  by_cases vacant : rest = []
  · subst vacant
    obtain rfl : next = own' := by simpa [takeItems_nil] using read
    refine ⟨commented, ?_⟩
    intro bottom enclosed enclosed' behind encloses tracks read'
    obtain ⟨middle, tracks', reads⟩ := goes bottom enclosed enclosed' behind encloses tracks read'
    exact ⟨middle, tracks', reads⟩
  · obtain ⟨commented', goes'⟩ := later
    have visible : commented = false := by
      rw [Bool.eq_false_iff]
      exact fun inComment => vacant (ended inComment)
    subst visible
    refine ⟨commented', ?_⟩
    intro bottom enclosed enclosed' behind encloses tracks read'
    obtain ⟨middle, tracks', reads⟩ :=
      goes bottom enclosed enclosed' behind (.of_paren encloses.paren) tracks read'
    exact goes' bottom middle enclosed' behind encloses tracks' reads

/-- A pattern that can be read by itself is read in parentheses in the same way. -/
theorem exists_enclosed {own own' : Progress} {input : List Char}
    (read : takeItems own input = .ok own') :
    ∃ commented, Enclosed commented own own' input := by
  induction sized : input.length using Nat.strongRecOn generalizing own input with
  | _ size induction =>
      cases input with
      | nil =>
          obtain rfl : own = own' := by simpa [takeItems_nil] using read
          refine ⟨false, ?_⟩
          intro bottom enclosed enclosed' behind _ tracks read'
          exact ⟨enclosed, tracks, read'⟩
      | cons c input =>
          rw [List.length_cons] at sized
          by_cases ignored : (own.flags.extended && (Text.isSpace c || c == '#')) = true
          · rw [takeItems_ignored ignored] at read
            have bounded := (skipIgnoredFrom (c == '#') input).bounded
            refine exists_enclosed_of_step ?_ (induction _ (by omega) read rfl) read
            obtain ⟨commented, ended, skips⟩ := skipIgnoredFrom_append (c == '#') input
            refine ⟨commented, ended, ?_⟩
            intro bottom enclosed enclosed' behind encloses tracks read'
            rw [← tracks.extended] at ignored
            rw [List.cons_append, takeItems_ignored ignored, skips behind encloses.paren] at read'
            exact ⟨enclosed, tracks, read'⟩
          · obtain ⟨scan, taken, later⟩ := takeItems_item ignored read
            have bounded := scan.bounded
            refine exists_enclosed_of_step ?_ (induction _ (by omega) later rfl) later
            obtain ⟨commented, ended, goes⟩ := takeItem_accompanied taken
            refine ⟨commented, ended, ?_⟩
            intro bottom enclosed enclosed' behind encloses tracks read'
            rw [← tracks.extended] at ignored
            obtain ⟨scan', taken', later'⟩ := takeItems_item ignored read'
            obtain ⟨left, tracks'⟩ := goes bottom enclosed behind scan' encloses tracks taken'
            exact ⟨scan'.value, tracks', left ▸ later'⟩

section Names

theorem remembers_of_opens {before after : Progress} {rest text : List Char}
    (opens : Opens before after rest text) : Remembers before after := by
  unfold Opens at opens
  split at opens
  · obtain ⟨name, -, -, named⟩ := opens
    exact named.enters.names
  · obtain ⟨scan, -, -, effect⟩ := opens
    split at effect
    · exact remembers_of_eq effect.2.2
    · exact effect.names
  · exact opens.2.names

theorem remembers_of_closeGroup {before after : Progress}
    (closed : before.closeGroup = .ok after) : Remembers before after := by
  unfold Progress.closeGroup at closed
  split at closed
  · simp at closed
  · rw [Except.ok.injEq] at closed
    subst closed
    exact remembers_of_eq rfl

theorem remembers_of_takeItem {progress : Progress} {c : Char} {scan : Scan Progress input}
    (read : takeItem progress c input = .ok scan) : Remembers progress scan.value := by
  by_cases opening : c = '('
  · subst opening
    exact remembers_of_opens (opens_of_takeGroup read)
  by_cases close : c = ')'
  · subst close
    obtain ⟨after, closed, rfl⟩ := Except.exists_of_map_eq_ok read
    exact remembers_of_closeGroup closed
  · exact remembers_of_eq (keeps_of_takeItem opening close read).1.names

theorem remembers_of_takeItems {before after : Progress}
    (read : takeItems before input = .ok after) : Remembers before after := by
  induction sized : input.length using Nat.strongRecOn generalizing before input with
  | _ size induction =>
      cases input with
      | nil =>
          obtain rfl : before = after := by simpa [takeItems_nil] using read
          exact remembers_of_eq rfl
      | cons c input =>
          rw [List.length_cons] at sized
          by_cases ignored : (before.flags.extended && (Text.isSpace c || c == '#')) = true
          · rw [takeItems_ignored ignored] at read
            have bounded := (skipIgnoredFrom (c == '#') input).bounded
            exact induction _ (by omega) read rfl
          · obtain ⟨scan, taken, later⟩ := takeItems_item ignored read
            have bounded := scan.bounded
            exact (remembers_of_takeItem taken).trans (induction _ (by omega) later rfl)

end Names

end ColumnFilter.Regex
