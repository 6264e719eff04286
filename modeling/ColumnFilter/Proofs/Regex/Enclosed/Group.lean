import ColumnFilter.Proofs.Regex.Enclosed.Repetition

/-!
# Groups in an enclosed pattern

How a group is opened is told by what follows its parenthesis: a name, flags, or
neither.  Flags may also hold from there on without a group.
-/

namespace ColumnFilter.Regex

open Text (Scan)

variable {flags flags' : Flags} {input behind rest rest' : List Char}

theorem setFlag_extended {c : Char} {on : Bool} {next next' : Flags}
    (same : flags'.extended = flags.extended) (set : setFlag flags c on = some next)
    (set' : setFlag flags' c on = some next') : next'.extended = next.extended := by
  unfold setFlag at set set'
  split at set <;> cases set <;> cases set' <;> first | exact same | rfl

theorem takeFlags_append (same : flags'.extended = flags.extended) {used : List Char}
    {on dangling : Bool} {input : List Char} {scan : Scan (Flags × Bool × Bool) input}
    {scan' : Scan (Flags × Bool × Bool) (input ++ behind)}
    (read : takeFlags flags used on dangling input = .ok scan)
    (read' : takeFlags flags' used on dangling (input ++ behind) = .ok scan') :
    scan'.rest = scan.rest ++ behind ∧ scan'.value.1.extended = scan.value.1.extended ∧
      scan'.value.2 = scan.value.2 := by
  induction input generalizing flags flags' used on dangling with
  | nil => simp [takeFlags] at read
  | cons c input induction =>
      simp only [List.cons_append, takeFlags] at read read'
      by_cases last : c = ':' ∨ c = ')'
      · rw [if_pos last] at read read'
        by_cases done : dangling
        · rw [if_pos done] at read
          simp at read
        · rw [if_neg done] at read read'
          rw [Except.ok.injEq] at read read'
          subst read read'
          exact ⟨rfl, same, rfl⟩
      rw [if_neg last] at read read'
      by_cases repeated : used.contains c
      · rw [if_pos repeated] at read
        simp at read
      rw [if_neg repeated] at read read'
      by_cases minus : c = '-'
      · rw [if_pos minus] at read read'
        obtain ⟨inner, later, rfl⟩ := Except.exists_of_map_eq_ok read
        obtain ⟨inner', later', rfl⟩ := Except.exists_of_map_eq_ok read'
        exact induction same later later'
      · rw [if_neg minus] at read read'
        cases set : setFlag flags c on with
        | none => simp [set] at read
        | some next =>
            cases set' : setFlag flags' c on with
            | none => simp [set'] at read'
            | some next' =>
                simp only [set] at read
                simp only [set'] at read'
                obtain ⟨inner, later, rfl⟩ := Except.exists_of_map_eq_ok read
                obtain ⟨inner', later', rfl⟩ := Except.exists_of_map_eq_ok read'
                exact induction (setFlag_extended same set set') later later'

theorem takeGroupName_append {first : Bool}
    (leaves : Leaves (takeGroupName first input) rest)
    (leaves' : Leaves (takeGroupName first (input ++ behind)) rest') :
    rest' = rest ++ behind := by
  induction input generalizing first with
  | nil => simp [takeGroupName] at leaves
  | cons c input induction =>
      rw [List.cons_append] at leaves'
      simp only [takeGroupName] at leaves leaves'
      by_cases bracket : c = '>'
      · rw [if_pos bracket] at leaves leaves'
        by_cases later : first
        · rw [if_pos later] at leaves
          simp at leaves
        · rw [if_neg later] at leaves leaves'
          simp only [leaves_ok, Scan.rest_first] at leaves leaves'
          rw [← leaves, ← leaves']
      · rw [if_neg bracket] at leaves leaves'
        by_cases named : isNameChar first c
        · rw [if_pos named] at leaves leaves'
          simp only [leaves_map, Scan.rest_past, Scan.rest_map, exists_ok_rest] at leaves leaves'
          exact induction leaves leaves'
        · rw [if_neg named] at leaves
          simp at leaves

/-- How the text behind an opening parenthesis begins. -/
inductive Opening where
  | named (text : List Char)
  | flagged (text : List Char)
  | plain
  deriving DecidableEq

namespace Opening

def ofText : List Char → Opening
  | '?' :: 'P' :: '<' :: text => .named text
  | '?' :: '<' :: text => .named text
  | '?' :: text => .flagged text
  | _ => .plain

def append (behind : List Char) : Opening → Opening
  | .named text => .named (text ++ behind)
  | .flagged text => .flagged (text ++ behind)
  | .plain => .plain

theorem ofText_append (paren : behind.head? = some ')') (text : List Char) :
    ofText (text ++ behind) = (ofText text).append behind := by
  obtain ⟨tail, rfl⟩ := List.head?_eq_some_iff.mp paren
  cases text with
  | nil => rfl
  | cons c text =>
      by_cases mark : c = '?'
      · subst mark
        cases text with
        | nil => rfl
        | cons d text =>
            by_cases bracket : d = '<'
            · subst bracket
              rfl
            · by_cases letter : d = 'P'
              · subst letter
                cases text with
                | nil => rfl
                | cons e text =>
                    by_cases bracket : e = '<'
                    · subst bracket
                      rfl
                    · simp [ofText, append, bracket]
              · simp [ofText, append, bracket, letter]
      · simp [ofText, append, mark]

theorem ofText_of_head {text : List Char} (plain : text.head? ≠ some '?') :
    ofText text = .plain := by
  cases text with
  | nil => rfl
  | cons c text =>
      have other : c ≠ '?' := by simpa using plain
      simp [ofText, other]

end Opening

/-- A group is opened, inside which such flags hold. -/
structure Enters (before after : Progress) (flags : Flags) : Prop where
  flags : after.flags = flags
  groups : ∃ level index, after.groups = ⟨level, before.flags, index⟩ :: before.groups
  names : Remembers before after

/-- A group with a new name is opened. -/
structure Names (before after : Progress) (name : String) : Prop where
  flags : after.flags = before.flags
  level : after.level = ⟨[], []⟩
  groups : after.groups = ⟨before.level, before.flags, some (before.count + 1)⟩ :: before.groups
  count : after.count = before.count + 1
  names : after.names = (name, before.count + 1) :: before.names
  fresh : (before.names.lookup name).isSome = false

theorem Names.eq {before after : Progress} {name : String} (named : Names before after name) :
    after = { before.openCapture with names := (name, before.count + 1) :: before.names } := by
  obtain ⟨flags, level, groups, count, names, -⟩ := named
  cases after
  subst flags level groups count names
  rfl

theorem Names.enters {before after : Progress} {name : String} (named : Names before after name) :
    Enters before after before.flags :=
  ⟨named.flags, ⟨_, _, named.groups⟩, remembers_of_cons named.names named.fresh⟩

theorem names_of_openNamed {progress : Progress} {scan : Scan Progress input}
    (read : openNamed progress input = .ok scan) {text : List Char} (same : input = text) :
    ∃ name, takeGroupName true text = .ok name ∧ name.rest = scan.rest ∧
      Names progress scan.value (String.ofList name.value) := by
  subst same
  unfold openNamed at read
  cases named : takeGroupName true input with
  | error problem => simp [named] at read
  | ok name =>
      simp only [named] at read
      by_cases known : (List.lookup (String.ofList name.value) progress.names).isSome
      · rw [if_pos known] at read
        simp at read
      · rw [if_neg known, Except.ok.injEq] at read
        subst read
        exact ⟨name, rfl, rfl, rfl, rfl, rfl, rfl, rfl, Bool.eq_false_iff.mpr known⟩

/-- The flags that are written behind a question mark hold from here on, or inside a
group that is opened. -/
def Flagged (before after : Progress) (rest text : List Char) : Prop :=
  ∃ scan, takeFlags before.flags [] true false text = .ok scan ∧ scan.rest = rest ∧
    if scan.value.2.2 then
      after.flags = scan.value.1 ∧ after.groups = before.groups ∧ after.names = before.names
    else Enters before after scan.value.1

theorem flagged_of_openFlags {progress : Progress} {scan : Scan Progress input}
    (read : openFlags progress input = .ok scan) {letters : List Char} (same : input = letters) :
    Flagged progress scan.value scan.rest letters := by
  subst same
  unfold openFlags at read
  cases flagged : takeFlags progress.flags [] true false input with
  | error problem => simp [flagged] at read
  | ok letters =>
      simp only [flagged] at read
      refine ⟨letters, flagged, ?_⟩
      by_cases alone : letters.1.2.snd
      · rw [if_pos alone] at read
        by_cases vacant : letters.1.2.fst
        · rw [if_pos vacant] at read
          simp at read
        · rw [if_neg vacant, Except.ok.injEq] at read
          subst read
          rw [if_pos alone]
          exact ⟨rfl, rfl, rfl, rfl⟩
      · rw [if_neg alone, Except.ok.injEq] at read
        subst read
        rw [if_neg alone]
        exact ⟨rfl, rfl, ⟨_, _, rfl⟩, remembers_of_eq rfl⟩

/-- What reading the start of a group does, by how its text begins. -/
def Opens (before after : Progress) (rest text : List Char) : Prop :=
  match Opening.ofText text with
  | .named text =>
      ∃ name, takeGroupName true text = .ok name ∧ name.rest = rest ∧
        Names before after (String.ofList name.value)
  | .flagged letters => Flagged before after rest letters
  | .plain => text = rest ∧ Enters before after before.flags

theorem opens_of_takeGroup {progress : Progress} {scan : Scan Progress input}
    (read : takeGroup progress input = .ok scan) :
    Opens progress scan.value scan.rest (skipIgnored progress.flags input).rest := by
  have drop : ∀ {length : Nat} {text : List Char}, (skipIgnored progress.flags input).rest = text →
      (skipIgnored progress.flags input).rest.drop length = text.drop length :=
    fun shape => congrArg _ shape
  revert read
  fun_cases takeGroup progress input with
  | case1 | case2 | case3 | case4 => simp
  | case5 start widen name shape =>
      intro read
      obtain ⟨inner, named, rfl⟩ := Except.exists_of_map_eq_ok read
      have opening : Opening.ofText start.rest = .named name := by
        rw [shape]
        rfl
      rw [Opens, opening]
      exact names_of_openNamed named (drop shape)
  | case6 start widen name _ _ shape =>
      intro read
      obtain ⟨inner, named, rfl⟩ := Except.exists_of_map_eq_ok read
      have opening : Opening.ofText start.rest = .named name := by
        rw [shape]
        rfl
      rw [Opens, opening]
      exact names_of_openNamed named (drop shape)
  | case7 start widen letters _ _ _ _ named bracket shape =>
      intro read
      obtain ⟨inner, flagged, rfl⟩ := Except.exists_of_map_eq_ok read
      have opening : Opening.ofText start.rest = .flagged letters := by
        rw [shape, Opening.ofText.eq_3]
        · exact named
        · exact bracket
      rw [Opens, opening]
      exact flagged_of_openFlags flagged (drop shape)
  | case8 start _ _ _ _ _ _ plain =>
      intro read
      rw [Except.ok.injEq] at read
      subst read
      have opening : Opening.ofText start.rest = .plain := by
        apply Opening.ofText_of_head
        intro mark
        obtain ⟨text, shape⟩ := List.head?_eq_some_iff.mp mark
        exact plain text shape
      rw [Opens, opening]
      exact ⟨rfl, rfl, ⟨_, _, rfl⟩, remembers_of_eq rfl⟩

end ColumnFilter.Regex
