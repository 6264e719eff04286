import Mathlib.Data.List.Forall2
import ColumnFilter.Dialect
import ColumnFilter.Strategy.Like

/-!
# Patterns with wildcards

How a dialect reads a pattern: which characters are wildcards, and which
character takes this meaning from the next one.  A pattern that is made to find
a text anywhere does so in the dialects without classes of characters; in the
others it does so exactly for the texts without an opening bracket, which is
left unescaped.
-/

namespace ColumnFilter

namespace Like

/-- A character of a pattern: one that may be a wildcard, or one that an escape
made to stand for itself. -/
inductive Symbol where
  | plain (c : Char)
  | escaped (c : Char)
  deriving DecidableEq, Repr

def Symbol.char : Symbol → Char
  | .plain c => c
  | .escaped c => c

/-- The characters of a pattern.  There are none if an escape stands at the end. -/
def symbols? (escape : Option Char) : List Char → Option (List Symbol)
  | [] => some []
  | [c] => if escape = some c then none else some [.plain c]
  | c :: d :: rest =>
      if escape = some c then (symbols? escape rest).map (.escaped d :: ·)
      else (symbols? escape (d :: rest)).map (.plain c :: ·)

/-- What a place of a pattern asks for. -/
inductive Atom where
  /-- Any characters, as many as there may be. -/
  | sequence
  /-- One character, whichever it is. -/
  | character
  | letter (c : Char)
  /-- One character of a class, written between brackets. -/
  | class (body : List Symbol)
  deriving DecidableEq, Repr

/-- The places of a pattern, read from its characters; `body` is what was read of a
class that is still open, the latest first.  A class has to be closed. -/
def atoms? (classes : Bool) : (body : Option (List Symbol)) → List Symbol → Option (List Atom)
  | none, [] => some []
  | some _, [] => none
  | some body, symbol :: rest =>
      if symbol = .plain ']' then (atoms? classes none rest).map (.class body.reverse :: ·)
      else atoms? classes (some (symbol :: body)) rest
  | none, symbol :: rest =>
      if symbol = .plain '%' then (atoms? classes none rest).map (.sequence :: ·)
      else if symbol = .plain '_' then (atoms? classes none rest).map (.character :: ·)
      else if classes = true ∧ symbol = .plain '[' then atoms? classes (some []) rest
      else (atoms? classes none rest).map (.letter symbol.char :: ·)

section Comparing

variable (same : Char → Char → Prop)

/-- The character is one of those listed, one by one or as the ends of a range. -/
def Listed (c : Char) : List Symbol → Prop
  | [] => False
  | first :: .plain '-' :: last :: rest =>
      (∃ d, same c d ∧ first.char ≤ d ∧ d ≤ last.char) ∨ Listed c rest
  | symbol :: rest => same c symbol.char ∨ Listed c rest

/-- The place can be taken by this one character. -/
def Atom.Allows (c : Char) : Atom → Prop
  | .sequence => False
  | .character => True
  | .letter d => same c d
  | .class (.plain '^' :: body) => ¬ Listed same c body
  | .class body => Listed same c body

/-- The text matches the places, one after the other. -/
inductive Fits : List Atom → List Char → Prop where
  | nil : Fits [] []
  | one {atom : Atom} {atoms : List Atom} {c : Char} {text : List Char} :
      atom.Allows same c → Fits atoms text → Fits (atom :: atoms) (c :: text)
  | pass {atoms : List Atom} {text : List Char} :
      Fits atoms text → Fits (.sequence :: atoms) text
  | skip {atoms : List Atom} {c : Char} {text : List Char} :
      Fits (.sequence :: atoms) text → Fits (.sequence :: atoms) (c :: text)

/-- The text has the part somewhere in it. -/
def Contains (text part : String) : Prop :=
  ∃ before found after, text.toList = before ++ found ++ after ∧
    List.Forall₂ same found part.toList

end Comparing

theorem contains_eq_iff {text part : String} :
    Contains Eq text part ↔ part.toList <:+: text.toList := by
  simp only [Contains, List.forall₂_eq_eq_eq]
  constructor
  · rintro ⟨before, found, after, whole, rfl⟩
    exact ⟨before, after, whole.symm⟩
  · rintro ⟨before, after, whole⟩
    exact ⟨before, part.toList, after, whole.symm, rfl⟩

/-- What is special in the patterns of an engine. -/
structure Wildcards where
  escape : Option Char
  /-- Are there classes of characters, between brackets? -/
  classes : Bool
  deriving DecidableEq, Repr

namespace Wildcards

def read? (wildcards : Wildcards) (pattern : String) : Option (List Atom) :=
  (symbols? wildcards.escape pattern.toList).bind (atoms? wildcards.classes none)

/-- The text matches the pattern as a whole; nothing matches an unfinished one. -/
def Matches (wildcards : Wildcards) (same : Char → Char → Prop) (pattern text : String) : Prop :=
  ∃ atoms, wildcards.read? pattern = some atoms ∧ Fits same atoms text.toList

end Wildcards

/-- The character between the quotes of an escape clause. -/
def namedEscape (clause : String) : Option Char :=
  ((clause.toList.dropWhile (· != '\'')).drop 1).head?

end Like

namespace Dialect

/-- The escape in patterns without an escape clause. -/
def defaultEscape : Dialect → Option Char
  | .mySql => some '\\'
  | .postgres => some '\\'
  | .sqlServer => none
  | .sqlServer2012 => none

def hasClasses : Dialect → Bool
  | .mySql => false
  | .postgres => false
  | .sqlServer => true
  | .sqlServer2012 => true

/-- What is special in a pattern behind the operators that the dialect writes. -/
def wildcards (dialect : Dialect) : Like.Wildcards where
  escape :=
    match dialect.likeEscape? with
    | some clause => Like.namedEscape clause
    | none => dialect.defaultEscape
  classes := dialect.hasClasses

@[simp] theorem escape_wildcards (dialect : Dialect) :
    dialect.wildcards.escape = some '\\' := by
  cases dialect <;> rfl

end Dialect

namespace Like

/-- A character of a text, read from its escaped form. -/
def spelled (c : Char) : Symbol :=
  if c = '%' ∨ c = '_' ∨ c = '\\' then .escaped c else .plain c

@[simp] theorem char_spelled (c : Char) : (spelled c).char = c := by
  unfold spelled
  split <;> rfl

theorem symbols?_escape (text behind : List Char) :
    symbols? (some '\\') (escape text ++ behind) =
      (symbols? (some '\\') behind).map (text.map spelled ++ ·) := by
  induction text with
  | nil => simp [escape]
  | cons c text induction =>
      have step : symbols? (some '\\') (escapeChar c ++ (escape text ++ behind)) =
          (symbols? (some '\\') (escape text ++ behind)).map (spelled c :: ·) := by
        unfold escapeChar spelled
        by_cases special : c = '%' ∨ c = '_' ∨ c = '\\'
        · simp [special, symbols?]
        · rw [if_neg special, if_neg special]
          have other : '\\' ≠ c := fun same => special (.inr (.inr same.symm))
          cases escape text ++ behind with
          | nil => simp [symbols?, other]
          | cons d rest => simp [symbols?, other]
      rw [escape, List.flatMap_cons, List.append_assoc, ← escape, step, induction]
      simp [Function.comp_def]

/-- A pattern made of a text has one character for each of the text, between two
wildcards. -/
theorem symbols?_containing (part : String) :
    symbols? (some '\\') (containing part).toList =
      some (.plain '%' :: (part.toList.map spelled ++ [.plain '%'])) := by
  have ending : symbols? (some '\\') ['%'] = some [.plain '%'] := rfl
  have escaped := symbols?_escape part.toList ['%']
  rw [ending, Option.map_some] at escaped
  have shape : (containing part).toList = '%' :: (escape part.toList ++ ['%']) := by
    simp [containing]
  rw [shape]
  cases behind : escape part.toList ++ ['%'] with
  | nil => simp at behind
  | cons d rest =>
      rw [behind] at escaped
      simp [symbols?, escaped]

theorem spelled_ne_percent (c : Char) : spelled c ≠ .plain '%' := by
  unfold spelled
  by_cases special : c = '%' ∨ c = '_' ∨ c = '\\'
  · simp [special]
  · rw [if_neg special]
    intro same
    exact special (.inl (Symbol.plain.inj same))

theorem spelled_ne_underscore (c : Char) : spelled c ≠ .plain '_' := by
  unfold spelled
  by_cases special : c = '%' ∨ c = '_' ∨ c = '\\'
  · simp [special]
  · rw [if_neg special]
    intro same
    exact special (.inr (.inl (Symbol.plain.inj same)))

theorem spelled_eq_bracket_iff {c : Char} : spelled c = .plain '[' ↔ c = '[' := by
  unfold spelled
  by_cases special : c = '%' ∨ c = '_' ∨ c = '\\'
  · rw [if_pos special]
    simp only [reduceCtorEq, false_iff]
    rintro rfl
    simp at special
  · rw [if_neg special]
    simp

/-- Without an opening bracket that means one, every character of the text stands
for itself. -/
theorem atoms?_spelled {classes : Bool} {text : List Char}
    (unbracketed : classes = false ∨ '[' ∉ text) (behind : List Symbol) :
    atoms? classes none (text.map spelled ++ behind) =
      (atoms? classes none behind).map (text.map Atom.letter ++ ·) := by
  induction text with
  | nil => simp
  | cons c text induction =>
      have noBracket : ¬ (classes = true ∧ spelled c = .plain '[') := by
        rw [spelled_eq_bracket_iff]
        rintro ⟨enabled, rfl⟩
        rcases unbracketed with disabled | absent
        · simp [disabled] at enabled
        · exact absent List.mem_cons_self
      have later : classes = false ∨ '[' ∉ text :=
        unbracketed.imp id fun absent inside => absent (List.mem_cons_of_mem c inside)
      rw [List.map_cons, List.cons_append, atoms?, if_neg (spelled_ne_percent c),
        if_neg (spelled_ne_underscore c), if_neg noBracket, induction later]
      simp [Function.comp_def]

variable {same : Char → Char → Prop}

theorem fits_sequence_cons {atoms : List Atom} {text : List Char} :
    Fits same (.sequence :: atoms) text ↔
      ∃ before after, text = before ++ after ∧ Fits same atoms after := by
  constructor
  · generalize shape : Atom.sequence :: atoms = all
    intro fits
    induction fits with
    | nil => simp at shape
    | one allowed _ =>
        obtain ⟨rfl, -⟩ := List.cons.inj shape
        exact allowed.elim
    | pass fits _ =>
        obtain ⟨-, rfl⟩ := List.cons.inj shape
        exact ⟨[], _, rfl, fits⟩
    | @skip _ c text _ induction =>
        obtain ⟨before, after, rfl, fits⟩ := induction shape
        exact ⟨c :: before, after, rfl, fits⟩
  · rintro ⟨before, after, rfl, fits⟩
    induction before with
    | nil => exact .pass fits
    | cons c before induction => exact .skip induction

theorem fits_sequence (text : List Char) : Fits same [.sequence] text :=
  fits_sequence_cons.mpr ⟨text, [], by simp, .nil⟩

theorem fits_letters {letters : List Char} {atoms : List Atom} {text : List Char} :
    Fits same (letters.map Atom.letter ++ atoms) text ↔
      ∃ found after, text = found ++ after ∧ List.Forall₂ same found letters ∧
        Fits same atoms after := by
  induction letters generalizing text with
  | nil => simp
  | cons letter letters induction =>
      rw [List.map_cons, List.cons_append]
      constructor
      · intro fits
        cases fits with
        | @one _ _ c text allowed fits =>
            obtain ⟨found, after, rfl, equal, fits⟩ := induction.mp fits
            exact ⟨c :: found, after, rfl, .cons allowed equal, fits⟩
      · rintro ⟨found, after, rfl, equal, fits⟩
        cases equal with
        | @cons c _ found _ allowed equal =>
            exact .one allowed (induction.mpr ⟨found, after, rfl, equal, fits⟩)

/-- The pattern of a text matches what contains the text, whatever wildcards the
text is made of. -/
theorem matches_containing_iff {wildcards : Wildcards} (backslash : wildcards.escape = some '\\')
    {part : String} (unbracketed : wildcards.classes = false ∨ '[' ∉ part.toList)
    (text : String) :
    wildcards.Matches same (containing part) text ↔ Contains same text part := by
  have read : wildcards.read? (containing part) =
      some (.sequence :: (part.toList.map Atom.letter ++ [.sequence])) := by
    rw [Wildcards.read?, backslash, symbols?_containing, Option.bind_some, atoms?, if_pos rfl,
      atoms?_spelled unbracketed]
    simp [atoms?]
  simp only [Wildcards.Matches, read, Option.some.injEq, exists_eq_left', fits_sequence_cons,
    fits_letters, Contains]
  constructor
  · rintro ⟨before, rest, whole, found, after, rfl, equal, -⟩
    exact ⟨before, found, after, by rw [whole, List.append_assoc], equal⟩
  · rintro ⟨before, found, after, whole, equal⟩
    exact ⟨before, found ++ after, by rw [whole, List.append_assoc], found, after, rfl, equal,
      after, [], by simp, .nil⟩

/-- Reading a text that was left with its brackets never makes places for more
characters than the text has, and a class makes one place of several of them. -/
theorem atoms?_spelled_length {classes : Bool} {body : Option (List Symbol)} {text : List Char}
    {atoms : List Atom} (read : atoms? classes body (text.map spelled ++ [.plain '%']) = some atoms)
    (enabled : classes = true) :
    ∃ middle, atoms = middle ++ [.sequence] ∧ .sequence ∉ middle ∧
      middle.length ≤ text.length ∧
      (body = none → '[' ∈ text → middle.length < text.length) := by
  subst enabled
  -- The induction is on the text, over a class that may be open.
  induction text generalizing body atoms with
  | nil =>
      cases body with
      | none =>
          obtain rfl : [.sequence] = atoms := by simpa [atoms?] using read
          exact ⟨[], by simp⟩
      | some body => simp [atoms?] at read
  | cons c text induction =>
      rw [List.map_cons, List.cons_append] at read
      cases body with
      | none =>
          rw [atoms?, if_neg (spelled_ne_percent c), if_neg (spelled_ne_underscore c)] at read
          by_cases noBracket : true = true ∧ spelled c = Symbol.plain '['
          · rw [if_pos noBracket] at read
            obtain ⟨middle, rfl, absent, bound, -⟩ := induction read
            exact ⟨middle, rfl, absent, by simp; omega, fun _ _ => by simp; omega⟩
          · rw [if_neg noBracket] at read
            have other : c ≠ '[' := fun bracket =>
              noBracket ⟨rfl, spelled_eq_bracket_iff.mpr bracket⟩
            obtain ⟨atoms, behind, rfl⟩ := Option.map_eq_some_iff.mp read
            obtain ⟨middle, rfl, absent, bound, strict⟩ := induction behind
            refine ⟨.letter c :: middle, by simp, by simpa using absent, by simpa using bound, ?_⟩
            intro _ inside
            rcases List.mem_cons.mp inside with bracket | inside
            · exact absurd bracket.symm other
            · simpa using strict rfl inside
      | some body =>
          rw [atoms?] at read
          split at read
          · obtain ⟨atoms, behind, rfl⟩ := Option.map_eq_some_iff.mp read
            obtain ⟨middle, rfl, absent, bound, -⟩ := induction behind
            exact ⟨.class body.reverse :: middle, by simp, by simpa using absent,
              by simpa using bound, by simp⟩
          · obtain ⟨middle, rfl, absent, bound, -⟩ := induction read
            exact ⟨middle, rfl, absent, by simp; omega, by simp⟩

theorem Fits.length_eq {atoms : List Atom} {text : List Char} (fits : Fits same atoms text)
    (fixed : .sequence ∉ atoms) : text.length = atoms.length := by
  induction fits with
  | nil => rfl
  | one _ _ induction => simp [induction fun inside => fixed (List.mem_cons_of_mem _ inside)]
  | pass _ _ => simp at fixed
  | skip _ _ => simp at fixed

theorem fits_append {first second : List Atom} (fixed : .sequence ∉ first) {text : List Char} :
    Fits same (first ++ second) text ↔
      ∃ before after, text = before ++ after ∧ Fits same first before ∧
        Fits same second after := by
  induction first generalizing text with
  | nil =>
      constructor
      · intro fits
        exact ⟨[], text, rfl, .nil, fits⟩
      · rintro ⟨before, after, rfl, fits, fits'⟩
        cases fits
        exact fits'
  | cons atom first induction =>
      have later : .sequence ∉ first := fun inside => fixed (List.mem_cons_of_mem atom inside)
      constructor
      · intro fits
        cases fits with
        | @one _ _ c text allowed fits =>
            obtain ⟨before, after, rfl, fits, fits'⟩ := (induction later).mp fits
            exact ⟨c :: before, after, rfl, .one allowed fits, fits'⟩
        | pass _ => simp at fixed
        | skip _ => simp at fixed
      · rintro ⟨before, after, rfl, fits, fits'⟩
        cases fits with
        | @one _ _ c before allowed fits =>
            exact .one allowed ((induction later).mpr ⟨before, after, rfl, fits, fits'⟩)
        | pass _ => simp at fixed
        | skip _ => simp at fixed

/-- In a dialect with classes of characters, the pattern of a text finds exactly that
text when there is no opening bracket in it.  With one, whatever characters are held
the same, some text is found that is too short, or the text itself is not. -/
theorem sqlServer_matches_containing_iff {dialect : Dialect}
    (server : dialect = .sqlServer ∨ dialect = .sqlServer2012) (same : Setoid Char)
    (part : String) :
    (∀ text, dialect.wildcards.Matches same.r (containing part) text ↔
        Contains same.r text part) ↔
      '[' ∉ part.toList := by
  have classes : dialect.wildcards.classes = true := by
    rcases server with rfl | rfl <;> rfl
  constructor
  · intro finds bracketed
    have whole : Contains same.r part part :=
      ⟨[], part.toList, [], by simp, List.forall₂_same.mpr fun c _ => same.refl c⟩
    obtain ⟨atoms, read, fits⟩ := (finds part).mpr whole
    -- The places of the pattern between the sequences are fewer than the characters.
    obtain ⟨middle, shape, fixed, -, shorter⟩ :
        ∃ middle, atoms = .sequence :: (middle ++ [.sequence]) ∧ .sequence ∉ middle ∧
          middle.length ≤ part.toList.length ∧
          ((none : Option (List Symbol)) = none → '[' ∈ part.toList →
            middle.length < part.toList.length) := by
      rw [Wildcards.read?, Dialect.escape_wildcards, symbols?_containing, Option.bind_some,
        atoms?, if_pos rfl] at read
      obtain ⟨behind, read', rfl⟩ := Option.map_eq_some_iff.mp read
      obtain ⟨middle, rfl, rest⟩ := atoms?_spelled_length read' classes
      exact ⟨middle, rfl, rest⟩
    subst shape
    obtain ⟨before, rest, -, fits⟩ := fits_sequence_cons.mp fits
    obtain ⟨found, after, -, taken, -⟩ := (fits_append fixed).mp fits
    have short : dialect.wildcards.Matches same.r (containing part) (String.ofList found) := by
      refine ⟨_, read, fits_sequence_cons.mpr ⟨[], found, by simp, ?_⟩⟩
      exact (fits_append fixed).mpr ⟨found, [], by simp, taken, fits_sequence []⟩
    obtain ⟨before, occurrence, after, split, equal⟩ := (finds _).mp short
    have length : found.length = before.length + (occurrence.length + after.length) := by
      simpa using congrArg List.length split
    have := shorter rfl bracketed
    have := taken.length_eq fixed
    have := equal.length_eq
    omega
  · intro unbracketed text
    exact matches_containing_iff (Dialect.escape_wildcards dialect) (.inr unbracketed) text

theorem sqlServer_matches_containing_iff_escaped :
    Dialect.sqlServer.wildcards.Matches Eq (containing "5%_") "to 5%_" ∧
      ¬ Dialect.sqlServer.wildcards.Matches Eq (containing "5%_") "50%" := by
  have finds : ∀ text, Dialect.sqlServer.wildcards.Matches Eq (containing "5%_") text ↔
      Contains Eq text "5%_" :=
    (sqlServer_matches_containing_iff (.inl rfl) ⟨Eq, eq_equivalence⟩ "5%_").mpr (by decide)
  rw [finds, finds, contains_eq_iff, contains_eq_iff]
  exact ⟨⟨"to ".toList, [], rfl⟩, by decide⟩

/-- The pattern of a text that is itself a class finds a single character. -/
theorem sqlServer_matches_containing_class :
    Dialect.sqlServer.wildcards.Matches Eq (containing "[ab]") "a" ∧ ¬ Contains Eq "a" "[ab]" := by
  constructor
  · refine ⟨[.sequence, .class [.plain 'a', .plain 'b'], .sequence], by decide +kernel, ?_⟩
    exact .pass (.one (.inl rfl) (fits_sequence []))
  · rw [contains_eq_iff]
    decide

end Like

end ColumnFilter
