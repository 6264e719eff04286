import Mathlib.Data.List.Forall2
import ColumnFilter.Proofs.Sql.Truth

/-!
# Formulas and their text

How a text of atoms, constants, parentheses and connectives is read depends on which
connective binds tighter.  A grammar with two levels of connectives says what the
readings are.  A reader with a stack of open parentheses is moved by every text as
its reading says, so that no text has two readings.
-/

namespace ColumnFilter

/-- What joins the members of a junction. -/
inductive Connective where
  | and
  | or
  deriving DecidableEq, Repr

namespace Connective

def other : Connective → Connective
  | .and => .or
  | .or => .and

theorem other_ne (connective : Connective) : connective.other ≠ connective := by
  cases connective <;> decide

theorem eq_other_of_ne {first second : Connective} (different : first ≠ second) :
    first = second.other := by
  cases first <;> cases second <;> simp_all [other]

def apply : Connective → Truth → Truth → Truth
  | .and => Truth.and
  | .or => Truth.or

/-- What stands between the members. -/
def text : Connective → String
  | .and => " AND "
  | .or => " OR "

/-- What a junction without members comes to. -/
def neutral : Connective → Bool
  | .and => true
  | .or => false

def applyAll : Connective → List Truth → Truth
  | .and => Truth.all
  | .or => Truth.any

theorem applyAll_nil (connective : Connective) :
    connective.applyAll [] = .ofBool connective.neutral := by
  cases connective <;> rfl

theorem applyAll_cons (connective : Connective) (truth : Truth) (truths : List Truth) :
    connective.applyAll (truth :: truths) = truths.foldl connective.apply truth := by
  induction truths generalizing truth with
  | nil => cases connective <;> simp [applyAll]
  | cons next truths induction =>
      rw [List.foldl_cons, ← induction]
      cases connective with
      | and => simp only [applyAll, apply, Truth.all_cons, Truth.and_assoc]
      | or => simp only [applyAll, apply, Truth.any_cons, Truth.or_assoc]

end Connective

/-- A formula over atoms, with binary connectives. -/
inductive Formula (α : Type) where
  | atom (name : α)
  | constant (holds : Bool)
  | join (connective : Connective) (left right : Formula α)

namespace Formula

variable {α : Type}

def value (worth : α → Truth) : Formula α → Truth
  | .atom name => worth name
  | .constant holds => .ofBool holds
  | .join connective left right => connective.apply (left.value worth) (right.value worth)

inductive Token (α : Type) where
  | atom (name : α)
  | constant (holds : Bool)
  | opening
  | closing
  | connective (connective : Connective)

/-- What a text may hold outside of parentheses: no connective, the tighter one, or
both. -/
inductive Level where
  | operand
  | tight
  | loose

/-- The readings of a text when the connective `tighter` binds tighter than the other
one and repeated connectives group from the left. -/
inductive Reads (tighter : Connective) : Level → List (Token α) → Formula α → Prop where
  | atom (name : α) : Reads tighter .operand [.atom name] (.atom name)
  | constant (holds : Bool) : Reads tighter .operand [.constant holds] (.constant holds)
  | group {tokens : List (Token α)} {formula : Formula α}
      (inner : Reads tighter .loose tokens formula) :
      Reads tighter .operand (.opening :: tokens ++ [.closing]) formula
  | operand {tokens : List (Token α)} {formula : Formula α}
      (single : Reads tighter .operand tokens formula) : Reads tighter .tight tokens formula
  | tight {front back : List (Token α)} {left right : Formula α}
      (first : Reads tighter .tight front left) (last : Reads tighter .operand back right) :
      Reads tighter .tight (front ++ .connective tighter :: back) (.join tighter left right)
  | chain {tokens : List (Token α)} {formula : Formula α}
      (single : Reads tighter .tight tokens formula) : Reads tighter .loose tokens formula
  | loose {front back : List (Token α)} {left right : Formula α}
      (first : Reads tighter .loose front left) (last : Reads tighter .tight back right) :
      Reads tighter .loose (front ++ .connective tighter.other :: back)
        (.join tighter.other left right)

/-- What a reader has read since the innermost open parenthesis: the formula in front
of the last looser connective, and the one behind it in front of the last tighter one. -/
structure Pending (α : Type) where
  loose : Option (Formula α)
  tight : Option (Formula α)

/-- The formula, joined to what is in front of it if there is something. -/
def joinBehind (connective : Connective) (front : Option (Formula α)) (formula : Formula α) :
    Formula α :=
  match front with
  | none => formula
  | some left => .join connective left formula

/-- A reader wants an operand next, or has just read one; further out, parentheses are
open. -/
inductive Reader (α : Type) where
  | wanting (pending : Pending α) (outer : List (Pending α))
  | holding (loose : Option (Formula α)) (formula : Formula α) (outer : List (Pending α))

namespace Reader

variable (tighter : Connective)

/-- The reader behind an operand. -/
def hold (pending : Pending α) (outer : List (Pending α)) (formula : Formula α) : Reader α :=
  .holding pending.loose (joinBehind tighter pending.tight formula) outer

def step : Reader α → Token α → Option (Reader α)
  | .wanting pending outer, .atom name => some (hold tighter pending outer (.atom name))
  | .wanting pending outer, .constant holds =>
      some (hold tighter pending outer (.constant holds))
  | .wanting pending outer, .opening => some (.wanting ⟨none, none⟩ (pending :: outer))
  | .holding loose formula outer, .connective connective =>
      if connective = tighter then some (.wanting ⟨loose, some formula⟩ outer)
      else some (.wanting ⟨some (joinBehind tighter.other loose formula), none⟩ outer)
  | .holding loose formula (pending :: outer), .closing =>
      some (hold tighter pending outer (joinBehind tighter.other loose formula))
  | _, _ => none

def run (reader : Reader α) : List (Token α) → Option (Reader α)
  | [] => some reader
  | token :: tokens => (reader.step tighter token).bind fun next => next.run tokens

/-- The formula that has been read, if no parenthesis is open. -/
def finish : Reader α → Option (Formula α)
  | .holding loose formula [] => some (joinBehind tighter.other loose formula)
  | _ => none

/-- How a text of each level moves a reader, whatever stands behind it. -/
def Takes : Level → List (Token α) → Formula α → Prop
  | .operand, tokens, formula => ∀ pending outer rest,
      run tighter (.wanting pending outer) (tokens ++ rest) =
        run tighter (hold tighter pending outer formula) rest
  | .tight, tokens, formula => ∀ loose outer rest,
      run tighter (.wanting ⟨loose, none⟩ outer) (tokens ++ rest) =
        run tighter (.holding loose formula outer) rest
  | .loose, tokens, formula => ∀ outer rest, ∃ loose last,
      joinBehind tighter.other loose last = formula ∧
        run tighter (.wanting ⟨none, none⟩ outer) (tokens ++ rest) =
          run tighter (.holding loose last outer) rest

end Reader

theorem Reads.takes {tighter : Connective} {level : Level} {tokens : List (Token α)}
    {formula : Formula α} (reads : Reads tighter level tokens formula) :
    Reader.Takes tighter level tokens formula := by
  induction reads with
  | atom name => exact fun _ _ _ => rfl
  | constant holds => exact fun _ _ _ => rfl
  | @group tokens formula _ inside =>
      intro pending outer rest
      -- Inside, the reader starts afresh, and what is pending outside waits on the stack.
      obtain ⟨loose, last, rfl, taken⟩ := inside (pending :: outer) (.closing :: rest)
      rw [List.cons_append, List.cons_append, List.append_assoc, Reader.run]
      exact taken
  | operand _ single =>
      intro loose outer rest
      exact single ⟨loose, none⟩ outer rest
  | @tight front back left right _ _ first last =>
      intro loose outer rest
      rw [List.append_assoc, first, List.cons_append, Reader.run, Reader.step, if_pos rfl]
      exact last ⟨loose, some left⟩ outer rest
  | chain _ single =>
      intro outer rest
      exact ⟨none, _, rfl, single none outer rest⟩
  | @loose front back left right _ _ first last =>
      intro outer rest
      -- The connective closes the chain in front of it, which becomes the pending formula.
      obtain ⟨loose, held, rfl, taken⟩ := first outer (.connective tighter.other :: back ++ rest)
      rw [List.append_assoc, taken, List.cons_append, Reader.run, Reader.step,
        if_neg tighter.other_ne]
      exact ⟨_, right, rfl, last _ outer rest⟩

/-- A text has one reading at most. -/
theorem Reads.unique {tighter : Connective} {tokens : List (Token α)} {first second : Formula α}
    (reads : Reads tighter .loose tokens first) (reads' : Reads tighter .loose tokens second) :
    first = second := by
  have finishes : ∀ {formula : Formula α}, Reads tighter .loose tokens formula →
      ((Reader.wanting ⟨none, none⟩ []).run tighter tokens).bind (Reader.finish tighter) =
        some formula := by
    intro formula reads
    obtain ⟨loose, last, rfl, taken⟩ := reads.takes [] []
    rw [List.append_nil] at taken
    rw [taken]
    rfl
  exact Option.some.inj ((finishes reads).symm.trans (finishes reads'))

/-- The level of the texts that this connective joins. -/
def Level.of (tighter connective : Connective) : Level :=
  if connective = tighter then .tight else .loose

namespace Reads

variable {tighter : Connective} (connective : Connective)
  {tokens front back : List (Token α)} {formula left right : Formula α}

theorem of_operand (reads : Reads tighter .operand tokens formula) :
    Reads tighter (.of tighter connective) tokens formula := by
  unfold Level.of
  split
  · exact .operand reads
  · exact .chain (.operand reads)

theorem join (first : Reads tighter (.of tighter connective) front left)
    (last : Reads tighter .operand back right) :
    Reads tighter (.of tighter connective) (front ++ .connective connective :: back)
      (.join connective left right) := by
  unfold Level.of at first ⊢
  by_cases same : connective = tighter
  · rw [if_pos same] at first
    rw [if_pos same, same]
    exact .tight first last
  · rw [if_neg same] at first
    rw [if_neg same, Connective.eq_other_of_ne same]
    exact .loose first (.operand last)

theorem to_loose (reads : Reads tighter (.of tighter connective) tokens formula) :
    Reads tighter .loose tokens formula := by
  unfold Level.of at reads
  split at reads
  · exact .chain reads
  · exact reads

theorem foldl_join {texts : List (List (Token α))} {formulas : List (Formula α)}
    (first : Reads tighter (.of tighter connective) front left)
    (others : List.Forall₂ (Reads tighter .operand) texts formulas) :
    Reads tighter (.of tighter connective)
      (front ++ texts.flatMap (.connective connective :: ·))
      (formulas.foldl (.join connective) left) := by
  induction others generalizing front left with
  | nil => simpa using first
  | cons next _ induction =>
      rw [List.flatMap_cons, ← List.append_assoc, List.foldl_cons]
      exact induction (first.join connective next)

end Reads

/-- Members without anything around them, in parentheses, or a constant for none. -/
def Token.junction (connective : Connective) : List (List (Token α)) → List (Token α)
  | [] => [.constant connective.neutral]
  | [only] => only
  | first :: others =>
      .opening :: (first ++ others.flatMap (.connective connective :: ·)) ++ [.closing]

/-- The members joined from the left. -/
def junction (connective : Connective) : List (Formula α) → Formula α
  | [] => .constant connective.neutral
  | first :: others => others.foldl (.join connective) first

theorem reads_junction {tighter : Connective} (connective : Connective)
    {texts : List (List (Token α))} {formulas : List (Formula α)}
    (members : List.Forall₂ (Reads tighter .operand) texts formulas) :
    Reads tighter .operand (Token.junction connective texts) (junction connective formulas) := by
  cases members with
  | nil => exact .constant _
  | cons first others =>
      cases others with
      | nil => exact first
      | cons second others =>
          apply Reads.group
          apply Reads.to_loose connective
          exact (first.of_operand connective).foldl_join connective (.cons second others)

theorem value_junction (worth : α → Truth) (connective : Connective)
    (formulas : List (Formula α)) :
    (junction connective formulas).value worth =
      connective.applyAll (formulas.map (value worth)) := by
  have joined : ∀ (others : List (Formula α)) (first : Formula α),
      (others.foldl (.join connective) first).value worth =
        (others.map (value worth)).foldl connective.apply (first.value worth) := by
    intro others
    induction others with
    | nil => exact fun _ => rfl
    | cons next others induction => exact fun first => induction (.join connective first next)
  cases formulas with
  | nil => rw [List.map_nil, Connective.applyAll_nil, junction, value]
  | cons first others => rw [List.map_cons, Connective.applyAll_cons, junction, joined]

end Formula

end ColumnFilter
