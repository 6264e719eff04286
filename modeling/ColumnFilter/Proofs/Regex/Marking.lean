import ColumnFilter.Proofs.Regex.Matching
import ColumnFilter.Regex.Machine

/-!
# What the groups of a pattern keep

`Captures` follows `Matches` and keeps the places of the groups as well: to the marks
that it starts with, a match adds both edges of every group that it leads through.  A
pattern without groups adds nothing, and captures what it matches.
-/

namespace ColumnFilter.Regex

inductive Captures :
    Regex → (before matched after : List Char) → (marks marks' : Marks) → Prop where
  | empty {before after : List Char} {marks : Marks} : Captures .empty before [] after marks marks
  | set {chars : CharSet} {c : Char} {before after : List Char} {marks : Marks} :
      chars.contains c = true → Captures (.set chars) before [c] after marks marks
  | anchor {condition : Anchor} {before after : List Char} {marks : Marks} :
      condition.holds ⟨before.length, before.getLast?, after.head?⟩ = true →
      Captures (.anchor condition) before [] after marks marks
  | seq {first second : Regex} {before one two after : List Char} {marks middle marks' : Marks} :
      Captures first before one (two ++ after) marks middle →
      Captures second (before ++ one) two after middle marks' →
      Captures (.seq first second) before (one ++ two) after marks marks'
  | first {first second : Regex} {before matched after : List Char} {marks marks' : Marks} :
      Captures first before matched after marks marks' →
      Captures (.alt first second) before matched after marks marks'
  | second {first second : Regex} {before matched after : List Char} {marks marks' : Marks} :
      Captures second before matched after marks marks' →
      Captures (.alt first second) before matched after marks marks'
  /-- A repetition ends when no more rounds are needed or allowed. -/
  | done {low : Nat} {high : Option Nat} {greedy : Bool} {body : Regex}
      {before after : List Char} {marks : Marks} :
      low = 0 ∨ high = some 0 → Captures (.times low high greedy body) before [] after marks marks
  | round {low : Nat} {high : Option Nat} {greedy : Bool} {body : Regex}
      {before one two after : List Char} {marks middle marks' : Marks} :
      high ≠ some 0 → Captures body before one (two ++ after) marks middle →
      Captures (.times (low - 1) (high.map (· - 1)) greedy body) (before ++ one) two after
        middle marks' →
      Captures (.times low high greedy body) before (one ++ two) after marks marks'
  | group {index : Nat} {body : Regex} {before matched after : List Char} {marks marks' : Marks} :
      Captures body before matched after ((.opening index, before.length) :: marks) marks' →
      Captures (.group index body) before matched after marks
        ((.closing index, before.length + matched.length) :: marks')

/-- There is no group in the pattern, and no repetition needs more rounds than it allows. -/
def Plain : Regex → Prop
  | .empty => True
  | .set _ => True
  | .anchor _ => True
  | .seq first second => first.Plain ∧ second.Plain
  | .alt first second => first.Plain ∧ second.Plain
  | .times low high _ body => (∀ bound ∈ high, low ≤ bound) ∧ body.Plain
  | .group _ _ => False

variable {before matched after : List Char} {marks marks' : Marks}

theorem Plain.oneLess {low : Nat} {high : Option Nat} {greedy : Bool} {body : Regex}
    (plain : (times low high greedy body).Plain) :
    (times (low - 1) (high.map (· - 1)) greedy body).Plain := by
  obtain ⟨bounded, plain⟩ := plain
  refine ⟨?_, plain⟩
  intro bound member
  obtain ⟨bound', member', rfl⟩ := Option.map_eq_some_iff.mp member
  exact Nat.sub_le_sub_right (bounded bound' member') 1

theorem Captures.matches_of_plain {regex : Regex}
    (captures : regex.Captures before matched after marks marks') (plain : regex.Plain) :
    marks' = marks ∧ regex.Matches before matched after := by
  induction captures with
  | empty => exact ⟨rfl, .empty⟩
  | set member => exact ⟨rfl, .set member⟩
  | anchor holds => exact ⟨rfl, .anchor holds⟩
  | seq _ _ first second =>
      obtain ⟨rfl, here⟩ := first plain.1
      obtain ⟨rfl, there⟩ := second plain.2
      exact ⟨rfl, .seq here there⟩
  | first _ induction =>
      obtain ⟨rfl, here⟩ := induction plain.1
      exact ⟨rfl, .first here⟩
  | second _ induction =>
      obtain ⟨rfl, here⟩ := induction plain.2
      exact ⟨rfl, .second here⟩
  | done enough =>
      rcases enough with rfl | vacant
      · exact ⟨rfl, .done⟩
      · obtain rfl := Nat.le_zero.mp (plain.1 0 vacant)
        exact ⟨rfl, .done⟩
  | round bounded _ _ first second =>
      obtain ⟨rfl, here⟩ := first plain.2
      obtain ⟨rfl, there⟩ := second plain.oneLess
      exact ⟨rfl, .round bounded here there⟩
  | group => exact plain.elim

theorem Matches.captures_of_plain {regex : Regex} (matching : regex.Matches before matched after)
    (plain : regex.Plain) (marks : Marks) : regex.Captures before matched after marks marks := by
  induction matching with
  | empty => exact .empty
  | set member => exact .set member
  | anchor holds => exact .anchor holds
  | seq _ _ first second => exact .seq (first plain.1) (second plain.2)
  | first _ induction => exact .first (induction plain.1)
  | second _ induction => exact .second (induction plain.2)
  | done => exact .done (.inl rfl)
  | round bounded _ _ first second => exact .round bounded (first plain.2) (second plain.oneLess)
  | group => exact plain.elim

/-- Without groups, nothing is marked. -/
theorem captures_iff_matches {regex : Regex} (plain : regex.Plain) :
    regex.Captures before matched after marks marks' ↔
      marks' = marks ∧ regex.Matches before matched after := by
  constructor
  · intro captures
    exact captures.matches_of_plain plain
  · rintro ⟨rfl, matching⟩
    exact matching.captures_of_plain plain marks'

theorem captures_anchor {condition : Anchor} :
    (anchor condition).Captures before matched after marks marks' ↔
      marks' = marks ∧ matched = [] ∧
        condition.holds ⟨before.length, before.getLast?, after.head?⟩ = true := by
  have plain : (anchor condition).Plain := trivial
  rw [captures_iff_matches plain, matches_anchor]

theorem captures_seq {first second : Regex} :
    (seq first second).Captures before matched after marks marks' ↔
      ∃ one two middle, matched = one ++ two ∧
        first.Captures before one (two ++ after) marks middle ∧
        second.Captures (before ++ one) two after middle marks' := by
  constructor
  · intro captures
    cases captures with
    | @seq _ _ _ one two _ _ middle _ here there => exact ⟨one, two, middle, rfl, here, there⟩
  · rintro ⟨one, two, middle, rfl, here, there⟩
    exact .seq here there

theorem captures_group {index : Nat} {body : Regex} :
    (group index body).Captures before matched after marks marks' ↔
      ∃ inner, marks' = (.closing index, before.length + matched.length) :: inner ∧
        body.Captures before matched after ((.opening index, before.length) :: marks) inner := by
  constructor
  · intro captures
    cases captures with
    | @group _ _ _ _ _ _ inner captures => exact ⟨inner, rfl, captures⟩
  · rintro ⟨inner, rfl, captures⟩
    exact .group captures

theorem captures_sequence_cons {first : Regex} {rest : List Regex} :
    (sequence (first :: rest)).Captures before matched after marks marks' ↔
      ∃ one two middle, matched = one ++ two ∧
        first.Captures before one (two ++ after) marks middle ∧
        (sequence rest).Captures (before ++ one) two after middle marks' := by
  cases rest with
  | cons second rest => exact captures_seq
  | nil =>
      constructor
      · intro captures
        exact ⟨matched, [], marks', by simp, captures, .empty⟩
      · rintro ⟨one, two, middle, rfl, here, there⟩
        cases there
        rw [List.append_nil]
        exact here

theorem captures_sequence_append {front back : List Regex} :
    (sequence (front ++ back)).Captures before matched after marks marks' ↔
      ∃ one two middle, matched = one ++ two ∧
        (sequence front).Captures before one (two ++ after) marks middle ∧
        (sequence back).Captures (before ++ one) two after middle marks' := by
  induction front generalizing before matched marks with
  | nil =>
      constructor
      · intro captures
        exact ⟨[], matched, marks, rfl, .empty, by simpa using captures⟩
      · rintro ⟨one, two, middle, rfl, here, there⟩
        cases here
        simpa using there
  | cons first front induction =>
      rw [List.cons_append, captures_sequence_cons]
      constructor
      · rintro ⟨one, _, middle, rfl, here, later⟩
        obtain ⟨two, three, middle', rfl, there, last⟩ := induction.mp later
        rw [List.append_assoc] at here last
        exact ⟨one ++ two, three, middle', by simp,
          captures_sequence_cons.mpr ⟨one, two, middle, rfl, here, there⟩, last⟩
      · rintro ⟨_, three, middle', rfl, whole, last⟩
        obtain ⟨one, two, middle, rfl, here, there⟩ := captures_sequence_cons.mp whole
        rw [← List.append_assoc] at here last
        exact ⟨one, two ++ three, middle, by simp, by simpa using here,
          induction.mpr ⟨two, three, middle', rfl, there, by simpa using last⟩⟩

end ColumnFilter.Regex
