import ColumnFilter.Regex.Basic

/-!
# What a pattern matches

A pattern matches a stretch of a text, between what stands before and what stands
after it.  Which one of several matches is preferred does not matter here.
-/

namespace ColumnFilter.Regex

inductive Matches : Regex → (before matched after : List Char) → Prop where
  | empty {before after : List Char} : Matches .empty before [] after
  | set {chars : CharSet} {c : Char} {before after : List Char} :
      chars.contains c = true → Matches (.set chars) before [c] after
  | anchor {condition : Anchor} {before after : List Char} :
      condition.holds ⟨before.length, before.getLast?, after.head?⟩ = true →
      Matches (.anchor condition) before [] after
  | seq {first second : Regex} {before one two after : List Char} :
      Matches first before one (two ++ after) → Matches second (before ++ one) two after →
      Matches (.seq first second) before (one ++ two) after
  | first {first second : Regex} {before matched after : List Char} :
      Matches first before matched after → Matches (.alt first second) before matched after
  | second {first second : Regex} {before matched after : List Char} :
      Matches second before matched after → Matches (.alt first second) before matched after
  | done {high : Option Nat} {greedy : Bool} {body : Regex} {before after : List Char} :
      Matches (.times 0 high greedy body) before [] after
  | round {low : Nat} {high : Option Nat} {greedy : Bool} {body : Regex}
      {before one two after : List Char} :
      high ≠ some 0 → Matches body before one (two ++ after) →
      Matches (.times (low - 1) (high.map (· - 1)) greedy body) (before ++ one) two after →
      Matches (.times low high greedy body) before (one ++ two) after
  | group {index : Nat} {body : Regex} {before matched after : List Char} :
      Matches body before matched after → Matches (.group index body) before matched after

/-- The pattern matches somewhere in the text. -/
def Finds (regex : Regex) (text : List Char) : Prop :=
  ∃ before matched after, text = before ++ matched ++ after ∧ regex.Matches before matched after

variable {before matched after : List Char}

theorem matches_set {chars : CharSet} :
    (set chars).Matches before matched after ↔ ∃ c, matched = [c] ∧ chars.contains c = true := by
  constructor
  · intro matching
    cases matching with
    | @set _ c _ _ member => exact ⟨c, rfl, member⟩
  · rintro ⟨c, rfl, member⟩
    exact .set member

theorem matches_anchor {condition : Anchor} :
    (anchor condition).Matches before matched after ↔
      matched = [] ∧ condition.holds ⟨before.length, before.getLast?, after.head?⟩ = true := by
  constructor
  · intro matching
    cases matching with
    | anchor holds => exact ⟨rfl, holds⟩
  · rintro ⟨rfl, holds⟩
    exact .anchor holds

theorem matches_seq {first second : Regex} :
    (seq first second).Matches before matched after ↔
      ∃ one two, matched = one ++ two ∧ first.Matches before one (two ++ after) ∧
        second.Matches (before ++ one) two after := by
  constructor
  · intro matching
    cases matching with
    | @seq _ _ _ one two _ here there => exact ⟨one, two, rfl, here, there⟩
  · rintro ⟨one, two, rfl, here, there⟩
    exact .seq here there

theorem matches_optional {greedy : Bool} {body : Regex} :
    (times 0 (some 1) greedy body).Matches before matched after ↔
      matched = [] ∨ body.Matches before matched after := by
  constructor
  · intro matching
    cases matching with
    | done => exact .inl rfl
    | round _ here there =>
        cases there with
        | done => exact .inr (by simpa using here)
        | round again _ _ => exact absurd rfl again
  · rintro (rfl | matching)
    · exact .done
    · have round : (times 0 (some 1) greedy body).Matches before (matched ++ []) after :=
        .round (by simp) (by simpa using matching) .done
      simpa using round

theorem matches_star_set {greedy : Bool} {chars : CharSet} :
    (times 0 none greedy (set chars)).Matches before matched after ↔
      ∀ c ∈ matched, chars.contains c = true := by
  constructor
  · generalize shape : times 0 none greedy (set chars) = regex
    intro matching
    induction matching with
    | done => simp
    | round _ here _ _ induction =>
        cases shape
        obtain ⟨c, rfl, member⟩ := matches_set.mp here
        intro d inside
        rcases List.mem_cons.mp inside with rfl | later
        · exact member
        · exact induction rfl d later
    | empty => cases shape
    | set _ => cases shape
    | anchor _ => cases shape
    | seq _ _ => cases shape
    | first _ => cases shape
    | second _ => cases shape
    | group _ => cases shape
  · intro members
    induction matched generalizing before with
    | nil => exact .done
    | cons c matched induction =>
        obtain ⟨member, later⟩ := List.forall_mem_cons.mp members
        have round : (times 0 none greedy (set chars)).Matches before ([c] ++ matched) after :=
          .round (by simp) (.set member) (induction later)
        exact round

theorem matches_plus_set {greedy : Bool} {chars : CharSet} :
    (times 1 none greedy (set chars)).Matches before matched after ↔
      matched ≠ [] ∧ ∀ c ∈ matched, chars.contains c = true := by
  constructor
  · intro matching
    cases matching with
    | round _ here there =>
        obtain ⟨c, rfl, member⟩ := matches_set.mp here
        exact ⟨by simp, List.forall_mem_cons.mpr ⟨member, matches_star_set.mp there⟩⟩
  · rintro ⟨present, members⟩
    cases matched with
    | nil => exact absurd rfl present
    | cons c matched =>
        obtain ⟨member, later⟩ := List.forall_mem_cons.mp members
        have round : (times 1 none greedy (set chars)).Matches before ([c] ++ matched) after :=
          .round (by simp) (.set member) (matches_star_set.mpr later)
        exact round

end ColumnFilter.Regex
