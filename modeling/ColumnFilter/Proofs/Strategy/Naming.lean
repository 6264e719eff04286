import Mathlib.Data.Fintype.Pigeonhole
import Mathlib.Data.Fintype.Prod
import ColumnFilter.Proofs.Strategy.Fragments

/-!
# The names of parameters

A parameter is named by its kind and by the digest of its content and its
column.  All digests are equally long, so names of different kinds differ, and
names of one kind tell contents apart as far as digests do.
-/

namespace ColumnFilter

namespace Digest

theorem length_toList_ofString (text : String) : (ofString text).toList.length = 32 := by
  unfold ofString
  generalize absorbAll State.initial (words (padded text.toUTF8.toList)) = final
  obtain ⟨a, b, c, d⟩ := final
  simp only [String.toList_ofList]
  rfl

/-- No two of the texts have the same digest. -/
def Separates (texts : List String) : Prop :=
  ∀ first ∈ texts, ∀ second ∈ texts, ofString first = ofString second → first = second

instance : Finite State :=
  .of_injective (fun state : State => (state.a.toFin, state.b.toFin, state.c.toFin, state.d.toFin))
    fun first second same => by
      obtain ⟨sameA, sameB, sameC, sameD⟩ : first.a.toFin = second.a.toFin ∧
          first.b.toFin = second.b.toFin ∧ first.c.toFin = second.c.toFin ∧
            first.d.toFin = second.d.toFin := by simpa using same
      obtain ⟨a, b, c, d⟩ := first
      obtain ⟨a', b', c', d'⟩ := second
      rw [UInt32.toFin_inj] at sameA sameB sameC sameD
      subst sameA sameB sameC sameD
      rfl

/-- Among infinitely many texts, two have the same digest. -/
theorem exists_collision (texts : Nat → String) :
    ∃ first second, first < second ∧ ofString (texts first) = ofString (texts second) := by
  obtain ⟨first, second, different, same⟩ := Finite.exists_ne_map_eq_of_infinite fun index =>
    absorbAll State.initial (words (padded (texts index).toUTF8.toList))
  have equal : ofString (texts first) = ofString (texts second) := by
    simp only [ofString, same]
  rcases Nat.lt_or_gt_of_ne different with below | above
  · exact ⟨first, second, below, equal⟩
  · exact ⟨second, first, above, equal.symm⟩

end Digest

/-- Names agree only when their kinds and the digests in them do. -/
theorem parameterName_inj {kind content column kind' content' column' : String}
    (same : parameterName kind content column = parameterName kind' content' column') :
    kind = kind' ∧
      Digest.ofString (content ++ column) = Digest.ofString (content' ++ column') := by
  have letters := congrArg String.toList same
  simp only [parameterName, String.toList_append] at letters
  have sized : (Digest.ofString (content ++ column)).toList.length =
      (Digest.ofString (content' ++ column')).toList.length := by
    rw [Digest.length_toList_ofString, Digest.length_toList_ofString]
  obtain ⟨kinds, digests⟩ := List.append_inj' letters sized
  exact ⟨String.toList_inj.mp kinds, String.toList_inj.mp digests⟩

namespace Strategy

/-- The contents that a strategy names parameters by when it accepts a segment:
every word of it, or all of its text; an empty part needs no parameter. -/
def contents (strategy : Strategy) (segment : Segment) : List String :=
  match strategy with
  | .range _ => [segment.text]
  | .exact _ => [segment.text]
  | .substring options =>
      if options.markers.strip? segment.text = some "" then [] else [segment.text]
  | .regex _ => [segment.text]
  | .words options => options.words segment.text

namespace Makes

variable {strategy : Strategy} {target : Target} {segment : Segment} {fragment : Fragment}

/-- What a fragment binds is a word, found anywhere, or something that is named
by the whole segment. -/
theorem binding (makes : strategy.Makes target segment fragment) {name : String}
    {value : Value} (bound : fragment.params.get? name = some value) :
    (∃ word ∈ strategy.contents segment,
      name = parameterName "default" word target.column ∧
        value = .string (Like.containing word)) ∨
    (segment.text ∈ strategy.contents segment ∧
      ∃ kind, kind ≠ "default" ∧ name = parameterName kind segment.text target.column) := by
  have whole : ∀ {kind : String} {content : Value},
      (Params.single (parameterName kind segment.text target.column) content).get? name =
        some value →
      name = parameterName kind segment.text target.column := by
    intro kind content found
    have listed := Params.mem_of_get?_ofList found
    exact congrArg Prod.fst (List.mem_singleton.mp listed)
  cases makes with
  | @range ranges bounds found =>
      have listed := Params.mem_of_get?_ofList bound
      obtain ⟨item, _, entry⟩ := List.mem_map.mp listed
      obtain ⟨rfl, rfl⟩ := Prod.mk.inj entry
      refine .inr ⟨by simp [contents], Range.boundKind item.operator, ?_, rfl⟩
      cases item.operator <;> decide
  | @exact options inner marked =>
      exact .inr ⟨by simp [contents], "exact", by decide, whole bound⟩
  | @substring options inner marked =>
      unfold Marked.partFragment at bound
      by_cases present : inner.isEmpty
      · rw [if_pos present] at bound
        simp [Fragment.always] at bound
      · rw [if_neg present] at bound
        have nonempty : inner ≠ "" := fun vacant => present (by simp [vacant])
        refine .inr ⟨?_, "substring", by decide, whole bound⟩
        simp [contents, marked, nonempty]
  | @regex options inner marked =>
      exact .inr ⟨by simp [contents], "regex", by decide, whole bound⟩
  | words options =>
      unfold Words.fragment at bound
      simp only at bound
      split at bound
      · simp [Fragment.always] at bound
      · have listed := Params.mem_of_get?_ofList bound
        obtain ⟨word, inside, entry⟩ := List.mem_map.mp listed
        obtain ⟨rfl, rfl⟩ := Prod.mk.inj entry
        exact .inl ⟨word, inside, rfl, rfl⟩

end Makes

end Strategy

end ColumnFilter
