import ColumnFilter.Segment
import ColumnFilter.Proofs.Text.Slicing

/-!
# Texts between markers

What stands between two markers is found by counting characters, so it is unique, and where
it is cut out of the bytes of the text no character is divided.
-/

namespace ColumnFilter

namespace Segment.Markers

/-- The text consists of `inner` and, around it, as many characters as the markers have, which
agree with the markers after lowercasing. -/
def Between (markers : Markers) (text inner : String) : Prop :=
  ∃ front back : String, text = front ++ inner ++ back ∧
    front.length = markers.opening.length ∧ back.length = markers.closing.length ∧
    Text.lower front.toList = Text.lower markers.opening.toList ∧
    Text.lower back.toList = Text.lower markers.closing.toList

/-- The text between the markers, cut out between bytes.  There is no answer if a slice is
refused. -/
def stripBytes? (markers : Markers) (text : String) : Option (Option String) :=
  if text.length < markers.opening.length + markers.closing.length then some none
  else do
    let start := Text.byteAt text markers.opening.length
    let stop := Text.byteAt text (text.length - markers.closing.length)
    let front ← Text.slice? text 0 start
    let back ← Text.slice? text stop text.utf8ByteSize
    if Text.lower front.toList == Text.lower markers.opening.toList
        && Text.lower back.toList == Text.lower markers.closing.toList then
      (Text.slice? text start stop).map some
    else some none

variable {markers : Markers}

/-- A text that is long enough for both markers has as many characters at its ends. -/
theorem exists_parts {text : String}
    (long : markers.opening.length + markers.closing.length ≤ text.length) :
    ∃ front middle back : String, text = front ++ middle ++ back ∧
      front.length = markers.opening.length ∧ back.length = markers.closing.length := by
  rw [← String.length_toList (s := text)] at long
  let body := text.toList.drop markers.opening.length
  let size := body.length - markers.closing.length
  refine ⟨.ofList (text.toList.take markers.opening.length), .ofList (body.take size),
    .ofList (body.drop size), ?_, ?_, ?_⟩
  · rw [← String.ofList_append, ← String.ofList_append, List.append_assoc,
      List.take_append_drop, List.take_append_drop, String.ofList_toList]
  · rw [String.length_ofList, List.length_take]
    omega
  · have room : markers.closing.length ≤ body.length := by
      rw [List.length_drop]
      omega
    rw [String.length_ofList, List.length_drop]
    exact Nat.sub_sub_self room

section Parts

variable {front middle back : String} (opened : front.length = markers.opening.length)
  (closed : back.length = markers.closing.length)

include opened closed

variable (middle) in
theorem not_short :
    ¬(front ++ middle ++ back).length < markers.opening.length + markers.closing.length := by
  rw [String.length_append, String.length_append]
  omega

theorem strip?_append :
    markers.strip? (front ++ middle ++ back) =
      if Text.lower front.toList == Text.lower markers.opening.toList
          && Text.lower back.toList == Text.lower markers.closing.toList then
        some middle
      else none := by
  have long := not_short middle opened closed
  simp only [← String.length_toList] at opened closed long
  have first : (front ++ middle ++ back).toList.take markers.opening.toList.length =
      front.toList := by
    rw [← opened, String.toList_append, String.toList_append, List.append_assoc,
      List.take_left]
  have body : (front ++ middle ++ back).toList.drop markers.opening.toList.length =
      middle.toList ++ back.toList := by
    rw [← opened, String.toList_append, String.toList_append, List.append_assoc,
      List.drop_left]
  have size : (middle.toList ++ back.toList).length - markers.closing.toList.length =
      middle.toList.length := by
    rw [List.length_append, closed, Nat.add_sub_cancel]
  rw [strip?, inner?]
  simp only [if_neg long, first, body, size, List.take_left, List.drop_left]
  split
  · simp
  · rfl

theorem stripBytes?_append :
    markers.stripBytes? (front ++ middle ++ back) =
      some (markers.strip? (front ++ middle ++ back)) := by
  let text := front ++ middle ++ back
  have long := not_short middle opened closed
  have start : Text.byteAt text markers.opening.length = front.utf8ByteSize := by
    rw [Text.byteAt_eq, ← opened, ← String.length_toList, String.toList_append,
      String.toList_append, List.append_assoc, List.take_left, String.ofList_toList]
  have stop : Text.byteAt text (text.length - markers.closing.length) =
      (front ++ middle).utf8ByteSize := by
    have behind : text.length - markers.closing.length = (front ++ middle).toList.length := by
      rw [← closed, String.length_append, Nat.add_sub_cancel, String.length_toList]
    rw [Text.byteAt_eq, behind, String.toList_append (t := back), List.take_left,
      String.ofList_toList]
  have first : Text.slice? text 0 front.utf8ByteSize = some front := by
    simpa [text, String.append_assoc] using Text.slice?_append "" front (middle ++ back)
  have last : Text.slice? text (front ++ middle).utf8ByteSize text.utf8ByteSize = some back := by
    simpa [text] using Text.slice?_append (front ++ middle) back ""
  have inner : Text.slice? text front.utf8ByteSize (front ++ middle).utf8ByteSize = some middle :=
    Text.slice?_append front middle back
  rw [strip?_append opened closed, stripBytes?, if_neg long]
  simp only [start, stop, first, last, inner, Option.bind_eq_bind, Option.bind_some, text]
  split <;> simp

end Parts

theorem strip?_eq_none_of_short {text : String}
    (short : text.length < markers.opening.length + markers.closing.length) :
    markers.strip? text = none := by
  simp [strip?, inner?, String.length_toList, short]

/-- No slice is refused, and the bytes give what the characters give. -/
theorem stripBytes?_eq (markers : Markers) (text : String) :
    markers.stripBytes? text = some (markers.strip? text) := by
  by_cases short : text.length < markers.opening.length + markers.closing.length
  · rw [strip?_eq_none_of_short short, stripBytes?, if_pos short]
  · obtain ⟨front, middle, back, rfl, opened, closed⟩ := exists_parts (Nat.le_of_not_lt short)
    exact stripBytes?_append opened closed

theorem strip?_eq_some_iff {text inner : String} :
    markers.strip? text = some inner ↔ markers.Between text inner := by
  constructor
  · intro found
    have long : markers.opening.length + markers.closing.length ≤ text.length := by
      by_contra short
      rw [strip?_eq_none_of_short (Nat.lt_of_not_le short)] at found
      contradiction
    obtain ⟨front, middle, back, rfl, opened, closed⟩ := exists_parts long
    rw [strip?_append opened closed] at found
    by_cases same : Text.lower front.toList == Text.lower markers.opening.toList &&
        Text.lower back.toList == Text.lower markers.closing.toList
    · rw [if_pos same] at found
      rw [Bool.and_eq_true, beq_iff_eq, beq_iff_eq] at same
      rw [← Option.some.inj found]
      exact ⟨front, back, rfl, opened, closed, same⟩
    · rw [if_neg same] at found
      contradiction
  · rintro ⟨front, back, rfl, opened, closed, same, same'⟩
    rw [strip?_append opened closed, same, same']
    simp

theorem Between.unique {text first second : String} (here : markers.Between text first)
    (there : markers.Between text second) : first = second :=
  Option.some.inj ((strip?_eq_some_iff.mpr here).symm.trans (strip?_eq_some_iff.mpr there))

theorem between_surrounded (markers : Markers) (inner : String) :
    markers.Between (markers.opening ++ inner ++ markers.closing) inner :=
  ⟨markers.opening, markers.closing, rfl, rfl, rfl, rfl, rfl⟩

/-- One of the two markers is there to be looked for. -/
def Present (markers : Markers) : Prop := markers.opening ≠ "" ∨ markers.closing ≠ ""

theorem present_iff : markers.Present ↔
    ¬(markers.opening.isEmpty && markers.closing.isEmpty) = true := by
  rw [Present, Bool.and_eq_true, String.isEmpty_iff, String.isEmpty_iff]
  tauto

end Segment.Markers

namespace Segment

open Markers

theorem ofMarked_of_between {markers : Markers} {text inner : String} (present : markers.Present)
    (between : markers.Between text inner) :
    ofMarked markers text = ⟨Text.trimmed inner, true⟩ := by
  obtain ⟨letters, found, rfl⟩ := Option.map_eq_some_iff.mp (strip?_eq_some_iff.mpr between)
  rw [ofMarked, if_neg (present_iff.mp present), found]
  simp [Text.trimmed]

theorem ofMarked_of_not_between {markers : Markers} {text : String}
    (unmarked : ¬(markers.Present ∧ ∃ inner, markers.Between text inner)) :
    ofMarked markers text = ⟨text, false⟩ := by
  rw [ofMarked]
  by_cases present : markers.opening.isEmpty && markers.closing.isEmpty
  · rw [if_pos present]
  · rw [if_neg present]
    have missing : markers.strip? text = none := by
      rw [Option.eq_none_iff_forall_ne_some]
      intro inner found
      exact unmarked ⟨present_iff.mpr present, inner, strip?_eq_some_iff.mp found⟩
    rw [strip?, Option.map_eq_none_iff] at missing
    rw [missing]

theorem negated_ofMarked_iff {markers : Markers} {text : String} :
    (ofMarked markers text).negated = true ↔
      markers.Present ∧ ∃ inner, markers.Between text inner := by
  by_cases marked : markers.Present ∧ ∃ inner, markers.Between text inner
  · obtain ⟨present, inner, between⟩ := marked
    rw [ofMarked_of_between present between]
    exact iff_of_true rfl ⟨present, inner, between⟩
  · rw [ofMarked_of_not_between marked]
    exact iff_of_false Bool.false_ne_true marked

/-- What markers cut out of a text, and when this inverts a segment. -/
structure Markers.Cutting (markers : Markers) (text : String) : Prop where
  found : ∀ inner, markers.strip? text = some inner ↔ markers.Between text inner
  unique : ∀ first second, markers.Between text first → markers.Between text second →
    first = second
  /-- The text is cut in front of a character and behind one. -/
  start_valid : String.Pos.Raw.IsValid text ⟨Text.byteAt text markers.opening.length⟩
  stop_valid :
    String.Pos.Raw.IsValid text ⟨Text.byteAt text (text.length - markers.closing.length)⟩
  start_le : markers.opening.length + markers.closing.length ≤ text.length →
    Text.byteAt text markers.opening.length ≤
      Text.byteAt text (text.length - markers.closing.length)
  bytes : markers.stripBytes? text = some (markers.strip? text)
  surrounded : ∀ inner, markers.strip? (markers.opening ++ inner ++ markers.closing) = some inner
  negated_iff : (ofMarked markers text).negated = true ↔
    markers.Present ∧ ∃ inner, markers.Between text inner
  inverted : ∀ inner, markers.Present → markers.Between text inner →
    ofMarked markers text = ⟨Text.trimmed inner, true⟩
  kept : (ofMarked markers text).negated = false → ofMarked markers text = ⟨text, false⟩

/-- What stands between two markers is the one text that they enclose, whatever their case, and
no character is divided to cut it out.  A segment is inverted exactly when it stands between
markers of which one is there. -/
theorem strip?_between (markers : Markers) (text : String) : markers.Cutting text where
  found _ := strip?_eq_some_iff
  unique _ _ := Between.unique
  start_valid := Text.isValid_byteAt text _
  stop_valid := Text.isValid_byteAt text _
  start_le long := Text.byteAt_le_byteAt text (by omega)
  bytes := stripBytes?_eq markers text
  surrounded inner := strip?_eq_some_iff.mpr (between_surrounded markers inner)
  negated_iff := negated_ofMarked_iff
  inverted _ := ofMarked_of_between
  kept kept := by
    apply ofMarked_of_not_between
    rw [← negated_ofMarked_iff, kept]
    exact Bool.false_ne_true

/-- Markers of two bytes each around a text that looks different in lower case. -/
theorem strip?_between_wide :
    let markers : Markers := ⟨"«NOT", "»"⟩
    let text := "«not İ »"
    let start := Text.byteAt text markers.opening.length
    let stop := Text.byteAt text (text.length - markers.closing.length)
    markers.opening.length + markers.closing.length ≤ text.length ∧
      start = 5 ∧ stop = 9 ∧ start ≤ stop ∧
      markers.stripBytes? text = some (some " İ ") ∧
      (∀ inner, markers.Between text inner → inner = " İ ") ∧
      ofMarked markers text = ⟨"İ", true⟩ ∧ ofMarked markers "«not" = ⟨"«not", false⟩ := by
  intro markers text start stop
  have cutting := strip?_between markers text
  have between : markers.Between text " İ " := (cutting.found " İ ").mp (by decide +kernel)
  have short : (ofMarked markers "«not").negated = false := by decide +kernel
  refine ⟨by decide, by decide +kernel, by decide +kernel, cutting.start_le (by decide),
    ?_, ?_, ?_, ?_⟩
  · rw [cutting.bytes, (cutting.found " İ ").mpr between]
  · exact fun inner here => cutting.unique inner " İ " here between
  · exact cutting.inverted " İ " (.inl (by decide)) between
  · exact (strip?_between markers "«not").kept short

end Segment

end ColumnFilter
