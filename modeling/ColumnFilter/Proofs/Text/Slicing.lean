import Mathlib.Data.List.Basic

/-!
# Slices of a text

A slice is taken between two bytes of a text and refused where they do not lie at the edges
of characters.  The byte at which a character begins is always such an edge.
-/

namespace ColumnFilter.Text

/-- The bytes at which the characters of a text begin, if the first one is at `start`. -/
def offsets (start : Nat) : List Char → List Nat
  | [] => []
  | c :: rest => start :: offsets (start + c.utf8Size) rest

/-- The byte at which a character begins, by its index; the end of the text if there are not
so many characters. -/
def byteAt (text : String) (index : Nat) : Nat :=
  (offsets 0 text.toList)[index]?.getD text.utf8ByteSize

/-- The part of a text between two bytes.  It is refused if one of them lies inside a
character or behind the end, or if they are in the wrong order. -/
def slice? (text : String) (start stop : Nat) : Option String := do
  let first ← text.pos? ⟨start⟩
  let last ← text.pos? ⟨stop⟩
  let part ← text.slice? first last
  return part.copy

theorem getElem?_offsets (text : List Char) (start index : Nat) :
    (offsets start text)[index]? =
      if index < text.length then some (start + (String.ofList (text.take index)).utf8ByteSize)
      else none := by
  induction text generalizing start index with
  | nil => simp [offsets]
  | cons c rest induction =>
      cases index with
      | zero => simp [offsets]
      | succ index =>
          have size : (String.ofList (c :: rest.take index)).utf8ByteSize =
              c.utf8Size + (String.ofList (rest.take index)).utf8ByteSize := by
            rw [← List.singleton_append, String.ofList_append, String.utf8ByteSize_append]
            simp
          rw [offsets, List.getElem?_cons_succ, induction, List.take_succ_cons, size,
            Nat.add_assoc]
          simp

/-- In front of a character stand the bytes of those before it. -/
theorem byteAt_eq (text : String) (index : Nat) :
    byteAt text index = (String.ofList (text.toList.take index)).utf8ByteSize := by
  rw [byteAt, getElem?_offsets]
  by_cases behind : index < text.toList.length
  · rw [if_pos behind]
    simp
  · rw [if_neg behind, List.take_of_length_le (by omega), String.ofList_toList]
    rfl

theorem isValid_byteAt (text : String) (index : Nat) :
    String.Pos.Raw.IsValid text ⟨byteAt text index⟩ :=
  String.Pos.Raw.isValid_iff_exists_take_toList.mpr ⟨index, byteAt_eq text index⟩

theorem byteAt_le_byteAt (text : String) {index later : Nat} (before : index ≤ later) :
    byteAt text index ≤ byteAt text later := by
  obtain ⟨more, rest⟩ := List.take_prefix_take_left before (l := text.toList)
  rw [byteAt_eq, byteAt_eq, ← rest, String.ofList_append, String.utf8ByteSize_append]
  exact Nat.le_add_right _ _

theorem pos?_of_isValid {text : String} {offset : String.Pos.Raw}
    (valid : String.Pos.Raw.IsValid text offset) : text.pos? offset = some ⟨offset, valid⟩ := by
  have inside : String.Pos.Raw.isValidForSlice text.toSlice offset = true := by
    rw [String.Pos.Raw.isValidForSlice_eq_true_iff, String.Pos.Raw.isValidForSlice_toSlice_iff]
    exact valid
  simp only [String.pos?, String.Slice.pos?, dif_pos inside, Option.map_some]
  rfl

theorem slice?_append (front middle back : String) :
    slice? (front ++ middle ++ back) front.utf8ByteSize (front ++ middle).utf8ByteSize =
      some middle := by
  have first : String.Pos.Raw.IsValid (front ++ middle ++ back) ⟨front.utf8ByteSize⟩ :=
    String.Pos.Raw.isValid_iff_exists_append.mpr ⟨front, middle ++ back, String.append_assoc, rfl⟩
  have last : String.Pos.Raw.IsValid (front ++ middle ++ back) ⟨(front ++ middle).utf8ByteSize⟩ :=
    String.Pos.Raw.isValid_iff_exists_append.mpr ⟨front ++ middle, back, rfl, rfl⟩
  obtain ⟨ordered, copied⟩ : ∃ ordered,
      ((front ++ middle ++ back).slice ⟨_, first⟩ ⟨_, last⟩ ordered).copy = middle :=
    String.copy_slice_eq_iff_splits.mpr
      ⟨front, back, ⟨String.append_assoc, rfl⟩, ⟨rfl, rfl⟩⟩
  rw [slice?, pos?_of_isValid first, pos?_of_isValid last]
  simp only [Option.bind_eq_bind, Option.bind_some, String.slice?, dif_pos ordered, copied,
    Option.pure_def]

end ColumnFilter.Text
