import ColumnFilter.Proofs.Regex.Exhaustive
import ColumnFilter.Proofs.Strategy.Parts
import ColumnFilter.Proofs.Text.Digit

/-!
# Texts that fit a form

A text fits the parts of a form when it is made of a stretch for each of them.  The pattern
of the parts matches exactly the texts that fit, and its groups keep the numbers.
-/

namespace ColumnFilter

namespace Range

open Regex (Marks sequence groupText? letter)

/-- The text is a number in the usual notation: a minus sign, digits and a point, all of
which may be missing, and digits. -/
structure IsNumber (text : List Char) : Prop where
  parts : ∃ minus front point back, text = minus ++ front ++ point ++ back ∧
    (minus = [] ∨ minus = ['-']) ∧ (∀ c ∈ front, Text.isDecimalDigit c = true) ∧
      (point = [] ∨ point = ['.']) ∧ back ≠ [] ∧ ∀ c ∈ back, Text.isDecimalDigit c = true

theorem IsNumber.mem {number : List Char} (isNumber : IsNumber number) {c : Char}
    (member : c ∈ number) : c = '-' ∨ c = '.' ∨ Text.isDecimalDigit c = true := by
  obtain ⟨minus, front, point, back, rfl, signed, digits, pointed, -, digits'⟩ := isNumber
  simp only [List.mem_append] at member
  rcases member with ((inMinus | inFront) | inPoint) | inBack
  · rcases signed with rfl | rfl
    · simp at inMinus
    · exact .inl (List.mem_singleton.mp inMinus)
  · exact .inr (.inr (digits c inFront))
  · rcases pointed with rfl | rfl
    · simp at inPoint
    · exact .inr (.inl (List.mem_singleton.mp inPoint))
  · exact .inr (.inr (digits' c inBack))

theorem IsNumber.visible {number : List Char} (isNumber : IsNumber number) {c : Char}
    (member : c ∈ number) : Text.isSpace c = false := by
  rcases isNumber.mem member with rfl | rfl | digit
  · decide +kernel
  · decide +kernel
  · cases space : Text.isSpace c with
    | false => rfl
    | true =>
        rw [Text.not_isDecimalDigit_of_isSpace space] at digit
        contradiction

/-- The text is white space, or nothing. -/
def Blank (text : List Char) : Prop := ∀ c ∈ text, Text.isSpace c = true

inductive Fits : List Part → (text : List Char) → (numbers : List (List Char)) → Prop where
  | nil : Fits [] [] []
  | mark {mark : String} {letters text : List Char} {parts : List Part}
      {numbers : List (List Char)} : Regex.Spelled mark.toList letters → Fits parts text numbers →
      Fits (.mark mark :: parts) (letters ++ text) numbers
  | blank {white text : List Char} {parts : List Part} {numbers : List (List Char)} :
      Blank white → Fits parts text numbers → Fits (.blank :: parts) (white ++ text) numbers
  | number {name : String} {number text : List Char} {parts : List Part}
      {numbers : List (List Char)} : IsNumber number → Fits parts text numbers →
      Fits (.number name :: parts) (number ++ text) (number :: numbers)

theorem fits_nil {text : List Char} {numbers : List (List Char)} :
    Fits [] text numbers ↔ text = [] ∧ numbers = [] := by
  constructor
  · rintro ⟨⟩
    exact ⟨rfl, rfl⟩
  · rintro ⟨rfl, rfl⟩
    exact .nil

theorem fits_mark {mark : String} {parts : List Part} {text : List Char}
    {numbers : List (List Char)} :
    Fits (.mark mark :: parts) text numbers ↔ ∃ letters rest, text = letters ++ rest ∧
      Regex.Spelled mark.toList letters ∧ Fits parts rest numbers := by
  constructor
  · rintro (_ | ⟨spelled, fits⟩)
    exact ⟨_, _, rfl, spelled, fits⟩
  · rintro ⟨letters, rest, rfl, spelled, fits⟩
    exact .mark spelled fits

theorem fits_blank {parts : List Part} {text : List Char} {numbers : List (List Char)} :
    Fits (.blank :: parts) text numbers ↔ ∃ white rest, text = white ++ rest ∧
      Blank white ∧ Fits parts rest numbers := by
  constructor
  · rintro (_ | _ | ⟨blank, fits⟩)
    exact ⟨_, _, rfl, blank, fits⟩
  · rintro ⟨white, rest, rfl, blank, fits⟩
    exact .blank blank fits

theorem fits_number {name : String} {parts : List Part} {text : List Char}
    {numbers : List (List Char)} :
    Fits (.number name :: parts) text numbers ↔ ∃ number rest later, text = number ++ rest ∧
      numbers = number :: later ∧ IsNumber number ∧ Fits parts rest later := by
  constructor
  · rintro (_ | _ | _ | ⟨isNumber, fits⟩)
    exact ⟨_, _, _, rfl, rfl, isNumber, fits⟩
  · rintro ⟨number, rest, later, rfl, rfl, isNumber, fits⟩
    exact .number isNumber fits

theorem fits_formParts {options : Options} {form : Form} {text number : List Char} :
    Fits (options.formParts form) text [number] ↔ ∃ opening white white' closing,
      text = opening ++ white ++ number ++ white' ++ closing ∧
        Regex.Spelled (options.markers form).opening.toList opening ∧ Blank white ∧
        IsNumber number ∧ Blank white' ∧
        Regex.Spelled (options.markers form).closing.toList closing := by
  simp only [Options.formParts, fits_mark, fits_blank, fits_number, fits_nil]
  constructor
  · rintro ⟨opening, _, rfl, spelled, white, _, rfl, blank, _, _, _, rfl, ⟨⟩, isNumber,
      white', _, rfl, blank', closing, _, rfl, spelled', rfl, -⟩
    exact ⟨opening, white, white', closing, by simp, spelled, blank, isNumber, blank', spelled'⟩
  · rintro ⟨opening, white, white', closing, rfl, spelled, blank, isNumber, blank', spelled'⟩
    exact ⟨opening, _, by simp, spelled, white, _, rfl, blank, number, _, _, rfl, rfl, isNumber,
      white', closing, rfl, blank', closing, [], by simp, spelled', rfl, rfl⟩

theorem fits_betweenParts {options : Options} {text first last : List Char} :
    Fits options.betweenParts text [first, last] ↔
      ∃ opening white white' word white'' white''' closing,
        text = opening ++ white ++ first ++ white' ++ word ++ white'' ++ last ++ white''' ++
            closing ∧
          Regex.Spelled options.between.opening.toList opening ∧ Blank white ∧ IsNumber first ∧
          Blank white' ∧ Regex.Spelled options.between.between.toList word ∧ Blank white'' ∧
          IsNumber last ∧ Blank white''' ∧
          Regex.Spelled options.between.closing.toList closing := by
  simp only [Options.betweenParts, fits_mark, fits_blank, fits_number, fits_nil]
  constructor
  · rintro ⟨opening, _, rfl, spelled, white, _, rfl, blank, _, _, _, rfl, ⟨⟩, isFirst,
      white', _, rfl, blank', word, _, rfl, between, white'', _, rfl, blank'', _, _, _, rfl,
      ⟨⟩, isLast, white''', _, rfl, blank''', closing, _, rfl, spelled', rfl, -⟩
    exact ⟨opening, white, white', word, white'', white''', closing, by simp, spelled, blank,
      isFirst, blank', between, blank'', isLast, blank''', spelled'⟩
  · rintro ⟨opening, white, white', word, white'', white''', closing, rfl, spelled, blank,
      isFirst, blank', between, blank'', isLast, blank''', spelled'⟩
    exact ⟨opening, _, by simp, spelled, white, _, rfl, blank, first, _, _, rfl, rfl, isFirst,
      white', _, rfl, blank', word, _, rfl, between, white'', _, rfl, blank'', last, _, _, rfl,
      rfl, isLast, white''', closing, rfl, blank''', closing, [], by simp, spelled', rfl, rfl⟩

section Captures

variable {before matched after : List Char} {marks marks' : Marks} {parts : List Part}

theorem matches_numeral :
    numeral.Matches before matched after ↔ IsNumber matched := by
  have minus : Text.foldClass '-' = ['-'] := by decide +kernel
  have point : Text.foldClass '.' = ['.'] := by decide +kernel
  have one : ∀ {stretch : List Char} {mark : Char},
      (∃ c, stretch = [c] ∧ [mark].contains c = true) ↔ stretch = [mark] := by
    simp
  simp only [numeral, Regex.sequence, letter, CharSet.single, if_true, minus, point, Regex.star,
    Regex.matches_seq, Regex.matches_optional, Regex.matches_star_set, Regex.matches_plus_set,
    Regex.matches_set, CharSet.contains, one]
  constructor
  · rintro ⟨sign, _, rfl, signed, front, _, rfl, digits, dot, back, rfl, pointed, present,
      digits'⟩
    exact ⟨sign, front, dot, back, by simp, signed, digits, pointed, present, digits'⟩
  · rintro ⟨sign, front, dot, back, rfl, signed, digits, pointed, present, digits'⟩
    exact ⟨sign, _, by simp, signed, front, _, rfl, digits, dot, back, rfl, pointed, present,
      digits'⟩

theorem captures_numeral : numeral.Captures before matched after marks marks' ↔
    marks' = marks ∧ IsNumber matched := by
  have plain : numeral.Plain := by
    simp [numeral, Regex.sequence, Regex.star, Regex.Plain, letter]
  rw [Regex.captures_iff_matches plain, matches_numeral]

theorem captures_blank :
    (Regex.star (.set .space)).Captures before matched after marks marks' ↔
      marks' = marks ∧ Blank matched := by
  have plain : (Regex.star (.set .space)).Plain := by simp [Regex.star, Regex.Plain]
  rw [Regex.captures_iff_matches plain, Regex.star, Regex.matches_star_set]
  rfl

/-- The places of all groups up to a number are the same. -/
def Agrees (count : Nat) (marks marks' : Marks) : Prop :=
  ∀ index ≤ count, marks'.lookup (.opening index) = marks.lookup (.opening index) ∧
    marks'.lookup (.closing index) = marks.lookup (.closing index)

theorem Agrees.groupText? {count index : Nat} (agrees : Agrees count marks marks')
    (bounded : index ≤ count) (text : List Char) :
    groupText? text marks' index = groupText? text marks index := by
  obtain ⟨openings, closings⟩ := agrees index bounded
  rw [Regex.groupText?, Regex.groupText?, openings, closings]

/-- The texts of the groups behind the first ones are the numbers. -/
def Keeps (count : Nat) (text : List Char) (marks : Marks) (numbers : List (List Char)) : Prop :=
  ∀ position number, numbers[position]? = some number →
    groupText? text marks (count + 1 + position) = some number

theorem lookup_of_ne {edge other : Regex.Edge} (different : edge ≠ other) (index : Nat)
    (marks : Marks) : List.lookup edge ((other, index) :: marks) = marks.lookup edge := by
  rw [List.lookup_cons, beq_false_of_ne different]

theorem agrees_group (count first last : Nat) (marks : Marks) :
    Agrees count marks
      ((.closing (count + 1), last) :: (.opening (count + 1), first) :: marks) := by
  intro index bounded
  have other : index ≠ count + 1 := by omega
  constructor
  · rw [lookup_of_ne (by simp), lookup_of_ne (by simpa using other)]
  · rw [lookup_of_ne (by simpa using other), lookup_of_ne (by simp)]

theorem groupText?_group (index first last : Nat) (text : List Char) (marks : Marks) :
    groupText? text ((.closing index, last) :: (.opening index, first) :: marks) index =
      some ((text.take last).drop first) := by
  rw [Regex.groupText?, lookup_of_ne (by simp), List.lookup_cons_self, List.lookup_cons_self]

theorem fits_of_captures {count : Nat}
    (captures : (sequence (regexes count parts)).Captures before matched after marks marks') :
    ∃ numbers, Fits parts matched numbers ∧ Agrees count marks marks' ∧
      Keeps count (before ++ matched ++ after) marks' numbers := by
  induction parts generalizing before matched marks count with
  | nil =>
      cases captures
      exact ⟨[], .nil, fun _ _ => ⟨rfl, rfl⟩, by simp [Keeps]⟩
  | cons part parts induction =>
      cases part with
      | mark mark =>
          obtain ⟨letters, text, rfl, spelled, later⟩ := Regex.captures_letters.mp captures
          obtain ⟨numbers, fits, agrees, keeps⟩ := induction later
          exact ⟨numbers, .mark spelled fits, agrees, by simpa using keeps⟩
      | blank =>
          obtain ⟨white, text, _, rfl, here, later⟩ := Regex.captures_sequence_cons.mp captures
          obtain ⟨rfl, blank⟩ := captures_blank.mp here
          obtain ⟨numbers, fits, agrees, keeps⟩ := induction later
          exact ⟨numbers, .blank blank fits, agrees, by simpa using keeps⟩
      | number name =>
          obtain ⟨number, text, _, rfl, here, later⟩ := Regex.captures_sequence_cons.mp captures
          obtain ⟨_, rfl, inner⟩ := Regex.captures_group.mp here
          obtain ⟨rfl, isNumber⟩ := captures_numeral.mp inner
          obtain ⟨numbers, fits, agrees, keeps⟩ := induction later
          refine ⟨number :: numbers, .number isNumber fits, ?_, ?_⟩
          · intro index bounded
            obtain ⟨openings, closings⟩ := agrees index (by omega)
            obtain ⟨openings', closings'⟩ := agrees_group count _ _ marks index bounded
            exact ⟨openings.trans openings', closings.trans closings'⟩
          · rintro (_ | position) found listed
            · obtain rfl : number = found := by simpa using listed
              have whole : before ++ (number ++ text) ++ after =
                  (before ++ number) ++ (text ++ after) := by simp
              rw [Nat.add_zero, agrees.groupText? (Nat.le_refl _), groupText?_group, whole,
                ← List.length_append, List.take_left, List.drop_left]
            · have later := keeps position found (by simpa using listed)
              have next : count + 1 + 1 + position = count + 1 + (position + 1) := by omega
              rw [next] at later
              simpa using later

theorem captures_of_fits {numbers : List (List Char)} (fits : Fits parts matched numbers)
    (count : Nat) (before after : List Char) (marks : Marks) :
    ∃ marks', (sequence (regexes count parts)).Captures before matched after marks marks' := by
  induction fits generalizing before marks count with
  | nil => exact ⟨marks, .empty⟩
  | mark spelled _ induction =>
      obtain ⟨marks', later⟩ := induction count (before ++ _) marks
      exact ⟨marks', Regex.captures_letters.mpr ⟨_, _, rfl, spelled, later⟩⟩
  | blank blank _ induction =>
      obtain ⟨marks', later⟩ := induction count (before ++ _) marks
      exact ⟨marks', Regex.captures_sequence_cons.mpr
        ⟨_, _, marks, rfl, captures_blank.mpr ⟨rfl, blank⟩, later⟩⟩
  | number isNumber _ induction =>
      obtain ⟨marks', later⟩ := induction (count + 1) (before ++ _)
        ((.closing (count + 1), before.length + _) :: (.opening (count + 1), before.length) ::
          marks)
      refine ⟨marks', Regex.captures_sequence_cons.mpr ⟨_, _, _, rfl, ?_, later⟩⟩
      exact Regex.captures_group.mpr ⟨_, rfl, captures_numeral.mpr ⟨rfl, isNumber⟩⟩

theorem Fits.length_numbers {text : List Char} {numbers : List (List Char)}
    (fits : Fits parts text numbers) : numbers.length = parts.countP Part.isNumber := by
  induction fits with
  | nil => rfl
  | mark _ _ induction => exact induction
  | blank _ _ induction => exact induction
  | number _ _ induction => rw [List.length_cons, induction, List.countP_cons_of_pos rfl]

/-- The pattern of the parts finds the texts that fit, with their numbers. -/
theorem search?_wholePattern (parts : List Part) (text : List Char) :
    ((wholePattern parts).search? text = none ∧ ∀ numbers, ¬Fits parts text numbers) ∨
      ∃ marks numbers, (wholePattern parts).search? text = some marks ∧
        Fits parts text numbers ∧ Keeps 0 text marks numbers := by
  cases found : (wholePattern parts).search? text with
  | none =>
      refine .inl ⟨rfl, fun numbers fits => ?_⟩
      obtain ⟨marks, inside⟩ := captures_of_fits fits 0 [] [] []
      have whole := Regex.captures_anchored.mpr ⟨rfl, rfl, inside⟩
      have present := Regex.isSome_search?_iff.mpr
        ⟨[], text, [], marks, (List.append_nil text).symm, whole⟩
      rw [Pattern.search?, wholePattern] at found
      rw [found] at present
      contradiction
  | some marks =>
      have whole := (Regex.spans_sequence (regexes 0 parts)).captures_of_search? found
      obtain ⟨-, -, inside⟩ := Regex.captures_anchored.mp whole
      obtain ⟨numbers, fits, -, keeps⟩ := fits_of_captures inside
      exact .inr ⟨marks, numbers, rfl, fits, by simpa using keeps⟩

theorem numberIn_of_keeps {pattern : Pattern} {text : List Char} {numbers : List (List Char)}
    (keeps : Keeps 0 text marks numbers) {name : String} {position : Nat} {number : List Char}
    (known : pattern.names.lookup name = some (position + 1))
    (listed : numbers[position]? = some number) :
    numberIn pattern text marks name = .ok (String.ofList number) := by
  have kept := keeps position number listed
  rw [Nat.zero_add, Nat.add_comm] at kept
  rw [numberIn, Pattern.groupText?, known, Option.bind_some, kept]

end Captures

/-- One of the forms of a range. -/
inductive Shape where
  | between
  | single (form : Form)
  deriving DecidableEq, Repr

namespace Shape

/-- The forms in the order in which they are tried. -/
def all : List Shape := .between :: Form.all.map .single

def parts (options : Options) : Shape → List Part
  | .between => options.betweenParts
  | .single form => options.formParts form

/-- The bounds that the pattern of the form finds. -/
def bounds? (pattern : Pattern) (text : List Char) :
    Shape → Except MissingNumber (Option (List Bound))
  | .between => betweenBounds pattern text
  | .single form => formBounds text [(form, pattern)]

end Shape

/-- The text fits the form, and so describes these bounds. -/
inductive Describes (options : Options) (text : List Char) : Shape → List Bound → Prop where
  | between {first last : List Char} (fits : Fits options.betweenParts text [first, last]) :
      Describes options text .between
        [⟨.greaterOrEqual, String.ofList first⟩, ⟨.lessOrEqual, String.ofList last⟩]
  | single {form : Form} {number : List Char}
      (fits : Fits (options.formParts form) text [number]) :
      Describes options text (.single form)
        (form.operators.map fun operator => ⟨operator, String.ofList number⟩)

/-- The pattern of a form finds the bounds that a text describes. -/
theorem bounds?_wholePattern (options : Options) (shape : Shape) (text : List Char) :
    (shape.bounds? (wholePattern (shape.parts options)) text = .ok none ∧
        ∀ bounds, ¬Describes options text shape bounds) ∨
      ∃ bounds, shape.bounds? (wholePattern (shape.parts options)) text = .ok (some bounds) ∧
        Describes options text shape bounds := by
  cases shape with
  | between =>
      rcases search?_wholePattern options.betweenParts text with
        ⟨found, misses⟩ | ⟨marks, numbers, found, fits, keeps⟩
      · refine .inl ⟨by simp [Shape.bounds?, Shape.parts, betweenBounds, found], ?_⟩
        intro bounds describes
        cases describes with
        | between fits => exact misses _ fits
      · obtain ⟨first, last, rfl⟩ := List.length_eq_two.mp fits.length_numbers
        have start := numberIn_of_keeps keeps
          (show (wholePattern options.betweenParts).names.lookup startGroup = some 1 from rfl) rfl
        have stop := numberIn_of_keeps keeps
          (show (wholePattern options.betweenParts).names.lookup endGroup = some 2 from rfl) rfl
        refine .inr ⟨_, ?_, .between fits⟩
        simp [Shape.bounds?, Shape.parts, betweenBounds, found, start, stop]
  | single form =>
      rcases search?_wholePattern (options.formParts form) text with
        ⟨found, misses⟩ | ⟨marks, numbers, found, fits, keeps⟩
      · refine .inl ⟨by simp [Shape.bounds?, Shape.parts, formBounds, found], ?_⟩
        intro bounds describes
        cases describes with
        | single fits => exact misses _ fits
      · obtain ⟨number, rfl⟩ := List.length_eq_one_iff.mp fits.length_numbers
        have start := numberIn_of_keeps keeps
          (show (wholePattern (options.formParts form)).names.lookup startGroup = some 1 from rfl)
          rfl
        refine .inr ⟨_, ?_, .single fits⟩
        simp [Shape.bounds?, Shape.parts, formBounds, found, start, Except.map]

/-- The bounds that the first pattern finds which finds any. -/
def firstBounds (text : List Char) :
    List (Shape × Pattern) → Except MissingNumber (Option (List Bound))
  | [] => .ok none
  | (shape, pattern) :: others =>
      match shape.bounds? pattern text with
      | .ok none => firstBounds text others
      | result => result

theorem firstBounds_wholePatterns {options : Options} {entries : List (Shape × Pattern)}
    (whole : ∀ entry ∈ entries, entry.2 = wholePattern (entry.1.parts options))
    (text : List Char) :
    (firstBounds text entries = .ok none ∧
        ∀ entry ∈ entries, ∀ bounds, ¬Describes options text entry.1 bounds) ∨
      ∃ bounds, firstBounds text entries = .ok (some bounds) ∧
        ∃ shape, Describes options text shape bounds := by
  induction entries with
  | nil => exact .inl ⟨rfl, by simp⟩
  | cons entry entries induction =>
      obtain ⟨shape, pattern⟩ := entry
      obtain ⟨here, later⟩ := List.forall_mem_cons.mp whole
      obtain rfl : pattern = wholePattern (shape.parts options) := here
      simp only [firstBounds]
      rcases bounds?_wholePattern options shape text with
        ⟨misses, none⟩ | ⟨bounds, found, describes⟩
      · simp only [misses]
        rcases induction later with ⟨missed, nowhere⟩ | found
        · exact .inl ⟨missed, List.forall_mem_cons.mpr ⟨none, nowhere⟩⟩
        · exact .inr found
      · simp only [found]
        exact .inr ⟨bounds, rfl, shape, describes⟩

/-- The patterns of a range in the order in which they are tried. -/
def shapes (range : Range) : List (Shape × Pattern) :=
  (.between, range.between) :: range.forms.map fun entry => (.single entry.1, entry.2)

theorem formBounds_eq_firstBounds (text : List Char) (forms : List (Form × Pattern)) :
    formBounds text forms =
      firstBounds text (forms.map fun entry => (.single entry.1, entry.2)) := by
  induction forms with
  | nil => rfl
  | cons entry forms induction =>
      obtain ⟨form, pattern⟩ := entry
      cases found : pattern.search? text with
      | none => simp [formBounds, firstBounds, Shape.bounds?, found, induction]
      | some marks =>
          cases number : numberIn pattern text marks startGroup <;>
            simp [formBounds, firstBounds, Shape.bounds?, found, number, Except.map]

theorem bounds_eq_firstBounds (range : Range) (text : String) :
    range.bounds text = firstBounds text.toList range.shapes := by
  rw [bounds, shapes, firstBounds, formBounds_eq_firstBounds]
  rfl

theorem shapes_of_ofOptions? {options : Options} (usual : options.UsualNumber) {range : Range}
    (made : ofOptions? options = .ok range) :
    range.shapes = Shape.all.map fun shape => (shape, wholePattern (shape.parts options)) := by
  obtain ⟨between, forms⟩ := patterns_of_ofOptions? usual made
  rw [shapes, between, forms, Shape.all, List.map_cons, List.map_map, List.map_map]
  rfl

/-- Whatever the order in which the forms are tried, a text has the bounds of a form that it
fits, or it fits none. -/
theorem firstBounds_describes {options : Options} (usual : options.UsualNumber) {range : Range}
    (made : ofOptions? options = .ok range) {order : List (Shape × Pattern)}
    (permuted : order.Perm range.shapes) (text : List Char) :
    (firstBounds text order = .ok none ∧ ∀ shape bounds, ¬Describes options text shape bounds) ∨
      ∃ bounds, firstBounds text order = .ok (some bounds) ∧
        ∃ shape, Describes options text shape bounds := by
  have listed : ∀ entry, entry ∈ order ↔
      ∃ shape ∈ Shape.all, (shape, wholePattern (shape.parts options)) = entry := by
    intro entry
    rw [permuted.mem_iff, shapes_of_ofOptions? usual made, List.mem_map]
  have whole : ∀ entry ∈ order, entry.2 = wholePattern (entry.1.parts options) := by
    intro entry member
    obtain ⟨shape, -, rfl⟩ := (listed entry).mp member
    rfl
  rcases firstBounds_wholePatterns whole text with ⟨found, misses⟩ | found
  · refine .inl ⟨found, fun shape => misses (shape, _) ((listed _).mpr ⟨shape, ?_, rfl⟩)⟩
    rcases shape with _ | _ | _ <;> decide
  · exact .inr found

theorem bounds_describes {options : Options} (usual : options.UsualNumber) {range : Range}
    (made : ofOptions? options = .ok range) (text : String) :
    (range.bounds text = .ok none ∧
        ∀ shape bounds, ¬Describes options text.toList shape bounds) ∨
      ∃ bounds, range.bounds text = .ok (some bounds) ∧
        ∃ shape, Describes options text.toList shape bounds := by
  rw [bounds_eq_firstBounds]
  exact firstBounds_describes usual made (.refl _) text.toList

end Range

end ColumnFilter
