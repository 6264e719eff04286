import Mathlib.Data.List.TakeWhile
import ColumnFilter.Proofs.Strategy.Fitting

/-!
# The usual notation

In the usual notation, a text has one of six forms at most, and its numbers are determined
by it.  So it does not matter in which order the forms are tried.
-/

namespace ColumnFilter

namespace Range

/-- The sign in front of a number. -/
def Form.sign : Form → List Char
  | .less => ['<']
  | .lessOrEqual => ['<', '=']
  | .greater => ['>']
  | .greaterOrEqual => ['>', '=']
  | .equal => ['=']

/-- A text in the usual notation, with the form that it has and the bounds that it describes. -/
inductive Usual : (text : List Char) → Shape → List Bound → Prop where
  | between {white first white' white'' last white''' : List Char} {t o : Char} :
      Blank white → IsNumber first → Blank white' → t = 't' ∨ t = 'T' → o = 'o' ∨ o = 'O' →
      Blank white'' → IsNumber last → Blank white''' →
      Usual (white ++ first ++ white' ++ [' ', t, o, ' '] ++ white'' ++ last ++ white''') .between
        [⟨.greaterOrEqual, String.ofList first⟩, ⟨.lessOrEqual, String.ofList last⟩]
  | single {form : Form} {white number white' : List Char} :
      Blank white → IsNumber number → Blank white' →
      Usual (form.sign ++ white ++ number ++ white') (.single form)
        (form.operators.map fun operator => ⟨operator, String.ofList number⟩)

variable {text : List Char} {shape : Shape} {bounds : List Bound}

theorem spelled_to {letters : List Char} :
    Regex.Spelled " to ".toList letters ↔
      ∃ t o, (t = 't' ∨ t = 'T') ∧ (o = 'o' ∨ o = 'O') ∧ letters = [' ', t, o, ' '] := by
  have classes : Text.foldClass ' ' = [' '] ∧ Text.foldClass 't' = ['t', 'T'] ∧
      Text.foldClass 'o' = ['o', 'O'] := by
    decide +kernel
  obtain ⟨space, t, o⟩ := classes
  change Regex.Spelled [' ', 't', 'o', ' '] letters ↔ _
  simp only [Regex.spelled_cons, space, t, o, List.mem_cons, List.not_mem_nil, or_false]
  constructor
  · rintro ⟨_, _, rfl, ⟨t, _, first, ⟨o, _, second, ⟨_, _, rfl, last, rfl⟩, rfl⟩, rfl⟩, rfl⟩
    cases last
    exact ⟨t, o, first, second, rfl⟩
  · rintro ⟨t, o, first, second, rfl⟩
    exact ⟨_, _, rfl, ⟨t, _, first, ⟨o, _, second, ⟨_, _, rfl, .nil, rfl⟩, rfl⟩, rfl⟩, rfl⟩

theorem spelled_sign {form : Form} {letters : List Char} :
    Regex.Spelled (Options.standard.markers form).opening.toList letters ↔
      letters = form.sign := by
  have opening : (Options.standard.markers form).opening.toList = form.sign := by
    cases form <;> rfl
  rw [opening]
  apply Regex.spelled_iff_eq
  clear opening
  cases form <;> exact List.forall_iff_forall_mem.mp (by decide +kernel)

theorem spelled_nothing {letters : List Char} :
    Regex.Spelled "".toList letters ↔ letters = [] := List.forall₂_nil_left_iff

/-- The usual notation is what the usual marks make of the forms. -/
theorem describes_standard_iff :
    Describes .standard text shape bounds ↔ Usual text shape bounds := by
  constructor
  · rintro (fits | @⟨form, _, fits⟩)
    · obtain ⟨_, white, white', word, white'', white''', _, rfl, nothing, blank, isFirst, blank',
        spelled, blank'', isLast, blank''', nothing'⟩ := fits_betweenParts.mp fits
      obtain ⟨t, o, isT, isO, rfl⟩ := spelled_to.mp spelled
      rw [spelled_nothing.mp nothing, spelled_nothing.mp nothing', List.append_nil]
      exact .between blank isFirst blank' isT isO blank'' isLast blank'''
    · obtain ⟨_, white, white', _, rfl, spelled, blank, isNumber, blank', nothing⟩ :=
        fits_formParts.mp fits
      have closing : (Options.standard.markers form).closing = "" := by cases form <;> rfl
      rw [closing, spelled_nothing] at nothing
      rw [spelled_sign.mp spelled, nothing, List.append_nil]
      exact .single blank isNumber blank'
  · rintro (⟨blank, isFirst, blank', isT, isO, blank'', isLast, blank'''⟩ |
      @⟨form, _, _, _, blank, isNumber, blank'⟩)
    · refine .between (fits_betweenParts.mpr ⟨[], _, _, _, _, _, [], ?_, .nil, blank, isFirst,
        blank', spelled_to.mpr ⟨_, _, isT, isO, rfl⟩, blank'', isLast, blank''', .nil⟩)
      simp
    · refine .single (fits_formParts.mpr ⟨_, _, _, [], ?_, spelled_sign.mpr rfl, blank, isNumber,
        blank', ?_⟩)
      · simp
      · cases form <;> exact .nil

/-- The characters of signs. -/
def isSign (c : Char) : Bool := ['<', '=', '>'].contains c

/-- The letters between two numbers. -/
def isLetter (c : Char) : Bool := ['t', 'T', 'o', 'O'].contains c

/-- Neither white space nor a part of a mark. -/
def isPlain (c : Char) : Bool := !Text.isSpace c && !isSign c && !isLetter c

theorem not_mark {c : Char} (ordinary : Text.isSpace c = true ∨ c = '-' ∨ c = '.' ∨
    Text.isDecimalDigit c = true) : isSign c = false ∧ isLetter c = false := by
  have marks : ∀ c ∈ ['<', '=', '>', 't', 'T', 'o', 'O'], ¬(Text.isSpace c = true ∨ c = '-' ∨
      c = '.' ∨ Text.isDecimalDigit c = true) :=
    List.forall_iff_forall_mem.mp (by decide +kernel)
  have absent : c ∉ ['<', '=', '>', 't', 'T', 'o', 'O'] := fun member => marks c member ordinary
  simp only [List.mem_cons, List.not_mem_nil, not_or] at absent
  simp [isSign, isLetter, absent]

/-- What is left of a stretch of a text when only some of its characters are kept. -/
structure Kept (stretch signs plain : List Char) : Prop where
  signs : stretch.filter isSign = signs
  plain : stretch.filter isPlain = plain
  letterless : ∀ c ∈ stretch, (!isLetter c) = true

theorem Blank.kept {white : List Char} (blank : Blank white) : Kept white [] [] := by
  constructor
  · rw [List.filter_eq_nil_iff]
    intro c member
    simp [(not_mark (.inl (blank c member))).1]
  · rw [List.filter_eq_nil_iff]
    intro c member
    simp [isPlain, blank c member]
  · intro c member
    simp [(not_mark (.inl (blank c member))).2]

theorem IsNumber.kept {number : List Char} (isNumber : IsNumber number) :
    Kept number [] number := by
  have ordinary : ∀ c ∈ number, isSign c = false ∧ isLetter c = false :=
    fun c member => not_mark (.inr (isNumber.mem member))
  constructor
  · rw [List.filter_eq_nil_iff]
    intro c member
    simp [(ordinary c member).1]
  · rw [List.filter_eq_self]
    intro c member
    simp [isPlain, ordinary c member, isNumber.visible member]
  · intro c member
    simp [(ordinary c member).2]

theorem Kept.append {first second signs signs' plain plain' : List Char}
    (kept : Kept first signs plain) (kept' : Kept second signs' plain') :
    Kept (first ++ second) (signs ++ signs') (plain ++ plain') := by
  constructor
  · rw [List.filter_append, kept.signs, kept'.signs]
  · rw [List.filter_append, kept.plain, kept'.plain]
  · intro c member
    rcases List.mem_append.mp member with inFirst | inSecond
    · exact kept.letterless c inFirst
    · exact kept'.letterless c inSecond

theorem kept_sign (form : Form) : Kept form.sign form.sign [] := by
  cases form <;> exact ⟨by decide +kernel, by decide +kernel,
    List.forall_iff_forall_mem.mp (by decide +kernel)⟩

def Shape.sign : Shape → List Char
  | .between => []
  | .single form => form.sign

theorem Shape.sign_injective : Function.Injective Shape.sign := by
  rintro (_ | form) (_ | form') same
  · rfl
  · cases form' <;> simp [Shape.sign, Form.sign] at same
  · cases form <;> simp [Shape.sign, Form.sign] at same
  · cases form <;> cases form' <;> simp [Shape.sign, Form.sign] at same ⊢

/-- The bounds of a form with these numbers. -/
def Shape.boundsOf (first last : List Char) : Shape → List Bound
  | .between => [⟨.greaterOrEqual, String.ofList first⟩, ⟨.lessOrEqual, String.ofList last⟩]
  | .single form => form.operators.map fun operator => ⟨operator, String.ofList first⟩

theorem Kept.split {stretch signs plain : List Char} (kept : Kept stretch signs plain) {c : Char}
    (letter : isLetter c = true) (behind : List Char) :
    (stretch ++ c :: behind).takeWhile (!isLetter ·) = stretch ∧
      (stretch ++ c :: behind).dropWhile (!isLetter ·) = c :: behind := by
  constructor
  · rw [List.takeWhile_append_of_pos kept.letterless, List.takeWhile_cons_of_neg (by simp [letter]),
      List.append_nil]
  · rw [List.dropWhile_append_of_pos kept.letterless, List.dropWhile_cons_of_neg (by simp [letter])]

/-- Form and numbers can be read off the characters of a text. -/
theorem Usual.determined (usual : Usual text shape bounds) :
    shape.sign = text.filter isSign ∧
      bounds = shape.boundsOf ((text.takeWhile (!isLetter ·)).filter isPlain)
        ((text.dropWhile (!isLetter ·)).filter isPlain) := by
  have space : Kept [' '] [] [] :=
    Blank.kept (List.forall_iff_forall_mem.mp (by decide +kernel))
  rcases usual with @⟨white, first, white', white'', last, white''', t, o, blank, isFirst, blank',
    isT, isO, blank'', isLast, blank'''⟩ | @⟨form, _, _, _, blank, isNumber, blank'⟩
  · have front := ((blank.kept.append isFirst.kept).append blank'.kept).append space
    have back := ((space.append blank''.kept).append isLast.kept).append blank'''.kept
    have t' : isSign t = false ∧ isPlain t = false ∧ isLetter t = true := by
      rcases isT with rfl | rfl <;> decide +kernel
    have o' : isSign o = false ∧ isPlain o = false := by
      rcases isO with rfl | rfl <;> decide +kernel
    have shape : white ++ first ++ white' ++ [' ', t, o, ' '] ++ white'' ++ last ++ white''' =
        (white ++ first ++ white' ++ [' ']) ++
          t :: o :: ([' '] ++ white'' ++ last ++ white''') := by
      simp
    obtain ⟨before, behind⟩ := front.split t'.2.2 (o :: ([' '] ++ white'' ++ last ++ white'''))
    rw [shape, before, behind]
    constructor
    · rw [List.filter_append, List.filter_cons_of_neg (by simp [t']),
        List.filter_cons_of_neg (by simp [o']), front.signs, back.signs]
      rfl
    · rw [List.filter_cons_of_neg (by simp [t']), List.filter_cons_of_neg (by simp [o']),
        front.plain, back.plain]
      simp [Shape.boundsOf]
  · have whole := (((kept_sign form).append blank.kept).append isNumber.kept).append blank'.kept
    constructor
    · rw [whole.signs]
      simp [Shape.sign]
    · have all := List.takeWhile_eq_self_iff.mpr whole.letterless
      rw [all, whole.plain]
      simp [Shape.boundsOf]

/-- A text has one form at most, and describes one list of bounds. -/
theorem Usual.unique {shape' : Shape} {bounds' : List Bound} (usual : Usual text shape bounds)
    (usual' : Usual text shape' bounds') : shape = shape' ∧ bounds = bounds' := by
  obtain ⟨sign, numbers⟩ := usual.determined
  obtain ⟨sign', numbers'⟩ := usual'.determined
  obtain rfl := Shape.sign_injective (sign.trans sign'.symm)
  exact ⟨rfl, numbers.trans numbers'.symm⟩

theorem exists_standard : ∃ range, ofOptions? .standard = .ok range := by
  have evaluated : (ofOptions? .standard).toOption.isSome = true := by
    decide +kernel
  cases made : ofOptions? .standard with
  | error problem =>
      rw [made] at evaluated
      contradiction
  | ok range => exact ⟨range, rfl⟩

/-- The first form that a text has is the only one. -/
theorem firstBounds_standard {range : Range} (made : ofOptions? .standard = .ok range)
    {order : List (Shape × Pattern)} (permuted : order.Perm range.shapes) (text : List Char) :
    (∀ bounds, firstBounds text order = .ok (some bounds) ↔ ∃ shape, Usual text shape bounds) ∧
      (firstBounds text order = .ok none ↔ ∀ shape bounds, ¬Usual text shape bounds) := by
  rcases firstBounds_describes rfl made permuted text with
    ⟨found, misses⟩ | ⟨bounds, found, shape, describes⟩
  · simp only [describes_standard_iff] at misses
    simp [found, misses]
  · have usual := describes_standard_iff.mp describes
    rw [found]
    constructor
    · intro bounds'
      rw [Except.ok.injEq, Option.some.injEq]
      constructor
      · rintro rfl
        exact ⟨shape, usual⟩
      · rintro ⟨shape', usual'⟩
        exact (usual.unique usual').2
    · simp only [Except.ok.injEq, reduceCtorEq, false_iff, not_forall, not_not]
      exact ⟨shape, bounds, usual⟩

/-- In the usual notation, a text has bounds if it has one of six forms.  The form and its
bounds are determined by the text, and whatever the order in which the forms are tried, the
same bounds are found. -/
theorem bounds_standard :
    ∃ range, ofOptions? .standard = .ok range ∧ ∀ text : String,
      (∀ bounds, range.bounds text = .ok (some bounds) ↔
        ∃ shape, Usual text.toList shape bounds) ∧
      (range.bounds text = .ok none ↔ ∀ shape bounds, ¬Usual text.toList shape bounds) ∧
      (∀ shape shape' bounds bounds', Usual text.toList shape bounds →
        Usual text.toList shape' bounds' → shape = shape' ∧ bounds = bounds') ∧
      ∀ order, order.Perm range.shapes → firstBounds text.toList order = range.bounds text := by
  obtain ⟨range, made⟩ := exists_standard
  refine ⟨range, made, fun text => ?_⟩
  rw [bounds_eq_firstBounds]
  obtain ⟨accepted, refused⟩ := firstBounds_standard made (.refl range.shapes) text.toList
  refine ⟨accepted, refused, fun shape shape' bounds bounds' => Usual.unique, ?_⟩
  intro order permuted
  obtain ⟨accepted', refused'⟩ := firstBounds_standard made permuted text.toList
  rcases firstBounds_describes rfl made (.refl range.shapes) text.toList with
    ⟨found, -⟩ | ⟨bounds, found, -⟩
  · rw [found, refused', ← refused, found]
  · rw [found, accepted', ← accepted, found]

end Range

end ColumnFilter
