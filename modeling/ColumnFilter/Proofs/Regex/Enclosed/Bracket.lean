import ColumnFilter.Proofs.Regex.Enclosed.Escape
import ColumnFilter.Regex.Bracket

/-!
# Classes in an enclosed pattern

A class ends at its closing bracket.  On the way there, a hyphen is read by what it
stands in front of, and the name of an ASCII class by whether it ends properly; a
closing parenthesis behind the pattern decides neither.
-/

namespace ColumnFilter.Regex

open Text (Scan)

variable {flags flags' : Flags} {input behind rest rest' : List Char}

theorem not_isSpace_paren : Text.isSpace ')' = false := by decide

/-- Is the next character one that ends a class or, in front of a hyphen, a member? -/
def endsMember (next : Option Char) : Bool := next == some ']' || next == some '-'

theorem endsMember_space {c : Char} (space : Text.isSpace c = true) :
    endsMember (some c) = false := by
  have bracket : Text.isSpace ']' = false := by decide
  have hyphen : Text.isSpace '-' = false := by decide
  rw [Bool.eq_false_iff]
  intro ends
  simp only [endsMember, Bool.or_eq_true, beq_iff_eq, Option.some.injEq] at ends
  rcases ends with rfl | rfl
  · simp [bracket] at space
  · simp [hyphen] at space

theorem dropWhile_append_paren {text : List Char} (paren : behind.head? = some ')') :
    (text ++ behind).dropWhile Text.isSpace = text.dropWhile Text.isSpace ++ behind := by
  obtain ⟨behind, rfl⟩ := List.head?_eq_some_iff.mp paren
  induction text with
  | nil => simp [not_isSpace_paren]
  | cons c text induction =>
      rw [List.cons_append, List.dropWhile_cons, List.dropWhile_cons]
      split
      · exact induction
      · rfl

theorem endsMember_head {text : List Char}
    (front : ∀ c ∈ (text.dropWhile Text.isSpace).head?, c = '#') :
    endsMember text.head? = false := by
  cases text with
  | nil => rfl
  | cons c text =>
      by_cases space : Text.isSpace c = true
      · exact endsMember_space space
      · rw [List.dropWhile_cons, if_neg space] at front
        obtain rfl : c = '#' := front c rfl
        rfl

theorem endsMember_peekBehind (same : flags'.extended = flags.extended)
    (paren : behind.head? = some ')') (text : List Char) :
    endsMember (peekBehind flags' (text ++ behind)) = endsMember (peekBehind flags text) := by
  obtain ⟨tail, shape⟩ := List.head?_eq_some_iff.mp paren
  have parenthesis : endsMember (some ')') = false := rfl
  cases extended : flags.extended with
  | false =>
      cases text with
      | nil =>
          simp only [peekBehind, same, extended, List.nil_append, paren]
          rfl
      | cons c text => simp [peekBehind, same, extended]
  | true =>
      simp only [peekBehind, same, extended, dropWhile_append_paren paren]
      cases front : text.dropWhile Text.isSpace with
      | nil =>
          -- Only white space is left, and the parenthesis is seen behind it.
          have blank : endsMember text.head? = false := endsMember_head (by simp [front])
          simp [shape, parenthesis, blank]
      | cons c comment =>
          by_cases hash : c = '#'
          · subst hash
            have blank : endsMember text.head? = false := endsMember_head (by simp [front])
            simp only [List.cons_append, dropWhile_append_paren paren]
            cases comment.dropWhile Text.isSpace with
            | nil => simp [shape, parenthesis, blank]
            | cons d later => rfl
          · simp

theorem leaves_takeMember (leaves : Leaves (takeMember flags input) rest) :
    (∃ text, input = '\\' :: text ∧ Leaves (takeEscape flags text) rest) ∨
      ∃ c, c ≠ '\\' ∧ input = c :: rest := by
  cases input with
  | nil => simp [takeMember] at leaves
  | cons c text =>
      by_cases slash : c = '\\'
      · subst slash
        exact .inl ⟨text, rfl, by simpa [takeMember] using leaves⟩
      · obtain rfl : text = rest := by simpa [takeMember, slash] using leaves
        exact .inr ⟨c, slash, rfl⟩

theorem takeMember_continues (leaves : Leaves (takeMember flags input) rest) :
    Continues flags.extended (fun flags text => Leaves (takeMember flags text)) input rest := by
  rcases leaves_takeMember leaves with ⟨text, rfl, escape⟩ | ⟨c, other, rfl⟩
  · apply (takeEscape_continues escape).mono
    intro flags' behind rest' _ _ leaves'
    rcases leaves_takeMember leaves' with ⟨text', shape, escape'⟩ | ⟨c, other, shape⟩
    · obtain rfl : text ++ behind = text' := by simpa using shape
      exact escape'
    · simp only [List.cons_append, List.cons.injEq] at shape
      exact absurd shape.1.symm other
  · apply Continues.of_append
    intro flags' behind rest' _ _ leaves'
    rcases leaves_takeMember leaves' with ⟨text', shape, -⟩ | ⟨c', -, shape⟩
    · simp only [List.cons_append, List.cons.injEq] at shape
      exact absurd shape.1 other
    · simp only [List.cons_append, List.cons.injEq] at shape
      exact shape.2.symm

/-- What is read of a range behind its first member. -/
def rangeTail : Reading := fun flags text rest =>
  ∃ c inner, text = c :: inner ∧
    if c != '-' || endsMember (peekBehind flags inner) then text = rest
    else Leaves (takeMember flags (skipIgnored flags inner).rest) rest

theorem leaves_takeRange (leaves : Leaves (takeRange flags input) rest) :
    ∃ middle, Leaves (takeMember flags input) middle ∧
      rangeTail flags (skipIgnored flags middle).rest rest := by
  revert leaves
  fun_cases takeRange flags input with
  | case1 | case2 | case4 | case6 | case7 | case8 => simp
  | case3 first member next _ _ c text shape peeked alone =>
      intro leaves
      refine ⟨first.rest, ⟨first, member, rfl⟩, c, text, shape, ?_⟩
      rw [Bool.or_assoc] at alone
      rw [if_pos (by exact alone), shape]
      rw [leaves_map] at leaves
      obtain ⟨_, -, stays⟩ := leaves
      exact stays
  | case5 first member next _ _ c text shape peeked ranges start second member' low high _ _ _ =>
      intro leaves
      refine ⟨first.rest, ⟨first, member, rfl⟩, c, text, shape, ?_⟩
      rw [Bool.or_assoc] at ranges
      rw [if_neg (by exact ranges)]
      exact ⟨second, member', by simpa using leaves⟩

theorem rangeTail_continues (reads : rangeTail flags input rest) :
    Continues flags.extended rangeTail input rest := by
  obtain ⟨c, inner, rfl, reads⟩ := reads
  by_cases alone : c != '-' || endsMember (peekBehind flags inner)
  · rw [if_pos alone] at reads
    subst reads
    apply Continues.of_append
    rintro flags' behind rest' same paren ⟨c', inner', shape, reads'⟩
    obtain ⟨rfl, rfl⟩ : c = c' ∧ inner ++ behind = inner' := by simpa using shape
    rw [endsMember_peekBehind same paren, if_pos alone] at reads'
    exact reads'.symm
  · rw [if_neg alone] at reads
    have second := (skipping_continues flags inner).trans (takeMember_continues reads) (by
      intro vacant
      rw [vacant] at reads
      simp [takeMember] at reads)
    apply second.mono
    rintro flags' behind rest' same paren ⟨c', inner', shape, reads'⟩
    obtain ⟨rfl, rfl⟩ : c = c' ∧ inner ++ behind = inner' := by simpa using shape
    rw [endsMember_peekBehind same paren, if_neg alone] at reads'
    exact ⟨_, rfl, reads'⟩

theorem takeRange_continues (leaves : Leaves (takeRange flags input) rest) :
    Continues flags.extended (fun flags text => Leaves (takeRange flags text)) input rest := by
  obtain ⟨middle, member, reads⟩ := leaves_takeRange leaves
  have visible : (skipIgnored flags middle).rest ≠ [] := by
    obtain ⟨c, inner, shape, -⟩ := reads
    simp [shape]
  have present : middle ≠ [] := by
    rintro rfl
    cases extended : flags.extended <;> simp [skipIgnored, extended, skipIgnoredFrom] at visible
  have tail := (skipping_continues flags middle).trans (rangeTail_continues reads)
    (absurd · visible)
  apply ((takeMember_continues member).trans tail (absurd · present)).mono
  intro flags' behind rest' _ _ leaves'
  obtain ⟨middle', member', reads'⟩ := leaves_takeRange leaves'
  exact ⟨middle', member', _, rfl, reads'⟩

theorem takeHyphens_hyphen {text : List Char} :
    (takeHyphens flags ('-' :: text)).rest =
        (takeHyphens flags (skipIgnored flags text).rest).rest ∧
      (takeHyphens flags ('-' :: text)).value =
        .oneOf ['-'] :: (takeHyphens flags (skipIgnored flags text).rest).value := by
  rw [takeHyphens]
  exact ⟨rfl, rfl⟩

theorem takeHyphens_other (other : ∀ text, input ≠ '-' :: text) :
    takeHyphens flags input = .stay [] input := by
  rw [takeHyphens]
  exact fun text shape => other text shape

theorem takeHyphens_append (same : flags'.extended = flags.extended)
    (paren : behind.head? = some ')') (input : List Char)
    (present : (takeHyphens flags input).rest ≠ []) :
    (takeHyphens flags' (input ++ behind)).rest = (takeHyphens flags input).rest ++ behind ∧
      (takeHyphens flags' (input ++ behind)).value = (takeHyphens flags input).value := by
  fun_induction takeHyphens flags input with
  | case1 text bounded scan induction =>
      have visible : (skipIgnored flags text).rest ≠ [] := by
        intro vacant
        apply present
        change (takeHyphens flags (skipIgnored flags text).rest).rest = []
        rw [vacant, takeHyphens_other (by simp)]
        rfl
      have skips := (skipping_continues flags text).eq_append visible same paren rfl
      rw [List.cons_append, takeHyphens_hyphen.1, takeHyphens_hyphen.2, skips]
      obtain ⟨left, members⟩ := induction present
      exact ⟨left, congrArg _ members⟩
  | case2 other noHyphen =>
      obtain ⟨c, text, rfl⟩ := List.exists_cons_of_ne_nil present
      rw [takeHyphens_other]
      · exact ⟨rfl, rfl⟩
      · intro text' shape
        simp only [List.cons_append, List.cons.injEq] at shape
        exact noHyphen text (congrArg (· :: text) shape.1)

/-- What is left behind a caret. -/
def behindCaret (flags : Flags) (text : List Char) : List Char :=
  if text.head? == some '^' then (skipIgnored flags text.tail).rest else text

theorem behindCaret_append (same : flags'.extended = flags.extended)
    (paren : behind.head? = some ')') (present : behindCaret flags input ≠ []) :
    behindCaret flags' (input ++ behind) = behindCaret flags input ++ behind := by
  cases input with
  | nil => exact absurd rfl present
  | cons c text =>
      by_cases caret : c = '^'
      · subst caret
        exact (skipping_continues flags text).eq_append present same paren rfl
      · have stays : ∀ flags text, behindCaret flags (c :: text) = c :: text := by
          intro flags text
          exact if_neg (by simpa using caret)
        rw [List.cons_append, stays, stays, List.cons_append]

theorem leaves_takeOpening (leaves : Leaves (takeOpening flags input) rest) :
    ∃ text, behindCaret flags (skipIgnored flags input).rest = text ∧
      (takeHyphens flags text).rest ≠ [] ∧ rest ≠ [] ∧
      if (takeHyphens flags text).value.isEmpty &&
          (takeHyphens flags text).rest.head? == some ']' then
        (skipIgnored flags (takeHyphens flags text).rest.tail).rest = rest
      else (takeHyphens flags text).rest = rest := by
  unfold takeOpening at leaves
  extract_lets start negation hyphens next at leaves
  have caret : behindCaret flags (skipIgnored flags input).rest = negation.rest := by
    simp only [behindCaret, negation]
    split <;> rfl
  refine ⟨negation.rest, caret, ?_⟩
  by_cases present : hyphens.rest.isEmpty
  · rw [if_pos present] at leaves
    simp at leaves
  · rw [if_neg present] at leaves
    have present : (takeHyphens flags negation.rest).rest ≠ [] := by
      simpa [hyphens, List.isEmpty_iff] using present
    refine ⟨present, ?_⟩
    by_cases bracket : hyphens.value.isEmpty && hyphens.rest.head? == some ']'
    · rw [if_pos bracket] at leaves
      rw [if_pos (by exact bracket)]
      by_cases visible : next.rest.isEmpty
      · rw [if_pos visible] at leaves
        simp at leaves
      · rw [if_neg visible] at leaves
        have stops : next.rest = rest := by simpa using leaves
        rw [List.isEmpty_iff, stops] at visible
        exact ⟨visible, stops⟩
    · rw [if_neg bracket] at leaves
      rw [if_neg (by exact bracket)]
      have stops : hyphens.rest = rest := by simpa using leaves
      exact ⟨stops ▸ present, stops⟩

theorem takeOpening_append (same : flags'.extended = flags.extended)
    (paren : behind.head? = some ')') (leaves : Leaves (takeOpening flags input) rest)
    (leaves' : Leaves (takeOpening flags' (input ++ behind)) rest') :
    rest' = rest ++ behind := by
  obtain ⟨text, caret, hyphens, present, ends⟩ := leaves_takeOpening leaves
  obtain ⟨text', caret', -, -, ends'⟩ := leaves_takeOpening leaves'
  have inside : text ≠ [] := by
    rintro rfl
    rw [takeHyphens_other (by simp)] at hyphens
    exact hyphens rfl
  have visible : (skipIgnored flags input).rest ≠ [] := by
    intro vacant
    rw [vacant] at caret
    exact inside caret.symm
  have start := (skipping_continues flags input).eq_append visible same paren rfl
  have text_eq : text' = text ++ behind := by
    rw [← caret', ← caret, start]
    exact behindCaret_append same paren (by rw [caret]; exact inside)
  obtain ⟨left, members⟩ := takeHyphens_append same paren text hyphens
  rw [text_eq, left, members] at ends'
  obtain ⟨c, later, shape⟩ := List.exists_cons_of_ne_nil hyphens
  simp only [shape, List.cons_append, List.head?_cons] at ends ends'
  by_cases bracket : (takeHyphens flags text).value.isEmpty && some c == some ']'
  · rw [if_pos bracket] at ends ends'
    rw [shape, List.tail_cons] at ends
    rw [shape, List.cons_append, List.tail_cons] at ends'
    have skips := (skipping_continues flags later).eq_append (by rw [ends]; exact present) same
      paren rfl
    rw [← ends', skips, ends]
  · rw [if_neg bracket] at ends ends'
    rw [← ends', ← ends, List.cons_append]

theorem ofAsciiName?_eq_none {name : String} (paren : ')' ∈ name.toList) :
    CharSet.ofAsciiName? name = none := by
  unfold CharSet.ofAsciiName?
  split <;> first
    | rfl
    | exact absurd paren (by decide)

/-- What follows the name of an ASCII class, if it is known and ends properly. -/
def behindAsciiName? (text : List Char) : Option (List Char) :=
  match text.dropWhile (· != ':') with
  | ':' :: ']' :: behind =>
      if (CharSet.ofAsciiName? (String.ofList (text.takeWhile (· != ':')))).isSome then some behind
      else none
  | _ => none

theorem behindAsciiName?_append (paren : behind.head? = some ')') (text : List Char) :
    behindAsciiName? (text ++ behind) = (behindAsciiName? text).map (· ++ behind) := by
  obtain ⟨tail, rfl⟩ := List.head?_eq_some_iff.mp paren
  have parts := congrArg List.length (List.takeWhile_append_dropWhile (p := (· != ':')) (l := text))
  rw [List.length_append] at parts
  cases colon : text.dropWhile (· != ':') with
  | nil =>
      -- A name that is not over takes the parenthesis with it.
      have unknown : CharSet.ofAsciiName?
          (String.ofList ((text ++ ')' :: tail).takeWhile (· != ':'))) = none := by
        apply ofAsciiName?_eq_none
        rw [String.toList_ofList, List.takeWhile_append, if_pos (by simpa [colon] using parts)]
        simp
      have missing : behindAsciiName? text = none := by simp [behindAsciiName?, colon]
      rw [missing, behindAsciiName?, unknown]
      split <;> rfl
  | cons d later =>
      have name : (text ++ ')' :: tail).takeWhile (· != ':') = text.takeWhile (· != ':') := by
        rw [List.takeWhile_append, if_neg]
        rw [colon, List.length_cons] at parts
        omega
      have rest : (text ++ ')' :: tail).dropWhile (· != ':') = d :: (later ++ ')' :: tail) := by
        rw [List.dropWhile_append, colon]
        rfl
      rw [behindAsciiName?, behindAsciiName?, name, rest, colon]
      cases later with
      | nil => simp
      | cons e later =>
          by_cases ends : d = ':' ∧ e = ']'
          · obtain ⟨rfl, rfl⟩ := ends
            simp only [List.cons_append]
            split <;> rfl
          · rw [List.cons_append]
            split
            · simp_all
            · split <;> simp_all

/-- Where a named ASCII class ends, if one is there. -/
def behindAsciiClass? : List Char → Option (List Char)
  | ':' :: '^' :: text => behindAsciiName? text
  | ':' :: text => behindAsciiName? text
  | _ => none

theorem behindAsciiClass?_append (paren : behind.head? = some ')') (text : List Char) :
    behindAsciiClass? (text ++ behind) = (behindAsciiClass? text).map (· ++ behind) := by
  obtain ⟨tail, rfl⟩ := List.head?_eq_some_iff.mp paren
  cases text with
  | nil => rfl
  | cons c text =>
      by_cases colon : c = ':'
      · subst colon
        cases text with
        | nil => simpa [behindAsciiClass?] using behindAsciiName?_append paren []
        | cons d text =>
            by_cases caret : d = '^'
            · subst caret
              exact behindAsciiName?_append paren text
            · have name := behindAsciiName?_append paren (d :: text)
              rw [List.cons_append] at name
              simpa [behindAsciiClass?, caret] using name
      · simp [behindAsciiClass?, colon]

theorem drop_takeWhile_colon (text : List Char) :
    text.drop (text.takeWhile (· != ':')).length = text.dropWhile (· != ':') := by
  conv => enter [1, 2]; rw [← List.takeWhile_append_dropWhile (p := (· != ':')) (l := text)]
  rw [List.drop_left]

theorem map_rest_takeAsciiClass? (flags : Flags) (input : List Char) :
    (takeAsciiClass? flags input).map Scan.rest = behindAsciiClass? input := by
  have name : ∀ (negated : Bool) (text whole : List Char), text.length ≤ whole.length →
      (match text.drop (text.takeWhile (· != ':')).length with
        | ':' :: ']' :: behind =>
            if bounded : behind.length ≤ whole.length then
              (CharSet.ofAsciiName? (String.ofList (text.takeWhile (· != ':')))).map fun set =>
                (⟨foldAndNegate flags negated set, behind, bounded⟩ : Scan CharSet whole)
            else none
        | _ => none).map Scan.rest = behindAsciiName? text := by
    intro negated text whole shorter
    rw [drop_takeWhile_colon]
    fun_cases behindAsciiName? text with
    | case1 behind shape known =>
        have suffix := (List.dropWhile_suffix (l := text) (· != ':')).length_le
        rw [shape, List.length_cons, List.length_cons] at suffix
        obtain ⟨set, named⟩ := Option.isSome_iff_exists.mp known
        simp only [shape, named]
        rw [dif_pos (by omega)]
        rfl
    | case2 behind shape unknown =>
        have missing := Option.not_isSome_iff_eq_none.mp unknown
        simp [shape, missing]
    | case3 other =>
        split
        · exact absurd ‹_› (other _)
        · rfl
  cases input with
  | nil => rfl
  | cons c text =>
      by_cases colon : c = ':'
      · subst colon
        cases text with
        | nil => rfl
        | cons d text =>
            by_cases caret : d = '^'
            · subst caret
              exact name true text _ (by simp only [List.length_cons]; omega)
            · have tail : behindAsciiClass? (':' :: d :: text) = behindAsciiName? (d :: text) := by
                simp [behindAsciiClass?, caret]
              rw [tail]
              simp only [takeAsciiClass?, List.cons.injEq, caret, false_and, imp_self,
                implies_true]
              exact name false (d :: text) (':' :: d :: text) (by simp)
      · simp [takeAsciiClass?, behindAsciiClass?, colon]

theorem setOperator?_append (paren : behind.head? = some ')') (c : Char) (text : List Char) :
    (text ++ behind).head?.bind (setOperator? c) = text.head?.bind (setOperator? c) := by
  cases text with
  | cons d text => rfl
  | nil =>
      rw [List.nil_append, paren]
      by_cases parenthesis : c = ')'
      · subst parenthesis
        rfl
      · simp [setOperator?, parenthesis]

def BracketFrame.isPending : BracketFrame → Bool
  | .opened _ _ => false
  | .pending _ _ => true

/-- The frames without an operator in front that waits for its right operand. -/
def settle : List Bool → List Bool
  | true :: frames => frames
  | frames => frames

theorem map_isPending_combine (flags : Flags) (set : CharSet) (frames : List BracketFrame) :
    (combine flags set frames).2.map BracketFrame.isPending =
      settle (frames.map BracketFrame.isPending) := by
  cases frames with
  | nil => rfl
  | cons frame frames => cases frame <;> rfl

/-- Reading members succeeds inside such frames, whatever was read before. -/
def Members (frames : List Bool) : Reading := fun flags text rest =>
  ∃ actual : List BracketFrame, actual.map BracketFrame.isPending = frames ∧
    ∃ members depth, Leaves (takeMembers flags actual members depth text) rest

/-- What is read behind a first visible character among the members. -/
def membersTail (frames : List Bool) (c : Char) : Reading := fun flags text rest =>
  if c = '[' then
    match behindAsciiClass? text with
    | some middle => middle.length ≤ text.length ∧ Members frames flags middle rest
    | none => ∃ middle, Leaves (takeOpening flags text) middle ∧
        Members (false :: frames) flags middle rest
  else if c = ']' then
    ∃ outer, settle frames = false :: outer ∧
      if outer.isEmpty then text = rest else Members outer flags text rest
  else if (text.head?.bind (setOperator? c)).isSome then
    Members (true :: settle frames) flags text.tail rest
  else
    ∃ middle, Leaves (takeRange flags (c :: text)) middle ∧ middle.length ≤ text.length ∧
      Members frames flags middle rest

theorem membersTail_close {frames outer : List Bool} (settled : settle frames = false :: outer)
    (ends : if outer.isEmpty then input = rest else Members outer flags input rest) :
    membersTail frames ']' flags input rest := by
  rw [membersTail, if_neg (by decide), if_pos rfl]
  exact ⟨outer, settled, ends⟩

theorem membersTail_of_members {frames : List Bool} (reads : Members frames flags input rest) :
    ∃ c text, (skipIgnored flags input).rest = c :: text ∧
      membersTail frames c flags text rest := by
  obtain ⟨frames, rfl, members, depth, leaves⟩ := reads
  have settled := map_isPending_combine flags (CharSet.unionAll members.reverse) frames
  revert leaves
  fun_cases takeMembers flags frames members depth input with
  | case1 | case3 | case5 | case8 | case10 | case12 => simp
  | case2 start _ _ text shape _ scan named _ =>
      intro leaves
      refine ⟨'[', text, shape, ?_⟩
      rw [membersTail, if_pos rfl, ← map_rest_takeAsciiClass? flags, named]
      rw [leaves_map] at leaves
      exact ⟨scan.bounded, frames, rfl, _, _, leaves⟩
  | case4 start _ _ text shape _ unnamed scan opening _ =>
      intro leaves
      refine ⟨'[', text, shape, ?_⟩
      rw [membersTail, if_pos rfl, ← map_rest_takeAsciiClass? flags, unnamed]
      rw [leaves_map] at leaves
      exact ⟨scan.rest, ⟨scan, opening, rfl⟩, .opened members scan.value.1 :: frames, rfl, _, _,
        leaves⟩
  | case6 start _ _ text shape _ chars outer negated frames' combined _ _ outermost =>
      intro leaves
      rw [combined] at settled
      refine ⟨']', text, shape, membersTail_close settled.symm ?_⟩
      rw [if_pos (by simpa using outermost)]
      simpa using leaves
  | case7 start _ _ text shape _ chars outer negated frames' combined _ _ inner =>
      intro leaves
      rw [combined] at settled
      refine ⟨']', text, shape, membersTail_close settled.symm ?_⟩
      rw [if_neg (by simpa using inner)]
      rw [leaves_map] at leaves
      exact ⟨frames', rfl, _, _, leaves⟩
  | case9 start _ _ c text opens closes shape _ operator spelt _ left frames' combined =>
      intro leaves
      rw [combined] at settled
      refine ⟨c, text, shape, ?_⟩
      rw [membersTail, if_neg opens, if_neg closes, spelt, if_pos (by rfl), ← List.drop_one]
      rw [leaves_map] at leaves
      refine ⟨_, ?_, _, _, leaves⟩
      rw [List.map_cons, settled]
      rfl
  | case11 start _ _ c text opens closes shape _ plain scan range shorter =>
      intro leaves
      refine ⟨c, text, shape, ?_⟩
      rw [membersTail, if_neg opens, if_neg closes, plain, if_neg (by simp)]
      rw [leaves_map] at leaves
      exact ⟨scan.rest, ⟨scan, range, rfl⟩, Nat.le_of_lt_succ shorter, frames, rfl, _, _, leaves⟩

theorem Members.ne_nil {frames : List Bool} (reads : Members frames flags input rest) :
    input ≠ [] := by
  rintro rfl
  obtain ⟨c, text, shape, -⟩ := membersTail_of_members reads
  have bounded := (skipIgnored flags []).bounded
  simp [shape] at bounded

/-- The members of a class are the same ones in front of a parenthesis. -/
theorem members_append (same : flags'.extended = flags.extended)
    (paren : behind.head? = some ')') {frames : List Bool} (reads : Members frames flags input rest)
    (reads' : Members frames flags' (input ++ behind) rest') : rest' = rest ++ behind := by
  -- On the length of what is left to read: a class inside puts a frame in front of the
  -- others, so they are no measure.
  induction sized : input.length using Nat.strongRecOn generalizing input frames with
  | _ size induction =>
      obtain ⟨c, text, shape, reads⟩ := membersTail_of_members reads
      obtain ⟨c', text', shape', reads'⟩ := membersTail_of_members reads'
      have skips := (skipping_continues flags input).eq_append (by simp [shape]) same paren rfl
      obtain ⟨rfl, rfl⟩ : c = c' ∧ text ++ behind = text' := by
        rw [shape'] at skips
        simpa [shape, eq_comm] using skips
      have shorter : text.length < size := by
        have bounded := (skipIgnored flags input).bounded
        rw [shape, sized] at bounded
        exact bounded
      unfold membersTail at reads reads'
      by_cases bracket : c = '['
      · -- Whether a bracket opens a named class is decided in front of the parenthesis.
        rw [if_pos bracket] at reads reads'
        rw [behindAsciiClass?_append paren] at reads'
        cases class_ : behindAsciiClass? text with
        | some middle =>
            simp only [class_, Option.map_some] at reads reads'
            exact induction _ (by omega) reads.2 reads'.2 rfl
        | none =>
            simp only [class_, Option.map_none] at reads reads'
            obtain ⟨middle, opening, reads⟩ := reads
            obtain ⟨middle', opening', reads'⟩ := reads'
            rw [takeOpening_append same paren opening opening'] at reads'
            have bounded := opening.length_le
            exact induction _ (by omega) reads reads' rfl
      · rw [if_neg bracket] at reads reads'
        by_cases close : c = ']'
        · rw [if_pos close] at reads reads'
          obtain ⟨outer, settled, reads⟩ := reads
          obtain ⟨outer', settled', reads'⟩ := reads'
          obtain rfl : outer = outer' := List.tail_eq_of_cons_eq (settled.symm.trans settled')
          by_cases outermost : outer.isEmpty
          · rw [if_pos outermost] at reads reads'
            rw [← reads, ← reads']
          · rw [if_neg outermost] at reads reads'
            exact induction _ shorter reads reads' rfl
        · rw [if_neg close] at reads reads'
          rw [setOperator?_append paren] at reads'
          by_cases operator : (text.head?.bind (setOperator? c)).isSome
          · rw [if_pos operator] at reads reads'
            cases text with
            | nil => simp at operator
            | cons d text =>
                rw [List.cons_append, List.tail_cons] at reads'
                rw [List.length_cons] at shorter
                exact induction text.length (by omega) reads reads' rfl
          · rw [if_neg operator] at reads reads'
            obtain ⟨middle, range, bounded, reads⟩ := reads
            obtain ⟨middle', range', -, reads'⟩ := reads'
            rw [(takeRange_continues range).eq_append reads.ne_nil same paren range'] at reads'
            exact induction _ (by omega) reads reads' rfl

theorem leaves_takeBracket (leaves : Leaves (takeBracket flags input) rest) :
    ∃ middle, Leaves (takeOpening flags input) middle ∧ Members [false] flags middle rest := by
  unfold takeBracket at leaves
  cases opening : takeOpening flags input with
  | error problem => simp [opening] at leaves
  | ok scan =>
      simp only [opening, leaves_map] at leaves
      exact ⟨scan.rest, ⟨scan, rfl, rfl⟩, [.opened [] scan.value.1], rfl, _, _, leaves⟩

/-- A class ends where it ends by itself. -/
theorem takeBracket_append (same : flags'.extended = flags.extended)
    (paren : behind.head? = some ')') (leaves : Leaves (takeBracket flags input) rest)
    (leaves' : Leaves (takeBracket flags' (input ++ behind)) rest') : rest' = rest ++ behind := by
  obtain ⟨middle, opening, reads⟩ := leaves_takeBracket leaves
  obtain ⟨middle', opening', reads'⟩ := leaves_takeBracket leaves'
  rw [takeOpening_append same paren opening opening'] at reads'
  exact members_append same paren reads reads'

end ColumnFilter.Regex
