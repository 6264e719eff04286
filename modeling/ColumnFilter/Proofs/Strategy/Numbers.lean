import ColumnFilter.Proofs.Regex.Letters
import ColumnFilter.Strategy.Range

/-!
# Numbers of a range

The patterns of a range put the pattern of a number into named groups, between the start
and the end of a text.  Where that pattern is one by itself, the groups stand at the top of
the patterns, so a segment that has one of the forms has it as a whole and always has its
numbers.
-/

namespace ColumnFilter

namespace Range

open Regex (Progress takeItems Adds Appends Anchored Extends Enclosed Encloses captured)

variable {before after : Progress} {behind : List Char}

/-- What stands in front of the parts of a pattern. -/
def opened : Progress :=
  ⟨.insensitive, ⟨[], [.plain (.anchor .textStart), ⟨.empty, 0, false⟩]⟩, [], 0, []⟩

theorem anchored_opened : Anchored opened := ⟨rfl, rfl, rfl, [], rfl⟩

theorem takeItems_whole {parts : List Char} (read : takeItems .start (whole parts) = .ok after) :
    takeItems opened (parts ++ ['$']) = .ok after := by
  have flags : Regex.takeItem .start '(' ('?' :: 'i' :: ')' :: '^' :: (parts ++ ['$'])) =
      .ok ⟨⟨.insensitive, ⟨[], [⟨.empty, 0, false⟩]⟩, [], 0, []⟩, '^' :: (parts ++ ['$']),
        by simp⟩ := rfl
  have read := Regex.takeItems_taken rfl flags read
  exact Regex.takeItems_taken rfl rfl read

theorem takeItems_gap (insensitive : before.flags = .insensitive)
    (plain : behind.head? ≠ some '?') (read : takeItems before (gap ++ behind) = .ok after) :
    ∃ middle, Appends [.star (.set .space)] before middle ∧
      takeItems middle behind = .ok after := by
  obtain ⟨flags, level, groups, count, names⟩ := before
  obtain rfl : flags = .insensitive := insensitive
  have read := Regex.takeItems_taken rfl rfl read
  have repeated : ∀ progress : Progress, Regex.takeItem progress '*' behind =
      (progress.repeatLast 0 none true).map fun repeated => .stay repeated behind := by
    intro progress
    simp only [Regex.takeItem, Regex.takeRepetition, Regex.takeLazy_of_head plain]
    rfl
  have read := Regex.takeItems_taken rfl (repeated _) read
  exact ⟨_, ⟨[_], rfl, rfl⟩, read⟩

theorem takeItems_gap_escape {text : List Char} (anchored : Anchored before)
    (plain : behind.head? ≠ some '?')
    (read : takeItems before (gap ++ (Pattern.escape text ++ behind)) = .ok after) :
    ∃ middle, Adds before middle ∧ takeItems middle behind = .ok after := by
  have plain' : (Pattern.escape text ++ behind).head? ≠ some '?' :=
    Regex.head?_escape_append (by decide) (by decide) plain
  obtain ⟨middle, appends, read⟩ := takeItems_gap anchored.flags plain' read
  obtain ⟨middle', adds, read⟩ := Regex.takeItems_escape read
  exact ⟨middle', appends.adds.trans adds, read⟩

theorem takeItems_escape_gap {text : List Char} (anchored : Anchored before)
    (plain : behind.head? ≠ some '?')
    (read : takeItems before (Pattern.escape text ++ (gap ++ behind)) = .ok after) :
    ∃ middle, Adds before middle ∧ takeItems middle behind = .ok after := by
  obtain ⟨middle, adds, read⟩ := Regex.takeItems_escape read
  have still := adds.extends.anchored anchored
  obtain ⟨middle', appends, read⟩ := takeItems_gap still.flags plain read
  exact ⟨middle', adds.trans appends.adds, read⟩

/-- The end of a pattern behind the last number. -/
def ending (mark : String) : List Char := gap ++ (Pattern.escape mark.toList ++ ['$'])

theorem takeItems_ending {mark : String} (anchored : Anchored before)
    (read : takeItems before (ending mark) = .ok after) :
    ∃ middle, Adds before middle ∧
      after = middle.push (.plain (.anchor (Regex.lineAnchor middle.flags false))) := by
  obtain ⟨middle, adds, read⟩ := takeItems_gap_escape anchored (by decide) read
  exact ⟨middle, adds, Regex.takeItems_dollar read⟩

theorem spans_of_ending {mark : String} (anchored : Anchored before)
    (read : takeItems before (ending mark) = .ok after) :
    Extends before after ∧ after.level.close.regex.Spans := by
  obtain ⟨middle, adds, rfl⟩ := takeItems_ending anchored read
  have still := adds.extends.anchored anchored
  have ends : Regex.lineAnchor middle.flags false = .textEnd := by
    rw [still.flags]
    rfl
  rw [ends]
  exact ⟨(adds.trans (Regex.adds_push _ _)).extends, still.spans⟩

/-- A comment in front of the end of a pattern leaves too little of it to close a group. -/
theorem groups_of_commented_ending {mark : String}
    (read : takeItems before (Regex.resume true (')' :: ending mark)) = .ok after) :
    after.groups = before.groups := by
  have skips : Regex.resume true (')' :: ending mark) =
      (Regex.skipIgnoredFrom true (Pattern.escape mark.toList ++ ['$'])).rest := rfl
  rw [skips] at read
  rcases Regex.skipIgnoredFrom_true_escape mark.toList with nothing | ⟨text, left⟩
  · rw [nothing, Regex.takeItems_nil, Except.ok.injEq] at read
    rw [read]
  · rw [left] at read
    obtain ⟨middle, ⟨items, rfl⟩, read⟩ := Regex.takeItems_escape read
    rw [Regex.takeItems_dollar read]
    rfl

theorem encloses_ending (commented : Bool) (mark : String) :
    Encloses commented (')' :: ending mark) := by
  cases commented with
  | false => exact .of_paren rfl
  | true =>
      refine ⟨rfl, ?_⟩
      have skips : Regex.resume true (')' :: ending mark) =
          (Regex.skipIgnoredFrom true (Pattern.escape mark.toList ++ ['$'])).rest := rfl
      rw [skips]
      rcases Regex.skipIgnoredFrom_true_escape mark.toList with nothing | ⟨text, left⟩
      · rw [nothing]
        simp
      · rw [left]
        exact Regex.head?_escape_append (by decide) (by decide) (by decide)

theorem spelled_of_all {name : List Char}
    (spelled : name.all (fun c =>
      Regex.isNameChar true c && Regex.isNameChar false c && c != '>') = true) :
    ∀ c ∈ name, Regex.isNameChar true c = true ∧ Regex.isNameChar false c = true ∧ c ≠ '>' := by
  intro c member
  simpa [and_assoc] using List.all_eq_true.mp spelled c member

theorem startGroup_spelled : ∀ c ∈ startGroup.toList,
    Regex.isNameChar true c = true ∧ Regex.isNameChar false c = true ∧ c ≠ '>' :=
  spelled_of_all (by decide +kernel)

theorem endGroup_spelled : ∀ c ∈ endGroup.toList,
    Regex.isNameChar true c = true ∧ Regex.isNameChar false c = true ∧ c ≠ '>' :=
  spelled_of_all (by decide +kernel)

theorem numberGroup_eq_captured (options : Options) (name : String) :
    numberGroup options name = captured name.toList options.number.toList := rfl

/-- A form with one number can be read only if the pattern of the number ends in no
comment.  It then requires the number and a whole text. -/
theorem provides_of_formText {options : Options} {form : Form} {pattern : Pattern}
    {own : Progress} {commented : Bool}
    (enclosed : Enclosed commented .start own options.number.toList) (closed : own.groups = [])
    (read : Pattern.ofText? (formText options form) = .ok pattern) :
    commented = false ∧ pattern.Provides startGroup ∧ pattern.regex.Spans := by
  obtain ⟨after, items, complete, names, regex⟩ := Pattern.takeItems_of_ofText? read
  have items := takeItems_whole items
  have shape : Pattern.escape (options.markers form).opening.toList ++ gap ++
      numberGroup options startGroup ++ gap ++
        Pattern.escape (options.markers form).closing.toList ++ ['$'] =
      Pattern.escape (options.markers form).opening.toList ++ (gap ++
        (captured startGroup.toList options.number.toList ++
          ending (options.markers form).closing)) := by
    simp only [ending, numberGroup_eq_captured, List.append_assoc]
  rw [shape] at items
  obtain ⟨middle, adds, items⟩ :=
    takeItems_escape_gap anchored_opened (by simp [captured]) items
  have anchored := adds.extends.anchored anchored_opened
  cases commented with
  | true =>
      obtain ⟨index, inside, -, below, items⟩ := Regex.takeItems_captured anchored.flat
        startGroup_spelled enclosed closed (encloses_ending true _) items
      have stuck := groups_of_commented_ending items
      rw [complete, below] at stuck
      contradiction
  | false =>
      obtain ⟨index, next, known, grows, holds, items⟩ := Regex.takeItems_captured_sealed
        anchored.flat startGroup_spelled enclosed closed items
      have anchored := grows.anchored anchored
      obtain ⟨grows', spans⟩ := spans_of_ending anchored items
      refine ⟨rfl, ⟨index, ?_, ?_⟩, ?_⟩
      · rw [names]
        simpa using known
      · rw [regex]
        exact Regex.requires_close (grows'.flat anchored.flat) (grows'.holds holds)
      · rw [regex]
        exact spans

theorem provides_of_betweenText {options : Options} {pattern : Pattern} {own : Progress}
    (enclosed : Enclosed false .start own options.number.toList) (closed : own.groups = [])
    (read : Pattern.ofText? (betweenText options) = .ok pattern) :
    pattern.Provides startGroup ∧ pattern.Provides endGroup ∧ pattern.regex.Spans := by
  obtain ⟨after, items, -, names, regex⟩ := Pattern.takeItems_of_ofText? read
  have items := takeItems_whole items
  have shape : Pattern.escape options.between.opening.toList ++ gap ++
      numberGroup options startGroup ++ gap ++ Pattern.escape options.between.between.toList ++
        gap ++ numberGroup options endGroup ++ gap ++
          Pattern.escape options.between.closing.toList ++ ['$'] =
      Pattern.escape options.between.opening.toList ++ (gap ++
        (captured startGroup.toList options.number.toList ++ (gap ++
          (Pattern.escape options.between.between.toList ++ (gap ++
            (captured endGroup.toList options.number.toList ++
              ending options.between.closing)))))) := by
    simp only [ending, numberGroup_eq_captured, List.append_assoc]
  rw [shape] at items
  obtain ⟨first, adds, items⟩ :=
    takeItems_escape_gap anchored_opened (by simp [captured]) items
  have anchored := adds.extends.anchored anchored_opened
  obtain ⟨index, second, known, grows, holds, items⟩ := Regex.takeItems_captured_sealed
    anchored.flat startGroup_spelled enclosed closed items
  have anchored := grows.anchored anchored
  obtain ⟨third, adds, items⟩ := takeItems_gap_escape anchored (by simp [gap]) items
  have anchored := adds.extends.anchored anchored
  obtain ⟨fourth, appends, items⟩ := takeItems_gap anchored.flags (by simp [captured]) items
  have adds' := appends.adds
  have anchored := adds'.extends.anchored anchored
  obtain ⟨index', fifth, known', grows', holds', items⟩ := Regex.takeItems_captured_sealed
    anchored.flat endGroup_spelled enclosed closed items
  have anchored := grows'.anchored anchored
  obtain ⟨last, spans⟩ := spans_of_ending anchored items
  have flat := last.flat anchored.flat
  refine ⟨⟨index, ?_, ?_⟩, ⟨index', ?_, ?_⟩, ?_⟩
  · rw [names]
    simpa using known
  · rw [regex]
    have grows := ((adds.trans adds').extends.trans grows').trans last
    exact Regex.requires_close flat (grows.holds holds)
  · rw [names]
    simpa using known'
  · rw [regex]
    exact Regex.requires_close flat (last.holds holds')
  · rw [regex]
    exact spans

theorem numberIn_of_provides {pattern : Pattern} {name : String} (provides : pattern.Provides name)
    {text : List Char} {marks : Regex.Marks} (matched : pattern.search? text = some marks) :
    ∃ number, numberIn pattern text marks name = .ok number := by
  obtain ⟨number, found⟩ := Option.isSome_iff_exists.mp (Pattern.isSome_groupText? provides matched)
  exact ⟨String.ofList number, by rw [numberIn, found]⟩

theorem betweenBounds_total {pattern : Pattern} (first : pattern.Provides startGroup)
    (second : pattern.Provides endGroup) (text : List Char) :
    ∃ found, betweenBounds pattern text = .ok found := by
  unfold betweenBounds
  cases matched : pattern.search? text with
  | none => exact ⟨none, rfl⟩
  | some marks =>
      obtain ⟨low, start⟩ := numberIn_of_provides first matched
      obtain ⟨high, stop⟩ := numberIn_of_provides second matched
      simp [start, stop]

theorem formBounds_total {forms : List (Form × Pattern)}
    (provides : ∀ entry ∈ forms, entry.2.Provides startGroup) (text : List Char) :
    ∃ found, formBounds text forms = .ok found := by
  induction forms with
  | nil => exact ⟨none, rfl⟩
  | cons entry forms induction =>
      obtain ⟨form, pattern⟩ := entry
      unfold formBounds
      cases matched : pattern.search? text with
      | none =>
          apply induction
          intro other member
          exact provides other (List.mem_cons_of_mem _ member)
      | some marks =>
          obtain ⟨number, found⟩ := numberIn_of_provides (provides _ List.mem_cons_self) matched
          simp [found, Except.map]

theorem read_of_compileForms? {options : Options} {wanted : List Form}
    {forms : List (Form × Pattern)} (compiled : compileForms? options wanted = .ok forms) :
    forms.map Prod.fst = wanted ∧
      ∀ entry ∈ forms, Pattern.ofText? (formText options entry.1) = .ok entry.2 := by
  induction wanted generalizing forms with
  | nil =>
      obtain rfl : [] = forms := Except.ok.inj compiled
      simp
  | cons form wanted induction =>
      unfold compileForms? at compiled
      cases read : Pattern.ofText? (formText options form) with
      | error problem => simp [read] at compiled
      | ok pattern =>
          simp only [read] at compiled
          obtain ⟨later, others, rfl⟩ := Except.exists_of_map_eq_ok compiled
          obtain ⟨listed, reads⟩ := induction others
          constructor
          · rw [List.map_cons, listed]
          · intro entry member
            rcases List.mem_cons.mp member with rfl | there
            · exact read
            · exact reads entry there

/-- What the patterns of a range are read from. -/
theorem read_of_ofOptions? {options : Options} {range : Range}
    (made : ofOptions? options = .ok range) :
    range.options = options ∧ Pattern.ofText? (betweenText options) = .ok range.between ∧
      range.forms.map Prod.fst = Form.all ∧
        ∀ entry ∈ range.forms, Pattern.ofText? (formText options entry.1) = .ok entry.2 := by
  unfold ofOptions? at made
  cases read : Pattern.ofText? (betweenText options) with
  | error problem => simp [read] at made
  | ok between =>
      simp only [read] at made
      obtain ⟨forms, compiled, rfl⟩ := Except.exists_of_map_eq_ok made
      exact ⟨rfl, rfl, read_of_compileForms? compiled⟩

/-- Whatever the marks are, the patterns of all forms require their numbers and a whole
text, if the pattern of a number is one by itself. -/
theorem provides_of_ofOptions? {options : Options} {number : Pattern} {range : Range}
    (valid : Pattern.ofText? options.number.toList = .ok number)
    (made : ofOptions? options = .ok range) :
    (range.between.Provides startGroup ∧ range.between.Provides endGroup ∧
      range.between.regex.Spans) ∧
    ∀ entry ∈ range.forms, entry.2.Provides startGroup ∧ entry.2.regex.Spans := by
  obtain ⟨own, items, closed, -, -⟩ := Pattern.takeItems_of_ofText? valid
  obtain ⟨commented, enclosed⟩ := Regex.exists_enclosed items
  obtain ⟨-, read, wanted, reads⟩ := read_of_ofOptions? made
  -- That the pattern ends in no comment is only known from the forms with one number.
  obtain ⟨entry, member, -⟩ : ∃ entry ∈ range.forms, entry.1 = .less := by
    apply List.mem_map.mp
    rw [wanted]
    decide
  obtain ⟨rfl, -⟩ := provides_of_formText enclosed closed (reads entry member)
  refine ⟨provides_of_betweenText enclosed closed read, ?_⟩
  intro entry member
  exact (provides_of_formText enclosed closed (reads entry member)).2

/-- Whatever the marks and the text are, the bounds of a range are found or there are
none, if the pattern of a number is one by itself. -/
theorem bounds_total {options : Options} {number : Pattern} {range : Range}
    (valid : Pattern.ofText? options.number.toList = .ok number)
    (made : ofOptions? options = .ok range) (text : String) :
    ∃ found, range.bounds text = .ok found := by
  obtain ⟨⟨first, second, -⟩, forms⟩ := provides_of_ofOptions? valid made
  obtain ⟨found, tried⟩ := betweenBounds_total first second text.toList
  have provides : ∀ entry ∈ range.forms, entry.2.Provides startGroup :=
    fun entry member => (forms entry member).1
  obtain ⟨found', tried'⟩ := formBounds_total provides text.toList
  rw [bounds, tried]
  cases found with
  | none => exact ⟨found', tried'⟩
  | some bounds => exact ⟨some bounds, rfl⟩

end Range

end ColumnFilter
