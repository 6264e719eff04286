import ColumnFilter.Proofs.Strategy.Numbers

/-!
# The parts of a form

The pattern of every form of a range is made of parts: marks, gaps and numbers.  Where the
pattern of a number is the usual one, what is read of the parts is known exactly, whatever
the marks are.
-/

namespace ColumnFilter

namespace Range

open Regex (Progress takeItems takeItem Adds Anchored Flat Appends captured letter)
open Text (Scan)

/-- A part of the pattern of a form. -/
inductive Part where
  | mark (text : String)
  | blank
  /-- A number that can be asked for by name. -/
  | number (name : String)
  deriving DecidableEq, Repr

def Part.isNumber : Part → Bool
  | .number _ => true
  | _ => false

/-- A part as it is written in a pattern. -/
def Part.text (options : Options) : Part → List Char
  | .mark text => Pattern.escape text.toList
  | .blank => gap
  | .number name => numberGroup options name

namespace Options

/-- The parts of the form with two numbers. -/
def betweenParts (options : Options) : List Part :=
  [.mark options.between.opening, .blank, .number startGroup, .blank, .mark options.between.between,
    .blank, .number endGroup, .blank, .mark options.between.closing]

/-- The parts of a form with one number. -/
def formParts (options : Options) (form : Form) : List Part :=
  [.mark (options.markers form).opening, .blank, .number startGroup, .blank,
    .mark (options.markers form).closing]

/-- Numbers are written in the usual way. -/
def UsualNumber (options : Options) : Prop := options.number = standard.number

end Options

theorem betweenText_eq_whole (options : Options) :
    betweenText options = whole (options.betweenParts.flatMap (Part.text options)) := by
  simp only [betweenText, Options.betweenParts, Part.text, List.flatMap_cons, List.flatMap_nil,
    List.append_nil, List.append_assoc]

theorem formText_eq_whole (options : Options) (form : Form) :
    formText options form = whole ((options.formParts form).flatMap (Part.text options)) := by
  simp only [formText, Options.formParts, Part.text, List.flatMap_cons, List.flatMap_nil,
    List.append_nil, List.append_assoc]

/-- A number in the usual notation. -/
def numeral : Regex :=
  .sequence [.times 0 (some 1) true (letter '-'), .star (.set .digit),
    .times 0 (some 1) true (letter '.'), .times 1 none true (.set .digit)]

/-- What is read of parts behind so many numbers. -/
def regexes (count : Nat) : List Part → List Regex
  | [] => []
  | .mark text :: parts => text.toList.map letter ++ regexes count parts
  | .blank :: parts => .star (.set .space) :: regexes count parts
  | .number _ :: parts => .group (count + 1) numeral :: regexes (count + 1) parts

/-- The names that the numbers of parts have, the latest first. -/
def groupNames (count : Nat) (names : List (String × Nat)) : List Part → List (String × Nat)
  | [] => names
  | .mark _ :: parts => groupNames count names parts
  | .blank :: parts => groupNames count names parts
  | .number name :: parts => groupNames (count + 1) ((name, count + 1) :: names) parts

variable {before after : Progress} {behind : List Char} {options : Options}

theorem takeItems_numeral (insensitive : before.flags = .insensitive)
    (read : takeItems before (Options.standard.number.toList ++ ')' :: behind) = .ok after) :
    ∃ middle, Appends [.times 0 (some 1) true (letter '-'), .star (.set .digit),
        .times 0 (some 1) true (letter '.'), .times 1 none true (.set .digit)] before middle ∧
      takeItems middle (')' :: behind) = .ok after := by
  obtain ⟨flags, level, groups, count, names⟩ := before
  obtain rfl : flags = .insensitive := insensitive
  -- Four sets of characters, each of them followed by its repetition.
  have read := Regex.takeItems_taken rfl rfl (Regex.takeItems_taken rfl rfl read)
  have read := Regex.takeItems_taken rfl rfl (Regex.takeItems_taken rfl rfl read)
  have read := Regex.takeItems_taken rfl rfl (Regex.takeItems_taken rfl rfl read)
  have read := Regex.takeItems_taken rfl rfl (Regex.takeItems_taken rfl rfl read)
  exact ⟨_, ⟨[_, _, _, _], rfl, rfl⟩, read⟩

/-- One more group is counted and named. -/
def named (name : String) (progress : Progress) : Progress :=
  { progress with
    count := progress.count + 1
    names := (name, progress.count + 1) :: progress.names }

theorem takeItems_numberGroup {name : List Char} (anchored : Anchored before)
    (spelled : ∀ c ∈ name,
      Regex.isNameChar true c = true ∧ Regex.isNameChar false c = true ∧ c ≠ '>')
    (read : takeItems before (captured name Options.standard.number.toList ++ behind) = .ok after) :
    ∃ middle,
      Appends [.group (before.count + 1) numeral] (named (String.ofList name) before) middle ∧
      takeItems middle behind = .ok after := by
  have shape : captured name Options.standard.number.toList ++ behind =
      '(' :: '?' :: 'P' :: '<' ::
        (name ++ '>' :: (Options.standard.number.toList ++ ')' :: behind)) := by
    simp [captured]
  rw [shape] at read
  obtain ⟨opening, taken, read⟩ := Regex.takeItems_item (anchored.flat.visible _) read
  have opens := Regex.opens_of_takeGroup taken
  rw [Regex.skipIgnored, anchored.flat.extended, if_neg Bool.false_ne_true, Regex.Opens] at opens
  obtain ⟨scan, opened, left, names⟩ := opens
  obtain ⟨value, rest⟩ := Regex.takeGroupName_spelled spelled opened
  rw [value] at names
  rw [← left, rest] at read
  have insensitive := names.flags.trans anchored.flags
  obtain ⟨inside, ⟨items, same, rfl⟩, read⟩ := takeItems_numeral insensitive read
  rw [names.eq] at read
  have read := Regex.takeItems_taken (by exact anchored.flat.extended) rfl read
  refine ⟨_, ⟨[_], ?_, rfl⟩, read⟩
  have inner : (Regex.Level.close ⟨[], items ++ []⟩).regex = numeral := by
    rw [Regex.regex_close rfl, List.append_nil, List.map_reverse, same, List.reverse_reverse]
    rfl
  rw [← inner]
  rfl

theorem anchored_named {name : String} (anchored : Anchored before) :
    Anchored (named name before) :=
  ⟨anchored.flags, anchored.groups, anchored.branches, anchored.starts⟩

theorem head?_parts_append (options : Options) (parts : List Part)
    (plain : behind.head? ≠ some '?') :
    (parts.flatMap (Part.text options) ++ behind).head? ≠ some '?' := by
  induction parts with
  | nil => exact plain
  | cons part parts induction =>
      rw [List.flatMap_cons, List.append_assoc]
      cases part with
      | mark text => exact Regex.head?_escape_append (by decide) (by decide) induction
      | blank => simp [Part.text, gap]
      | number name => simp [Part.text, numberGroup]

/-- Behind the parts, their patterns are added and their numbers are named. -/
theorem takeItems_parts (usual : options.UsualNumber) {parts : List Part}
    (known : ∀ name, Part.number name ∈ parts → name = startGroup ∨ name = endGroup)
    (plain : behind.head? ≠ some '?') (anchored : Anchored before)
    (read : takeItems before (parts.flatMap (Part.text options) ++ behind) = .ok after) :
    ∃ middle, Anchored middle ∧
      middle.level.items.map Regex.Item.regex =
        (regexes before.count parts).reverse ++ before.level.items.map Regex.Item.regex ∧
      middle.names = groupNames before.count before.names parts ∧
      takeItems middle behind = .ok after := by
  induction parts generalizing before with
  | nil => exact ⟨before, anchored, rfl, rfl, read⟩
  | cons part parts induction =>
      have later := fun name member => known name (List.mem_cons_of_mem part member)
      rw [List.flatMap_cons, List.append_assoc] at read
      cases part with
      | mark text =>
          obtain ⟨next, appends, read⟩ := Regex.takeItems_letters anchored.flags read
          have anchored := appends.adds.extends.anchored anchored
          obtain ⟨items, same, rfl⟩ := appends
          obtain ⟨middle, anchored, level, names, read⟩ := induction later anchored read
          refine ⟨middle, anchored, ?_, names, read⟩
          simpa [regexes, same] using level
      | blank =>
          obtain ⟨next, appends, read⟩ :=
            takeItems_gap anchored.flags (head?_parts_append options parts plain) read
          have anchored := appends.adds.extends.anchored anchored
          obtain ⟨items, same, rfl⟩ := appends
          obtain ⟨middle, anchored, level, names, read⟩ := induction later anchored read
          refine ⟨middle, anchored, ?_, names, read⟩
          simpa [regexes, same] using level
      | number name =>
          have spelled : ∀ c ∈ name.toList, Regex.isNameChar true c = true ∧
              Regex.isNameChar false c = true ∧ c ≠ '>' := by
            rcases known name List.mem_cons_self with rfl | rfl
            · exact startGroup_spelled
            · exact endGroup_spelled
          rw [Part.text, numberGroup_eq_captured, usual] at read
          obtain ⟨next, appends, read⟩ := takeItems_numberGroup anchored spelled read
          rw [String.ofList_toList] at appends
          have anchored := appends.adds.extends.anchored (anchored_named anchored)
          obtain ⟨items, same, rfl⟩ := appends
          obtain ⟨middle, anchored, level, names, read⟩ := induction later anchored read
          refine ⟨middle, anchored, ?_, names, read⟩
          simpa [regexes, same, named] using level

/-- The pattern of a whole text that is made of parts. -/
def wholePattern (parts : List Part) : Pattern :=
  ⟨.sequence (.empty :: .anchor .textStart :: (regexes 0 parts ++ [.anchor .textEnd])),
    groupNames 0 [] parts⟩

theorem eq_wholePattern (usual : options.UsualNumber) {parts : List Part}
    (known : ∀ name, Part.number name ∈ parts → name = startGroup ∨ name = endGroup)
    {pattern : Pattern}
    (read : Pattern.ofText? (whole (parts.flatMap (Part.text options))) = .ok pattern) :
    pattern = wholePattern parts := by
  obtain ⟨after, items, -, names, regex⟩ := Pattern.takeItems_of_ofText? read
  obtain ⟨middle, anchored, level, names', items⟩ :=
    takeItems_parts usual known (by decide) anchored_opened (takeItems_whole items)
  rw [Regex.takeItems_dollar items] at names regex
  have ends : Regex.lineAnchor middle.flags false = .textEnd := by
    rw [anchored.flags]
    rfl
  have single : (middle.push (.plain (.anchor .textEnd))).level.branches = [] := anchored.branches
  rw [ends, Regex.regex_close single] at regex
  have regex' : pattern.regex = (wholePattern parts).regex := by
    rw [regex]
    simp [wholePattern, Progress.push, level, opened, Regex.Item.plain]
  have names'' : pattern.names = (wholePattern parts).names := names.trans names'
  exact congrArg₂ Pattern.mk regex' names''

/-- The patterns of all forms, if numbers are written in the usual way. -/
theorem patterns_of_ofOptions? (usual : options.UsualNumber) {range : Range}
    (made : ofOptions? options = .ok range) :
    range.between = wholePattern options.betweenParts ∧
      range.forms = Form.all.map fun form => (form, wholePattern (options.formParts form)) := by
  obtain ⟨-, read, wanted, reads⟩ := read_of_ofOptions? made
  constructor
  · rw [betweenText_eq_whole] at read
    exact eq_wholePattern usual (by simp [Options.betweenParts]) read
  · have known : ∀ entry ∈ range.forms,
        entry = (entry.1, wholePattern (options.formParts entry.1)) := by
      intro entry member
      have read := reads entry member
      rw [formText_eq_whole] at read
      rw [← eq_wholePattern usual (by simp [Options.formParts]) read]
    calc
      range.forms = range.forms.map id := (List.map_id range.forms).symm
      _ = range.forms.map fun entry => (entry.1, wholePattern (options.formParts entry.1)) :=
        List.map_congr_left known
      _ = Form.all.map fun form => (form, wholePattern (options.formParts form)) := by
        rw [← wanted, List.map_map]
        rfl

end Range

end ColumnFilter
