import ColumnFilter.Proofs.Regex.Literal
import ColumnFilter.Proofs.Regex.Required

/-!
# Patterns in named groups

A pattern that can be read by itself, put into a named group at the top of another one,
is in every match of that one.
-/

namespace ColumnFilter.Regex

open Text (Scan)

/-- No group is open, there is one branch only, and nothing is ignored. -/
structure Flat (progress : Progress) : Prop where
  extended : progress.flags.extended = false
  groups : progress.groups = []
  branches : progress.level.branches = []

/-- One of the items in the branch that is being read requires the group. -/
def Holds (index : Nat) (progress : Progress) : Prop :=
  ∃ item ∈ progress.level.items, item.regex.Requires index

variable {before after : Progress} {input behind : List Char}

theorem Flat.visible (flat : Flat before) (c : Char) :
    ¬(before.flags.extended && (Text.isSpace c || c == '#')) = true := by
  rw [flat.extended, Bool.false_and]
  exact Bool.false_ne_true

/-- Items are added to the branch that is being read, and groups may be counted and named. -/
structure Extends (before after : Progress) : Prop where
  flags : after.flags = before.flags
  groups : after.groups = before.groups
  level : ∃ items, after.level = { before.level with items := items ++ before.level.items }

theorem Adds.extends (adds : Adds before after) : Extends before after := by
  obtain ⟨items, rfl⟩ := adds
  exact ⟨rfl, rfl, items, rfl⟩

theorem Extends.trans {middle : Progress} (first : Extends before middle)
    (second : Extends middle after) : Extends before after := by
  obtain ⟨items, level⟩ := first.level
  obtain ⟨later, level'⟩ := second.level
  refine ⟨second.flags.trans first.flags, second.groups.trans first.groups, later ++ items, ?_⟩
  rw [level', level, List.append_assoc]

theorem Extends.flat (grows : Extends before after) (flat : Flat before) : Flat after := by
  obtain ⟨items, level⟩ := grows.level
  constructor
  · rw [grows.flags]
    exact flat.extended
  · rw [grows.groups]
    exact flat.groups
  · rw [level]
    exact flat.branches

theorem Extends.holds (grows : Extends before after) {index : Nat} (holds : Holds index before) :
    Holds index after := by
  obtain ⟨items, level⟩ := grows.level
  obtain ⟨item, member, required⟩ := holds
  refine ⟨item, ?_, required⟩
  rw [level]
  exact List.mem_append_right items member

theorem takeGroupName_spelled {name rest : List Char} {first : Bool}
    (spelled : ∀ c ∈ name, isNameChar true c = true ∧ isNameChar false c = true ∧ c ≠ '>')
    {scan : Scan (List Char) (name ++ '>' :: rest)}
    (read : takeGroupName first (name ++ '>' :: rest) = .ok scan) :
    scan.value = name ∧ scan.rest = rest := by
  induction name generalizing first with
  | nil =>
      simp only [List.nil_append, takeGroupName, if_true] at read
      split at read
      · simp at read
      · rw [Except.ok.injEq] at read
        subst read
        exact ⟨rfl, rfl⟩
  | cons c name induction =>
      obtain ⟨initial, later, other⟩ := spelled c List.mem_cons_self
      have named : isNameChar first c = true := by
        cases first
        · exact later
        · exact initial
      simp only [List.cons_append, takeGroupName, if_neg other, if_pos named] at read
      obtain ⟨inner, taken, rfl⟩ := Except.exists_of_map_eq_ok read
      obtain ⟨value, left⟩ := induction (fun d member => spelled d (List.mem_cons_of_mem c member))
        taken
      exact ⟨congrArg (c :: ·) value, left⟩

/-- A pattern in a named group. -/
def captured (name body : List Char) : List Char := "(?P<".toList ++ name ++ ['>'] ++ body ++ [')']

theorem takeItems_captured {own : Progress} {commented : Bool} {name body : List Char}
    (flat : Flat before)
    (spelled : ∀ c ∈ name, isNameChar true c = true ∧ isNameChar false c = true ∧ c ≠ '>')
    (enclosed : Enclosed commented .start own body) (closed : own.groups = [])
    (encloses : Encloses commented (')' :: behind))
    (read : takeItems before (captured name body ++ behind) = .ok after) :
    ∃ index middle, after.names.lookup (String.ofList name) = some index ∧
      middle.groups = [⟨before.level, before.flags, some index⟩] ∧
      takeItems middle (resume commented (')' :: behind)) = .ok after := by
  have shape : captured name body ++ behind =
      '(' :: '?' :: 'P' :: '<' :: (name ++ '>' :: (body ++ ')' :: behind)) := by
    simp [captured]
  rw [shape] at read
  obtain ⟨opening, taken, read⟩ := takeItems_item (flat.visible _) read
  have opens := opens_of_takeGroup taken
  rw [skipIgnored, flat.extended, if_neg Bool.false_ne_true, Opens] at opens
  obtain ⟨scan, named, left, names⟩ := opens
  obtain ⟨value, rest⟩ := takeGroupName_spelled spelled named
  rw [value] at names
  rw [← left, rest] at read
  have known : after.names.lookup (String.ofList name) = some (before.count + 1) := by
    apply remembers_of_takeItems read
    rw [names.names, List.lookup_cons_self]
  have tracks : Tracks ⟨before.level, before.flags, some (before.count + 1)⟩ .start
      opening.value := by
    constructor
    · rw [names.flags]
      exact flat.extended
    · exact ⟨[], by rw [names.groups, flat.groups]; rfl, rfl⟩
  obtain ⟨middle, tracks, read⟩ := enclosed _ _ _ _ encloses tracks read
  obtain ⟨inner, below, equal⟩ := tracks.groups
  rw [closed, List.map_nil, List.map_eq_nil_iff] at equal
  subst equal
  exact ⟨_, middle, known, below, read⟩

theorem takeItems_paren {level : Level} {flags : Flags} {index : Nat}
    (below : before.groups = [⟨level, flags, some index⟩])
    (read : takeItems before (')' :: behind) = .ok after) :
    ∃ middle item, item.regex.Requires index ∧ middle.flags = flags ∧ middle.groups = [] ∧
      middle.level = { level with items := item :: level.items } ∧
      takeItems middle behind = .ok after := by
  have visible : ¬(before.flags.extended && (Text.isSpace ')' || ')' == '#')) = true := by
    have shown : (Text.isSpace ')' || ')' == '#') = false := by decide
    rw [shown, Bool.and_false]
    exact Bool.false_ne_true
  obtain ⟨scan, taken, read⟩ := takeItems_item visible read
  obtain ⟨middle, closed, rfl⟩ := Except.exists_of_map_eq_ok taken
  simp only [Progress.closeGroup, below, Except.ok.injEq] at closed
  subst closed
  refine ⟨_, _, ?_, rfl, rfl, rfl, read⟩
  exact .inl rfl

/-- Behind a group around a pattern that ends in no comment, the group is one of the
items at the top. -/
theorem takeItems_captured_sealed {own : Progress} {name body : List Char}
    (flat : Flat before)
    (spelled : ∀ c ∈ name, isNameChar true c = true ∧ isNameChar false c = true ∧ c ≠ '>')
    (enclosed : Enclosed false .start own body) (closed : own.groups = [])
    (read : takeItems before (captured name body ++ behind) = .ok after) :
    ∃ index middle, after.names.lookup (String.ofList name) = some index ∧
      Extends before middle ∧ Holds index middle ∧ takeItems middle behind = .ok after := by
  obtain ⟨index, inside, known, below, read⟩ :=
    takeItems_captured flat spelled enclosed closed (.of_paren rfl) read
  obtain ⟨middle, item, required, flags, groups, level, read⟩ := takeItems_paren below read
  refine ⟨index, middle, known, ⟨flags, groups.trans flat.groups.symm, [item], level⟩, ?_, read⟩
  rw [Holds, level]
  exact ⟨item, List.mem_cons_self, required⟩

theorem requires_itemSequence {index : Nat} {items : List Item} {item : Item}
    (member : item ∈ items) (required : item.regex.Requires index) :
    (Item.sequence items).regex.Requires index := by
  match items with
  | [] => simp at member
  | [only] =>
      obtain rfl : item = only := by simpa using member
      exact required
  | first :: second :: rest => exact requires_sequence (List.mem_map_of_mem member) required

theorem requires_close (flat : Flat before) {index : Nat} (holds : Holds index before) :
    before.level.close.regex.Requires index := by
  obtain ⟨item, member, required⟩ := holds
  rw [Level.close, flat.branches]
  exact requires_itemSequence (List.mem_reverse.mpr member) required

end ColumnFilter.Regex

namespace ColumnFilter.Pattern

/-- Every match has a text for the named group. -/
def Provides (pattern : Pattern) (name : String) : Prop :=
  ∃ index, pattern.names.lookup name = some index ∧ pattern.regex.Requires index

theorem isSome_groupText? {pattern : Pattern} {name : String} (provides : pattern.Provides name)
    {text : List Char} {marks : Regex.Marks} (matched : pattern.search? text = some marks) :
    (pattern.groupText? text marks name).isSome = true := by
  obtain ⟨index, known, required⟩ := provides
  rw [groupText?, known]
  exact Regex.isSome_groupText? required matched

theorem takeItems_of_ofText? {text : List Char} {pattern : Pattern}
    (read : ofText? text = .ok pattern) :
    ∃ progress, Regex.takeItems .start text = .ok progress ∧ progress.groups = [] ∧
      pattern.names = progress.names ∧ pattern.regex = progress.level.close.regex := by
  revert read
  fun_cases ofText? text with
  | case1 | case2 | case3 | case4 => simp
  | case5 progress items item finished _ _ =>
      intro read
      obtain rfl := Except.ok.inj read
      refine ⟨progress, items, ?_⟩
      rw [Regex.Progress.finish] at finished
      by_cases closed : progress.groups.isEmpty
      · rw [if_pos closed, Except.ok.injEq] at finished
        subst finished
        exact ⟨by simpa using closed, rfl, rfl⟩
      · rw [if_neg closed] at finished
        simp at finished

end ColumnFilter.Pattern
