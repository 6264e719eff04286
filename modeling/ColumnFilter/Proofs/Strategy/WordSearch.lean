import ColumnFilter.Proofs.Dialect.Wildcards
import ColumnFilter.Proofs.Sql.Bindings
import ColumnFilter.Proofs.Sql.Semantics
import ColumnFilter.Proofs.Strategy.Naming
import ColumnFilter.Proofs.Strategy.WordCutting
import ColumnFilter.Proofs.Text.Tight

/-!
# Searching for words

What a fragment of words says of a text, in the dialects whose patterns have no
wildcards but the usual two: every word is a part of the text, or, where the
segment is inverted, some word is not.  A segment without words says nothing,
inverted or not.
-/

namespace ColumnFilter

namespace Semantics

/-- What is relied on of an engine that searches texts by patterns. -/
structure Searches (engine : Semantics) (dialect : Dialect) (same : Char → Char → Prop) : Prop where
  inverts : engine.Inverts
  like : ∀ text pattern, engine.compare .like (.text text) (.text pattern) =
    .ofProp (dialect.wildcards.Matches same pattern text)
  coalesce : ∀ text others, engine.call "COALESCE" (.text text :: others) = .text text
  textual : ∀ text, engine.cast "TEXT" (.text text) = some (.text text)

theorem Searches.worth_operand {engine : Semantics} {target : Target} {same : Char → Char → Prop}
    (searches : engine.Searches target.dialect same) {columns : String → Datum} {text : String}
    (stored : columns target.column = .text text) (params : Params) (nullAsEmpty : Bool) :
    engine.worth columns params (target.operand nullAsEmpty) = .text text := by
  unfold Target.operand Dialect.nullToEmpty
  cases nullAsEmpty with
  | false => simp [worth, stored]
  | true =>
      have textual : engine.worth columns params
          (target.dialect.textual (.column target.column)) = .text text := by
        cases target.dialect <;>
          simp [Dialect.textual, worth, stored, searches.textual]
      simp [worth, worths, textual, searches.coalesce]

/-- Patterns are matched letter by letter, and every other comparison is unknown. -/
noncomputable def searching (dialect : Dialect) : Semantics where
  call
    | _, [.null, other] => other
    | _, arguments => arguments.headD .null
  cast _ operand := some operand
  compare
    | .like, .text text, .text pattern =>
        .ofProp (dialect.wildcards.Matches Eq pattern text)
    | .notLike, .text text, .text pattern =>
        .ofProp (¬ dialect.wildcards.Matches Eq pattern text)
    | _, _, _ => .unknown

theorem searches_searching (dialect : Dialect) :
    (searching dialect).Searches dialect Eq where
  inverts operator left right := by
    cases operator <;> cases left <;> cases right <;>
      first | rfl | simp [searching, Operator.inverse, Truth.not_ofProp]
  like _ _ := rfl
  coalesce text others := by
    cases others <;> rfl
  textual _ := rfl

end Semantics

namespace Words

theorem get?_wordParam {target : Target} {words : List String}
    (separates : Digest.Separates (words.map (· ++ target.column))) {word : String}
    (member : word ∈ words) :
    (Params.ofList (words.map fun word =>
      (wordParam target word, Value.string (Like.containing word)))).get? (wordParam target word) =
        some (.string (Like.containing word)) := by
  have agree : ∀ first ∈ words, ∀ second ∈ words,
      wordParam target first = wordParam target second →
        Value.string (Like.containing first) = .string (Like.containing second) := by
    intro first inside second inside' named
    have equal : first = second :=
      (String.append_left_inj _).mp (separates _ (List.mem_map.mpr ⟨first, inside, rfl⟩) _
        (List.mem_map.mpr ⟨second, inside', rfl⟩) (parameterName_inj named).2)
    rw [equal]
  exact Params.get?_ofList_map agree member

variable {dialect : Dialect} {same : Char → Char → Prop} {engine : Semantics}

theorem judge_contains (classless : dialect.wildcards.classes = false)
    (searches : engine.Searches dialect same) {column : String} {connection : Option Connection}
    {columns : String → Datum} {text : String} (stored : columns column = .text text)
    {params : Params} {name word : String}
    (bound : params.get? name = some (.string (Like.containing word))) (nullAsEmpty : Bool) :
    engine.judge columns params (.compare
      (Target.operand ⟨column, dialect, connection⟩ nullAsEmpty) .like (.param name)) =
        .ofProp (Like.Contains same text word) := by
  have found : dialect.wildcards.Matches same (Like.containing word) text ↔
      Like.Contains same text word :=
    Like.matches_containing_iff (Dialect.escape_wildcards dialect) (.inl classless) text
  rw [Semantics.judge, Semantics.Searches.worth_operand searches stored, Semantics.worth, bound,
    Option.elim_some, Datum.ofValue, searches.like, propext found]

theorem judge_fragment (classless : dialect.wildcards.classes = false)
    (searches : engine.Searches dialect same) (options : Words) {column : String}
    (connection : Option Connection) {segment : Segment}
    (present : options.words segment.text ≠ [])
    (separates : Digest.Separates ((options.words segment.text).map (· ++ column)))
    {columns : String → Datum} {text : String} (stored : columns column = .text text) :
    let fragment := options.fragment ⟨column, dialect, connection⟩ segment
    engine.judge columns fragment.params fragment.condition = .ofProp
      (if segment.negated then
        ∃ word ∈ options.words segment.text, ¬ Like.Contains same text word
      else ∀ word ∈ options.words segment.text, Like.Contains same text word) := by
  have nonempty : (options.words segment.text).isEmpty = false := by simp [present]
  simp only [fragment, nonempty, Bool.false_eq_true, if_false]
  -- Each comparison only sees the binding of its own word.
  generalize bindings : Params.ofList _ = params
  have conjoined : engine.judge columns params (.conjoin ((options.words segment.text).map
      fun word => Condition.compare
        (Target.operand ⟨column, dialect, connection⟩ options.nullAsEmpty) .like
          (.param (wordParam ⟨column, dialect, connection⟩ word)))) =
      .ofProp (∀ word ∈ options.words segment.text, Like.Contains same text word) := by
    rw [Semantics.judge_conjoin, List.map_map, ← Truth.all_map_ofProp]
    refine congrArg Truth.all (List.map_congr_left fun word member => ?_)
    apply judge_contains classless searches stored
    rw [← bindings]
    exact get?_wordParam separates member
  rw [searches.inverts.judge_negateIf, conjoined]
  cases segment.negated with
  | false => rfl
  | true =>
      rw [if_pos rfl, if_pos rfl, Truth.not_ofProp]
      simp only [not_forall, exists_prop]

/-- The character is none that separates words. -/
def Letter (c : Char) : Prop := Text.isSpace c = false ∧ sameFolded c ' ' = false

theorem not_occurs_letters {word : List Char} (letters : ∀ c ∈ word, Letter c) :
    ¬ Text.Occurs sameFolded [' '] word := by
  rintro ⟨-, before, written, after, rfl, spelled⟩
  obtain ⟨c, later, agrees, -, rfl⟩ := List.forall₂_cons_right_iff.mp spelled
  have different := (letters c (by simp)).2
  rw [agrees] at different
  contradiction

theorem tight_letters {word : List Char} (present : word ≠ []) (letters : ∀ c ∈ word, Letter c) :
    Text.Tight word :=
  .of_visible present fun c member => (letters c member).1

theorem words_letters {first second : List Char} (present : first ≠ []) (present' : second ≠ [])
    (letters : ∀ c ∈ first, Letter c) (letters' : ∀ c ∈ second, Letter c) :
    standard.words (String.ofList (first ++ [' '] ++ second)) =
      [String.ofList first, String.ofList second] := by
  have space : Text.Spelled sameFolded [' '] [' '] :=
    .cons (by decide +kernel) .nil
  have cuts : Text.Cuts sameFolded [' '] (first ++ [' '] ++ second) [first, second] :=
    .cut (by simp) space (by simpa using not_occurs_letters letters)
      (.whole (not_occurs_letters letters'))
  have tight : ∀ word ∈ [first, second], Text.Tight word := by
    simpa using ⟨tight_letters present letters, tight_letters present' letters'⟩
  have plain : Plain standard.delimiter.toList := .inl rfl
  rw [words, String.toList_ofList, plain.wordsOf_eq_trimAll_cutAt (by decide)]
  exact congrArg (List.map String.ofList)
    ((congrArg Segment.trimAll cuts.cutAt_eq).trans (Segment.trimAll_of_tight tight))

/-- Two words of one digest share the pattern of the first, so that a text with only
this one in it is found. -/
theorem judge_fragment_collision {short long : String} (segment : Segment)
    (listed : standard.words segment.text = [short, long]) (plain : segment.negated = false)
    (collision : Digest.ofString (short ++ "name") = Digest.ofString (long ++ "name"))
    (columns : String → Datum) (stored : columns "name" = .text short) :
    let fragment := standard.fragment ⟨"name", .mySql, none⟩ segment
    (Semantics.searching .mySql).judge columns fragment.params
      fragment.condition = .yes := by
  have shared : wordParam ⟨"name", .mySql, none⟩ long = wordParam ⟨"name", .mySql, none⟩ short := by
    rw [wordParam, wordParam, parameterName, parameterName, collision]
  have whole : Like.Contains Eq short short := Like.contains_eq_iff.mpr (List.infix_refl _)
  simp only [fragment, listed, plain]
  generalize bindings : Params.ofList _ = params
  have bound : params.get? (wordParam ⟨"name", .mySql, none⟩ short) =
      some (.string (Like.containing short)) := by
    rw [← bindings, Params.get?_ofList]
    simp
  have found : (Semantics.searching .mySql).judge columns params (.compare
      (Target.operand ⟨"name", .mySql, none⟩ standard.nullAsEmpty) .like
        (.param (wordParam ⟨"name", .mySql, none⟩ short))) =
          .ofProp (Like.Contains Eq short short) :=
    judge_contains rfl (Semantics.searches_searching .mySql) stored bound _
  rw [Semantics.judge_eq_truth] at found
  simp [Semantics.judge_eq_truth, Condition.negateIf, Condition.truth_conjoin, shared, found, whole,
    Truth.ofProp]

/-- In the dialects without classes, the pattern of a text finds the texts that contain
it, and a fragment of words tells whether all words are contained, or, inverted,
whether one is not.  A segment without words lets every text through. -/
theorem fragment_searches (plain : dialect = .mySql ∨ dialect = .postgres) (same : Setoid Char) :
    (∀ part text, dialect.wildcards.Matches same.r (Like.containing part) text ↔
      Like.Contains same.r text part) ∧
    ∀ engine : Semantics, engine.Searches dialect same.r →
      ∀ (options : Words) (column : String) (connection : Option Connection) (segment : Segment),
        Digest.Separates ((options.words segment.text).map (· ++ column)) →
        ∀ (columns : String → Datum) (text : String), columns column = .text text →
          let fragment := options.fragment ⟨column, dialect, connection⟩ segment
          engine.judge columns fragment.params fragment.condition = .ofProp
            (if segment.negated then
              options.words segment.text = [] ∨
                ∃ word ∈ options.words segment.text, ¬ Like.Contains same.r text word
            else ∀ word ∈ options.words segment.text, Like.Contains same.r text word) := by
  have classless : dialect.wildcards.classes = false := by
    rcases plain with rfl | rfl <;> rfl
  refine ⟨fun part text => Like.matches_containing_iff (Dialect.escape_wildcards dialect)
    (.inl classless) text, ?_⟩
  intro engine searches options column connection segment separates columns text stored
  by_cases present : options.words segment.text = []
  · have unrestricted : options.fragment ⟨column, dialect, connection⟩ segment = .always := by
      simp [fragment, present]
    simp [unrestricted, present, Fragment.always, Semantics.judge_eq_truth, Truth.ofProp]
  · have judged := judge_fragment classless searches options connection present separates stored
    simpa [present] using judged

theorem fragment_searches_inverted :
    let fragment := standard.fragment ⟨"name", .mySql, none⟩ ⟨"50% off", true⟩
    (Semantics.searching .mySql).judge (fun _ => .text "60% off") fragment.params
      fragment.condition = .yes := by
  have listed : standard.words "50% off" = ["50%", "off"] := by decide +kernel
  have separates : Digest.Separates ((standard.words "50% off").map (· ++ "name")) := by
    rw [listed]
    unfold Digest.Separates
    decide +kernel
  have judged := (fragment_searches (.inl rfl) ⟨Eq, eq_equivalence⟩).2 _
    (Semantics.searches_searching .mySql) standard "name" none ⟨"50% off", true⟩ separates
    (fun _ => .text "60% off") "60% off" rfl
  have absent : ¬ Like.Contains Eq "60% off" "50%" := by
    rw [Like.contains_eq_iff]
    decide
  refine judged.trans (Truth.ofProp_eq_yes_iff.mpr (.inr ⟨"50%", ?_, absent⟩))
  rw [listed]
  simp

/-- The fragment of an inverted segment without words holds although no word is
absent, and two words of one digest let a text through in which one is absent. -/
theorem fragment_searches_fails :
    (let fragment := standard.fragment ⟨"name", .mySql, none⟩ ⟨"", true⟩
    (Semantics.searching .mySql).judge (fun _ => .text "") fragment.params
        fragment.condition = .yes ∧
      ¬ ∃ word ∈ standard.words "", ¬ Like.Contains Eq "" word) ∧
    ∃ (segment : Segment) (text : String),
      let fragment := standard.fragment ⟨"name", .mySql, none⟩ segment
      segment.negated = false ∧
        (Semantics.searching .mySql).judge (fun _ => .text text) fragment.params
          fragment.condition = .yes ∧
        ∃ word ∈ standard.words segment.text, ¬ Like.Contains Eq text word := by
  constructor
  · have wordless : standard.words "" = [] := by decide +kernel
    have unrestricted : standard.fragment ⟨"name", .mySql, none⟩ ⟨"", true⟩ = .always := by
      simp [fragment, wordless]
    refine ⟨?_, by simp [wordless]⟩
    simp [unrestricted, Fragment.always, Semantics.judge_eq_truth]
  · obtain ⟨first, second, shorter, collision⟩ := Digest.exists_collision fun count =>
      String.ofList (List.replicate (count + 1) 'a') ++ "name"
    have letters : ∀ count, ∀ c ∈ List.replicate (count + 1) 'a', Letter c := by
      intro count c member
      obtain rfl := List.eq_of_mem_replicate member
      exact ⟨by decide +kernel, by decide +kernel⟩
    obtain ⟨text, listed⟩ : ∃ text, standard.words text =
        [String.ofList (List.replicate (first + 1) 'a'),
          String.ofList (List.replicate (second + 1) 'a')] :=
      ⟨_, words_letters (by simp) (by simp) (letters first) (letters second)⟩
    refine ⟨⟨text, false⟩, String.ofList (List.replicate (first + 1) 'a'), rfl, ?_,
      String.ofList (List.replicate (second + 1) 'a'), ?_, ?_⟩
    · exact judge_fragment_collision ⟨text, false⟩ listed rfl collision _ rfl
    · rw [listed]
      simp
    · rw [Like.contains_eq_iff]
      intro inside
      have := inside.length_le
      simp at this
      omega

end Words

end ColumnFilter
