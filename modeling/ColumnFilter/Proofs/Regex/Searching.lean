import ColumnFilter.Proofs.Regex.Marking
import ColumnFilter.Proofs.Regex.Required

/-!
# What a search finds

A search follows all threads at once and forgets a thread whose tasks were seen at the
same place before.  It loses nothing by that: if the pattern matches anywhere, a match
is found.  And the marks of the match that is found are those that the pattern captures
there.
-/

namespace ColumnFilter.Regex

/-- The place between two parts of a text. -/
def placeAt (before after : List Char) : Place := ⟨before.length, before.getLast?, after.head?⟩

/-- What doing a task by itself comes to. -/
def Task.Does : Task → (before matched after : List Char) → (marks marks' : Marks) → Prop
  | .run regex, before, matched, after, marks, marks' =>
      regex.Captures before matched after marks marks'
  | .more greedy body, before, matched, after, marks, marks' =>
      (times 0 none greedy body).Captures before matched after marks marks'
  | .close index, before, matched, _, marks, marks' =>
      matched = [] ∧ marks' = (.closing index, before.length) :: marks

/-- Doing all tasks in front of the rest of a text ends with the marks `final`. -/
def Leads (before after : List Char) : List Task → (marks final : Marks) → Prop
  | [], marks, final => final = marks
  | task :: tasks, marks, final =>
      ∃ matched rest middle, after = matched ++ rest ∧
        task.Does before matched rest marks middle ∧
        Leads (before ++ matched) rest tasks middle final

variable {before after : List Char} {tasks : List Task} {marks final : Marks}

theorem leads_cons {task : Task} :
    Leads before after (task :: tasks) marks final ↔
      ∃ matched rest middle, after = matched ++ rest ∧
        task.Does before matched rest marks middle ∧
        Leads (before ++ matched) rest tasks middle final := by
  rw [Leads]

theorem leads_of_does_nil (task : Task) {middle : Marks}
    (does : task.Does before [] after marks middle)
    (leads : Leads before after tasks middle final) :
    Leads before after (task :: tasks) marks final :=
  leads_cons.mpr ⟨[], after, middle, rfl, does, by simpa using leads⟩

/-- One of the ways of a move leads to the marks. -/
def Move.Leads (before after : List Char) (marks final : Marks) : Move → Prop
  | .wait => False
  | .stop => False
  | .go next edge => Regex.Leads before after next (mark (placeAt before after) marks edge) final
  | .fork preferred other =>
      Regex.Leads before after preferred marks final ∨ Regex.Leads before after other marks final

theorem leads_prefer {greedy : Bool} {again onward : List Task} :
    (Move.prefer greedy again onward).Leads before after marks final ↔
      Leads before after again marks final ∨ Leads before after onward marks final := by
  cases greedy with
  | true => rfl
  | false => exact or_comm

theorem does_oneLess {low : Nat} {high : Option Nat} {greedy : Bool} {body : Regex}
    {matched : List Char} {marks' : Marks} :
    (oneLess low high greedy body).Does before matched after marks marks' ↔
      (times (low - 1) (high.map (· - 1)) greedy body).Captures before matched after marks
        marks' := by
  unfold oneLess
  split
  · rfl
  · rfl

theorem leads_round {low : Nat} {high : Option Nat} {greedy : Bool} {body : Regex} {task : Task}
    (allowed : high ≠ some 0)
    (less : ∀ {before matched after marks marks'}, task.Does before matched after marks marks' →
      (times (low - 1) (high.map (· - 1)) greedy body).Captures before matched after marks marks')
    (leads : Leads before after (.run body :: task :: tasks) marks final) :
    Leads before after (.run (.times low high greedy body) :: tasks) marks final := by
  obtain ⟨one, _, middle, rfl, here, later⟩ := leads_cons.mp leads
  obtain ⟨two, rest, middle', rfl, there, onward⟩ := leads_cons.mp later
  refine leads_cons.mpr ⟨one ++ two, rest, middle', by simp, ?_, by simpa using onward⟩
  exact .round allowed here (less there)

theorem leads_of_rounds {low : Nat} {high : Option Nat} {greedy : Bool} {body : Regex}
    (leads : (rounds greedy body tasks low high).Leads before after marks final) :
    Leads before after (.run (.times low high greedy body) :: tasks) marks final := by
  revert leads
  fun_cases rounds greedy body tasks low high with
  | case1 => exact leads_of_does_nil _ (.done (.inr rfl))
  | case2 | case3 =>
      intro leads
      rcases leads_prefer.mp leads with again | onward
      · exact leads_round (by simp) id again
      · exact leads_of_does_nil _ (.done (.inl rfl)) onward
  | case4 low _ allowed => exact leads_round allowed does_oneLess.mp

/-- Where a move leads, the tasks lead that it is the first step of. -/
theorem leads_of_move
    (leads : (move (placeAt before after) tasks).Leads before after marks final) :
    Leads before after tasks marks final := by
  cases tasks with
  | nil => exact leads.elim
  | cons task tasks =>
      cases task with
      | close index =>
          exact leads_of_does_nil (.close index) ⟨rfl, rfl⟩ leads
      | more greedy body =>
          have repeated :
              Leads before after (.run (.times 0 none greedy body) :: tasks) marks final :=
            leads_of_rounds leads
          exact repeated
      | run regex =>
          cases regex with
          | empty => exact leads_of_does_nil (.run .empty) .empty leads
          | set chars => exact leads.elim
          | anchor condition =>
              rw [move] at leads
              by_cases holds : condition.holds (placeAt before after)
              · rw [if_pos holds] at leads
                exact leads_of_does_nil (.run (.anchor condition)) (.anchor holds) leads
              · rw [if_neg holds] at leads
                exact leads.elim
          | seq first second =>
              obtain ⟨one, _, middle, rfl, here, later⟩ := leads_cons.mp leads
              obtain ⟨two, rest, middle', rfl, there, onward⟩ := leads_cons.mp later
              refine leads_cons.mpr ⟨one ++ two, rest, middle', by simp, ?_, by simpa using onward⟩
              exact .seq here there
          | alt first second =>
              rcases leads with leads | leads
              · obtain ⟨one, rest, middle, rfl, here, onward⟩ := leads_cons.mp leads
                exact leads_cons.mpr ⟨one, rest, middle, rfl, .first here, onward⟩
              · obtain ⟨one, rest, middle, rfl, here, onward⟩ := leads_cons.mp leads
                exact leads_cons.mpr ⟨one, rest, middle, rfl, .second here, onward⟩
          | times low high greedy body => exact leads_of_rounds leads
          | group index body =>
              obtain ⟨one, _, middle, rfl, here, later⟩ := leads_cons.mp leads
              obtain ⟨two, rest, middle', rfl, ⟨rfl, rfl⟩, onward⟩ := leads_cons.mp later
              refine leads_cons.mpr ⟨one, rest, _, by simp, .group here, ?_⟩
              simpa using onward

/-- All marks that the tasks lead to are known to be good. -/
def Promises (good : Marks → Prop) (before after : List Char) (tasks : List Task)
    (marks : Marks) : Prop :=
  ∀ final, Leads before after tasks marks final → good final

variable {good : Marks → Prop}

theorem promises_follow {old : List (List Task)}
    (promises : Promises good before after tasks marks) :
    ∀ thread ∈ (follow (placeAt before after) old tasks marks).threads,
      Promises good before after thread.tasks thread.marks := by
  fun_induction follow (placeAt before after) old tasks marks with
  | case1 => simp
  | case2 old tasks marks fresh step =>
      intro thread member
      obtain rfl : thread = ⟨tasks, marks⟩ := by simpa using member
      exact promises
  | case3 => simp
  | case4 old tasks marks fresh next edge step bound one induction =>
      apply induction
      intro final leads
      apply promises
      apply leads_of_move
      rw [step]
      exact leads
  | case5 old tasks marks fresh preferred other step bound one bound' two first second =>
      have moved : ∀ final, (Move.fork preferred other).Leads before after marks final →
          good final := by
        intro final leads
        apply promises
        apply leads_of_move
        rw [step]
        exact leads
      intro thread member
      rcases List.mem_append.mp member with here | there
      · exact first (fun final leads => moved final (.inl leads)) thread here
      · exact second (fun final leads => moved final (.inr leads)) thread there

theorem promises_followAll {threads : List Thread}
    (promises : ∀ thread ∈ threads, Promises good before after thread.tasks thread.marks)
    (old : List (List Task)) :
    ∀ thread ∈ followAll (placeAt before after) old threads,
      Promises good before after thread.tasks thread.marks := by
  induction threads generalizing old with
  | nil => simp [followAll]
  | cons first threads induction =>
      obtain ⟨here, later⟩ := List.forall_mem_cons.mp promises
      intro thread member
      rcases List.mem_append.mp member with inside | behind
      · exact promises_follow here thread inside
      · exact induction later _ thread behind

theorem promises_read? {c : Char} {thread next : Thread}
    (promises : Promises good before (c :: after) thread.tasks thread.marks)
    (read : read? c thread = some next) :
    Promises good (before ++ [c]) after next.tasks next.marks := by
  revert read
  fun_cases read? c thread with
  | case2 | case3 => simp
  | case1 chars tasks shape member =>
      intro read
      obtain rfl := Option.some.inj read
      intro final leads
      apply promises
      rw [shape]
      exact leads_cons.mpr ⟨[c], after, thread.marks, rfl, .set member, leads⟩

/-- The threads that run at a place, with a new one as long as there is no match. -/
def running (start : List Task) (threads : List Thread) (best : Option Marks) : List Thread :=
  threads ++ if best.isNone then [⟨start, []⟩] else []

theorem promises_at_place {start : List Task} (entered : Promises good before after start [])
    {threads : List Thread}
    (promises : ∀ thread ∈ threads, Promises good before after thread.tasks thread.marks)
    {best : Option Marks} (known : ∀ found ∈ best, good found) {kept : List Thread}
    {done : Option Marks}
    (cut : cutAtDone (followAll (placeAt before after) [] (running start threads best)) =
      (kept, done)) :
    (∀ thread ∈ kept, Promises good before after thread.tasks thread.marks) ∧
      ∀ found ∈ done.or best, good found := by
  have all : ∀ thread ∈ running start threads best,
      Promises good before after thread.tasks thread.marks := by
    intro thread member
    rcases List.mem_append.mp member with older | entering
    · exact promises thread older
    · split at entering
      · rw [List.mem_singleton] at entering
        rw [entering]
        exact entered
      · simp at entering
  have followed := promises_followAll all []
  have parts := mem_of_cutAtDone (followAll (placeAt before after) [] (running start threads best))
  rw [cut] at parts
  refine ⟨fun thread member => followed thread (parts.1 thread member), ?_⟩
  intro found member
  cases done with
  | none => exact known found member
  | some marks =>
      obtain rfl : marks = found := by simpa using member
      exact followed _ (parts.2 marks rfl) marks rfl

theorem good_of_runThreads {start : List Task} {whole : List Char}
    (entered : ∀ before after, whole = before ++ after → Promises good before after start [])
    (split : whole = before ++ after) {threads : List Thread}
    (promises : ∀ thread ∈ threads, Promises good before after thread.tasks thread.marks)
    {best : Option Marks} (known : ∀ found ∈ best, good found)
    (matched : runThreads start threads best before.length before.getLast? after = some final) :
    good final := by
  induction after generalizing before threads best with
  | nil =>
      rw [runThreads] at matched
      exact (promises_at_place (entered _ _ split) promises known rfl).2 final matched
  | cons c after induction =>
      rw [runThreads] at matched
      have here := promises_at_place (entered _ _ split) promises known rfl
      have further : whole = (before ++ [c]) ++ after := by simpa using split
      have later : ∀ next ∈ (cutAtDone (followAll (placeAt before (c :: after)) []
          (running start threads best))).1.filterMap (read? c),
          Promises good (before ++ [c]) after next.tasks next.marks := by
        intro next member
        obtain ⟨thread, listed, read⟩ := List.mem_filterMap.mp member
        exact promises_read? (here.1 thread listed) read
      apply induction further later here.2
      rw [List.length_append, List.getLast?_concat]
      exact matched

/-- The marks that a search finds are what the pattern captures somewhere in the text. -/
theorem captures_of_search? {regex : Regex} {text : List Char}
    (matched : regex.search? text = some marks) :
    ∃ before found after, text = before ++ found ++ after ∧
      regex.Captures before found after [] marks := by
  have entered : ∀ before after, text = before ++ after →
      Promises (fun marks => ∃ before found after, text = before ++ found ++ after ∧
        regex.Captures before found after [] marks) before after [.run regex] [] := by
    rintro before after rfl final leads
    obtain ⟨found, rest, middle, rfl, captures, rfl⟩ := leads_cons.mp leads
    exact ⟨before, found, rest, by simp, captures⟩
  have run : runThreads [.run regex] [] none ([] : List Char).length ([] : List Char).getLast?
      text = some marks := matched
  exact good_of_runThreads entered rfl (by simp) (by simp) run

end ColumnFilter.Regex
