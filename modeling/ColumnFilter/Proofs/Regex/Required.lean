import ColumnFilter.Regex.Machine

/-!
# Groups in every match

A group is required by a pattern if no way through the pattern avoids it.  Every
thread then either still has the group in front of it or has marked its edges, so a
finished match has a text for the group.
-/

namespace ColumnFilter.Regex

/-- Every way through the pattern leads through the group.  Repetitions are not
looked into. -/
def Requires (index : Nat) : Regex → Prop
  | .empty => False
  | .set _ => False
  | .anchor _ => False
  | .seq first second => first.Requires index ∨ second.Requires index
  | .alt first second => first.Requires index ∧ second.Requires index
  | .times _ _ _ _ => False
  | .group other body => other = index ∨ body.Requires index

theorem requires_sequence {index : Nat} {regexes : List Regex} {regex : Regex}
    (member : regex ∈ regexes) (required : regex.Requires index) :
    (sequence regexes).Requires index := by
  induction regexes with
  | nil => simp at member
  | cons first rest induction =>
      cases rest with
      | nil =>
          obtain rfl : regex = first := by simpa using member
          exact required
      | cons second rest =>
          rcases List.mem_cons.mp member with rfl | later
          · exact .inl required
          · exact .inr (induction later)

def Edge.index : Edge → Nat
  | .opening index => index
  | .closing index => index

/-- Doing the task comes past the edge. -/
def Task.Reaches (edge : Edge) : Task → Prop
  | .run regex => regex.Requires edge.index
  | .more _ _ => False
  | .close index => edge = .closing index

/-- The edge is known, or there is a task that comes past it. -/
def Reaches (edge : Edge) (tasks : List Task) (marks : Marks) : Prop :=
  (∃ task ∈ tasks, task.Reaches edge) ∨ (marks.lookup edge).isSome = true

variable {edge : Edge} {marks : Marks}

theorem reaches_cons {task : Task} {tasks : List Task} :
    Reaches edge (task :: tasks) marks ↔ task.Reaches edge ∨ Reaches edge tasks marks := by
  simp only [Reaches, List.mem_cons, exists_eq_or_imp, or_assoc]

theorem reaches_mark {tasks : List Task} (reaches : Reaches edge tasks marks) (place : Place)
    (passed : Option Edge) : Reaches edge tasks (mark place marks passed) := by
  cases passed with
  | none => exact reaches
  | some other =>
      rcases reaches with ahead | known
      · exact .inl ahead
      · apply Or.inr
        rw [mark, List.lookup_cons]
        split
        · rfl
        · exact known

theorem reaches_mark_self (tasks : List Task) (place : Place) :
    Reaches edge tasks (mark place marks (some edge)) := by
  apply Or.inr
  rw [mark, List.lookup_cons_self]
  rfl

/-- On each of its ways, a move passes the edge or keeps a task in front of it. -/
def Move.Reaches (edge : Edge) (place : Place) (marks : Marks) : Move → Prop
  | .wait => True
  | .stop => True
  | .go next passed => Regex.Reaches edge next (mark place marks passed)
  | .fork preferred other => Regex.Reaches edge preferred marks ∧ Regex.Reaches edge other marks

theorem reaches_prefer {place : Place} {greedy : Bool} {again onward : List Task}
    (reaches : Reaches edge again marks) (reaches' : Reaches edge onward marks) :
    (Move.prefer greedy again onward).Reaches edge place marks := by
  cases greedy with
  | true => exact ⟨reaches, reaches'⟩
  | false => exact ⟨reaches', reaches⟩

theorem reaches_rounds {place : Place} {greedy : Bool} {body : Regex} {tasks : List Task}
    (reaches : Reaches edge tasks marks) (low : Nat) (high : Option Nat) :
    (rounds greedy body tasks low high).Reaches edge place marks := by
  have behind : ∀ first second, Reaches edge (first :: second :: tasks) marks := by
    intro first second
    exact reaches_cons.mpr (.inr (reaches_cons.mpr (.inr reaches)))
  unfold rounds
  split
  · exact reaches
  · exact reaches_prefer (behind _ _) reaches
  · exact reaches_prefer (behind _ _) reaches
  · exact behind _ _

theorem reaches_move {tasks : List Task} (reaches : Reaches edge tasks marks)
    (place : Place) : (move place tasks).Reaches edge place marks := by
  cases tasks with
  | nil => trivial
  | cons task tasks =>
      rcases reaches_cons.mp reaches with here | later
      · cases task with
        | more greedy body => exact here.elim
        | close index =>
            obtain rfl : edge = .closing index := here
            exact reaches_mark_self tasks place
        | run regex =>
            cases regex with
            | empty => exact here.elim
            | set chars => exact here.elim
            | anchor condition => exact here.elim
            | times low high greedy body => exact here.elim
            | seq first second =>
                rcases here with here | here
                · exact reaches_cons.mpr (.inl here)
                · exact reaches_cons.mpr (.inr (reaches_cons.mpr (.inl here)))
            | alt first second =>
                exact ⟨reaches_cons.mpr (.inl here.1), reaches_cons.mpr (.inl here.2)⟩
            | group index body =>
                rcases here with same | inside
                · cases edge with
                  | opening other =>
                      obtain rfl : index = other := same
                      exact reaches_mark_self _ place
                  | closing other =>
                      obtain rfl : index = other := same
                      apply reaches_mark
                      exact reaches_cons.mpr (.inr (reaches_cons.mpr (.inl rfl)))
                · have ahead : Reaches edge (.run body :: .close index :: tasks) marks :=
                    reaches_cons.mpr (.inl inside)
                  exact reaches_mark ahead place _
      · cases task with
        | more greedy body =>
            exact reaches_prefer
              (reaches_cons.mpr (.inr (reaches_cons.mpr (.inr later)))) later
        | close index => exact reaches_mark later place _
        | run regex =>
            cases regex with
            | empty => exact later
            | set chars => trivial
            | anchor condition =>
                simp only [move]
                split
                · exact later
                · trivial
            | times low high greedy body => exact reaches_rounds later low high
            | seq first second =>
                exact reaches_cons.mpr (.inr (reaches_cons.mpr (.inr later)))
            | alt first second =>
                exact ⟨reaches_cons.mpr (.inr later), reaches_cons.mpr (.inr later)⟩
            | group index body =>
                apply reaches_mark
                exact reaches_cons.mpr (.inr (reaches_cons.mpr (.inr later)))

theorem reaches_follow {place : Place} {old : List (List Task)} {tasks : List Task}
    (reaches : Reaches edge tasks marks) :
    ∀ thread ∈ (follow place old tasks marks).threads,
      Reaches edge thread.tasks thread.marks := by
  fun_induction follow place old tasks marks with
  | case1 => simp
  | case2 old tasks marks fresh step =>
      intro thread member
      obtain rfl : thread = ⟨tasks, marks⟩ := by simpa using member
      exact reaches
  | case3 => simp
  | case4 old tasks marks fresh next passed step bound one induction =>
      have moved := reaches_move reaches place
      rw [step] at moved
      exact induction moved
  | case5 old tasks marks fresh preferred other step bound one bound' two first second =>
      have moved := reaches_move reaches place
      rw [step] at moved
      intro thread member
      rcases List.mem_append.mp member with here | there
      · exact first moved.1 thread here
      · exact second moved.2 thread there

theorem reaches_followAll {place : Place} {threads : List Thread}
    (reaches : ∀ thread ∈ threads, Reaches edge thread.tasks thread.marks)
    (old : List (List Task)) :
    ∀ thread ∈ followAll place old threads, Reaches edge thread.tasks thread.marks := by
  induction threads generalizing old with
  | nil => simp [followAll]
  | cons first threads induction =>
      intro thread member
      rcases List.mem_append.mp member with here | there
      · exact reaches_follow (reaches first List.mem_cons_self) thread here
      · apply induction _ _ thread there
        intro other listed
        exact reaches other (List.mem_cons_of_mem first listed)

theorem mem_of_cutAtDone (threads : List Thread) :
    (∀ thread ∈ (cutAtDone threads).1, thread ∈ threads) ∧
      ∀ found ∈ (cutAtDone threads).2, ⟨[], found⟩ ∈ threads := by
  induction threads with
  | nil => simp [cutAtDone]
  | cons first threads induction =>
      obtain ⟨tasks, marks⟩ := first
      cases tasks with
      | nil => simp [cutAtDone]
      | cons task tasks =>
          simp only [cutAtDone, List.mem_cons]
          exact ⟨fun thread member => member.imp id (induction.1 thread),
            fun found done => .inr (induction.2 found done)⟩

theorem reaches_read? {c : Char} {thread next : Thread}
    (reaches : Reaches edge thread.tasks thread.marks) (read : read? c thread = some next) :
    Reaches edge next.tasks next.marks := by
  revert read
  fun_cases read? c thread with
  | case2 | case3 => simp
  | case1 chars tasks shape member =>
      intro read
      obtain rfl := Option.some.inj read
      rw [shape, reaches_cons] at reaches
      exact reaches.resolve_left id

/-- At one place of the text, the threads that go on and a match that is found there. -/
theorem reaches_at_place {start : List Task} (entered : Reaches edge start [])
    {threads : List Thread} (reaches : ∀ thread ∈ threads, Reaches edge thread.tasks thread.marks)
    {best : Option Marks} (known : ∀ found ∈ best, (found.lookup edge).isSome = true)
    (place : Place) {kept : List Thread} {done : Option Marks}
    (cut : cutAtDone (followAll place []
      (threads ++ if best.isNone then [⟨start, []⟩] else [])) = (kept, done)) :
    (∀ thread ∈ kept, Reaches edge thread.tasks thread.marks) ∧
      ∀ found ∈ done.or best, (found.lookup edge).isSome = true := by
  have all : ∀ thread ∈ threads ++ if best.isNone then [⟨start, []⟩] else [],
      Reaches edge thread.tasks thread.marks := by
    intro thread member
    rcases List.mem_append.mp member with running | entering
    · exact reaches thread running
    · split at entering
      · rw [List.mem_singleton] at entering
        rw [entering]
        exact entered
      · simp at entering
  have parts := mem_of_cutAtDone (followAll place []
    (threads ++ if best.isNone then [⟨start, []⟩] else []))
  rw [cut] at parts
  refine ⟨fun thread member => reaches_followAll all [] thread (parts.1 thread member), ?_⟩
  intro found member
  cases done with
  | none => exact known found member
  | some marks =>
      obtain rfl : marks = found := by simpa using member
      have finished := reaches_followAll all [] _ (parts.2 marks rfl)
      simpa [Reaches] using finished

theorem isSome_lookup_of_runThreads {start : List Task} (entered : Reaches edge start [])
    {threads : List Thread} (reaches : ∀ thread ∈ threads, Reaches edge thread.tasks thread.marks)
    {best : Option Marks} (known : ∀ found ∈ best, (found.lookup edge).isSome = true)
    {index : Nat} {before : Option Char} {text : List Char}
    (matched : runThreads start threads best index before text = some marks) :
    (marks.lookup edge).isSome = true := by
  induction text generalizing threads best index before with
  | nil =>
      rw [runThreads] at matched
      exact (reaches_at_place entered reaches known _ rfl).2 marks matched
  | cons c text induction =>
      rw [runThreads] at matched
      have here := reaches_at_place entered reaches known ⟨index, before, some c⟩ rfl
      apply induction _ here.2 matched
      intro next member
      obtain ⟨thread, listed, read⟩ := List.mem_filterMap.mp member
      exact reaches_read? (here.1 thread listed) read

/-- A match has a text for each required group. -/
theorem isSome_groupText? {regex : Regex} {index : Nat} (required : regex.Requires index)
    {text : List Char} (matched : regex.search? text = some marks) :
    (groupText? text marks index).isSome = true := by
  have edges : ∀ edge : Edge, edge.index = index → (marks.lookup edge).isSome = true := by
    rintro edge rfl
    have entered : Reaches edge [.run regex] [] := reaches_cons.mpr (.inl required)
    exact isSome_lookup_of_runThreads entered (by simp) (by simp) matched
  obtain ⟨first, opened⟩ := Option.isSome_iff_exists.mp (edges (.opening index) rfl)
  obtain ⟨last, closed⟩ := Option.isSome_iff_exists.mp (edges (.closing index) rfl)
  rw [groupText?, opened, closed]
  rfl

end ColumnFilter.Regex
