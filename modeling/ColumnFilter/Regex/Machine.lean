import ColumnFilter.Regex.Basic

/-!
# Matching

A pattern is matched by following all its possibilities at once, one character of
the text at a time.  A thread is a list of tasks that are still to do, with the
places where groups began and ended; threads are kept in the order of preference,
and of two threads with the same tasks only the first one matters.
-/

namespace ColumnFilter.Regex

/-- Something left to do in a match. -/
inductive Task where
  | run (regex : Regex)
  /-- One round of an unbounded repetition is over: another one, or go on. -/
  | more (greedy : Bool) (body : Regex)
  /-- A group ends here. -/
  | close (index : Nat)
  deriving DecidableEq, Repr

/-- Where a group begins or ends. -/
inductive Edge where
  | opening (index : Nat)
  | closing (index : Nat)
  deriving DecidableEq, Repr

/-- The last known places of edges; the latest comes first. -/
abbrev Marks := List (Edge × Nat)

/-- One of the ways in which a match may go on. -/
structure Thread where
  tasks : List Task
  marks : Marks
  deriving DecidableEq, Repr

/-- How many tasks a pattern can unfold into at one place. -/
def weight : Regex → Nat
  | .empty => 1
  | .set _ => 1
  | .anchor _ => 1
  | .seq first second => first.weight + second.weight + 1
  | .alt first second => first.weight + second.weight + 1
  | .times low high _ body => (low + high.getD 2 + 1) * (body.weight + 3)
  | .group _ body => body.weight + 2

/-- How much is left to unfold before all tasks wait for a character.  A repetition
that was already continued at this place is not continued again. -/
def pending (seen : List (List Task)) : List Task → Nat
  | [] => 0
  | .run regex :: tasks => regex.weight + pending seen tasks
  | .more greedy body :: tasks =>
      (if .more greedy body :: tasks ∈ seen then 0 else body.weight + 1) + pending seen tasks
  | .close _ :: tasks => 1 + pending seen tasks

theorem pending_antitone {smaller larger : List (List Task)}
    (included : ∀ tasks ∈ smaller, tasks ∈ larger) (tasks : List Task) :
    pending larger tasks ≤ pending smaller tasks := by
  induction tasks with
  | nil => simp [pending]
  | cons task tasks induction =>
      cases task with
      | run regex => simp only [pending]; omega
      | close index => simp only [pending]; omega
      | more greedy body =>
          simp only [pending]
          by_cases old : Task.more greedy body :: tasks ∈ smaller
          · simp only [old, included _ old, if_true]
            omega
          · simp only [old, if_false]
            split <;> omega

/-- What the first of the tasks left to do leads to, without reading a character. -/
inductive Move where
  /-- A character has to be read, or nothing is left to do. -/
  | wait
  /-- This is no way to a match. -/
  | stop
  | go (tasks : List Task) (edge : Option Edge)
  /-- Two ways, the preferred one first. -/
  | fork (preferred other : List Task)
  deriving DecidableEq, Repr

/-- Two ways in the order that a repetition prefers. -/
def Move.prefer (greedy : Bool) (again onward : List Task) : Move :=
  if greedy then .fork again onward else .fork onward again

/-- The repetition with one round less to do. -/
def oneLess (low : Nat) (high : Option Nat) (greedy : Bool) (body : Regex) : Task :=
  match low, high with
  | 1, none => .more greedy body
  | low, high => .run (.times (low - 1) (high.map (· - 1)) greedy body)

/-- The first step of a repetition in front of other tasks. -/
def rounds (greedy : Bool) (body : Regex) (tasks : List Task) :
    (low : Nat) → (high : Option Nat) → Move
  | _, some 0 => .go tasks none
  | 0, none => .prefer greedy (.run body :: .more greedy body :: tasks) tasks
  | 0, some (high + 1) =>
      .prefer greedy (.run body :: .run (.times 0 (some high) greedy body) :: tasks) tasks
  | low + 1, high => .go (.run body :: oneLess (low + 1) high greedy body :: tasks) none

/-- The first step of a list of tasks at a place. -/
def move (place : Place) : List Task → Move
  | [] => .wait
  | .close index :: tasks => .go tasks (some (.closing index))
  | .more greedy body :: tasks =>
      .prefer greedy (.run body :: .more greedy body :: tasks) tasks
  | .run regex :: tasks =>
      match regex with
      | .empty => .go tasks none
      | .set _ => .wait
      | .anchor condition => if condition.holds place then .go tasks none else .stop
      | .seq first second => .go (.run first :: .run second :: tasks) none
      | .alt first second => .fork (.run first :: tasks) (.run second :: tasks)
      | .group index body =>
          .go (.run body :: .close index :: tasks) (some (.opening index))
      | .times low high greedy body => rounds greedy body tasks low high

/-- The ways that a move leaves open. -/
def Move.ways : Move → List (List Task)
  | .wait => []
  | .stop => []
  | .go tasks _ => [tasks]
  | .fork preferred other => [preferred, other]

theorem ways_prefer {greedy : Bool} {again onward way : List Task} :
    way ∈ (Move.prefer greedy again onward).ways ↔ way = again ∨ way = onward := by
  cases greedy <;> simp [Move.prefer, Move.ways, or_comm]

theorem pending_oneLess (seen : List (List Task)) (low : Nat) (high : Option Nat)
    (greedy : Bool) (body : Regex) (tasks : List Task) (bounded : high ≠ some 0) :
    body.weight + pending seen (oneLess (low + 1) high greedy body :: tasks) <
      (low + 1 + high.getD 2 + 1) * (body.weight + 3) + pending seen tasks := by
  cases high with
  | none =>
      cases low with
      | zero =>
          simp only [oneLess, pending, Option.getD_none]
          split <;> omega
      | succ low =>
          have : (low + 1 + 1 + 2 + 1) * (body.weight + 3) =
              (low + 1 + 2 + 1) * (body.weight + 3) + (body.weight + 3) := by
            rw [← Nat.succ_mul]
          simp only [oneLess, pending, weight, Option.map_none, Option.getD_none,
            Nat.add_sub_cancel]
          omega
  | some high =>
      cases high with
      | zero => simp at bounded
      | succ high =>
          have : (low + 1 + (high + 1) + 1) * (body.weight + 3) =
              (low + high + 1) * (body.weight + 3) + 2 * (body.weight + 3) := by
            rw [← Nat.add_mul]
            congr 1
            omega
          simp only [oneLess, pending, weight, Option.map_some, Option.getD_some,
            Nat.add_sub_cancel]
          omega

theorem pending_lt_of_mem_rounds {seen : List (List Task)} {greedy : Bool} {body : Regex}
    {tasks way : List Task} {low : Nat} {high : Option Nat}
    (member : way ∈ (rounds greedy body tasks low high).ways) :
    pending seen way < (low + high.getD 2 + 1) * (body.weight + 3) + pending seen tasks := by
  revert member
  fun_cases rounds greedy body tasks low high with
  | case1 low =>
      intro member
      simp only [Move.ways, List.mem_singleton] at member
      subst member
      have : 0 < (low + (some 0).getD 2 + 1) * (body.weight + 3) := by
        apply Nat.mul_pos <;> omega
      omega
  | case2 =>
      intro member
      rcases ways_prefer.1 member with rfl | rfl
      · simp only [pending, Option.getD_none]
        split <;> omega
      · simp only [Option.getD_none]
        omega
  | case3 bound =>
      intro member
      have : (0 + (bound + 1) + 1) * (body.weight + 3) =
          (0 + bound + 1) * (body.weight + 3) + (body.weight + 3) := by
        rw [← Nat.succ_mul]
        congr 1
      rcases ways_prefer.1 member with rfl | rfl
      · simp only [pending, weight, Option.getD_some, Nat.succ_eq_add_one]
        omega
      · simp only [Option.getD_some, Nat.succ_eq_add_one]
        omega
  | case4 low _ unbounded =>
      intro member
      simp only [Move.ways, List.mem_singleton] at member
      subst member
      have less := pending_oneLess seen low _ greedy body tasks unbounded
      simp only [pending] at *
      exact less

/-- Every way that a move leaves open has less left to unfold. -/
theorem pending_lt_of_mem_ways (place : Place) (old : List (List Task)) (tasks way : List Task)
    (fresh : tasks ∉ old) (member : way ∈ (move place tasks).ways) :
    pending (tasks :: old) way < pending old tasks := by
  have antitone : ∀ other, pending (tasks :: old) other ≤ pending old other :=
    pending_antitone fun other known => List.mem_cons_of_mem _ known
  cases tasks with
  | nil => simp [move, Move.ways] at member
  | cons task rest =>
      have := antitone rest
      cases task with
      | close index =>
          simp only [move, Move.ways, List.mem_singleton] at member
          subst member
          simp only [pending]
          omega
      | more greedy body =>
          rcases ways_prefer.1 member with rfl | rfl
          · simp only [pending, List.mem_cons, true_or, if_true, fresh, if_false]
            omega
          · simp only [pending, fresh, if_false]
            omega
      | run regex =>
          cases regex with
          | set chars => simp [move, Move.ways] at member
          | empty =>
              simp only [move, Move.ways, List.mem_singleton] at member
              subst member
              simp only [pending, weight]
              omega
          | anchor condition =>
              simp only [move] at member
              split at member
              · simp only [Move.ways, List.mem_singleton] at member
                subst member
                simp only [pending, weight]
                omega
              · simp [Move.ways] at member
          | seq first second =>
              simp only [move, Move.ways, List.mem_singleton] at member
              subst member
              simp only [pending, weight]
              omega
          | alt first second =>
              simp only [move, Move.ways, List.mem_cons, List.not_mem_nil, or_false] at member
              rcases member with rfl | rfl <;> simp only [pending, weight] <;> omega
          | group index body =>
              simp only [move, Move.ways, List.mem_singleton] at member
              subst member
              simp only [pending, weight]
              omega
          | times low high greedy body =>
              have := @pending_lt_of_mem_rounds
                ((.run (.times low high greedy body) :: rest) :: old) _ _ _ _ _ _ member
              simp only [pending, weight]
              omega

/-- What following tasks at one place comes to: the lists of tasks seen there, and the
threads that wait for a character or are done. -/
structure Followed (old : List (List Task)) where
  seen : List (List Task)
  threads : List Thread
  grows : ∀ tasks ∈ old, tasks ∈ seen

/-- The places of edges with one more added. -/
def mark (place : Place) (marks : Marks) : Option Edge → Marks
  | none => marks
  | some edge => (edge, place.index) :: marks

/-- Follows tasks as far as they go without reading a character.  Tasks that were seen
at this place before lead nowhere new. -/
def follow (place : Place) (old : List (List Task)) (tasks : List Task) (marks : Marks) :
    Followed old :=
  if fresh : tasks ∈ old then ⟨old, [], fun _ known => known⟩
  else
    match step : move place tasks with
    | .wait => ⟨tasks :: old, [⟨tasks, marks⟩], fun _ known => List.mem_cons_of_mem _ known⟩
    | .stop => ⟨tasks :: old, [], fun _ known => List.mem_cons_of_mem _ known⟩
    | .go next edge =>
        have : pending (tasks :: old) next < pending old tasks :=
          pending_lt_of_mem_ways place old tasks next fresh (by simp [step, Move.ways])
        let one := follow place (tasks :: old) next (mark place marks edge)
        ⟨one.seen, one.threads, fun _ known => one.grows _ (List.mem_cons_of_mem _ known)⟩
    | .fork preferred other =>
        have : pending (tasks :: old) preferred < pending old tasks :=
          pending_lt_of_mem_ways place old tasks preferred fresh (by simp [step, Move.ways])
        let one := follow place (tasks :: old) preferred marks
        have : pending one.seen other < pending old tasks :=
          Nat.lt_of_le_of_lt (pending_antitone one.grows other)
            (pending_lt_of_mem_ways place old tasks other fresh (by simp [step, Move.ways]))
        let two := follow place one.seen other marks
        ⟨two.seen, one.threads ++ two.threads,
          fun _ known => two.grows _ (one.grows _ (List.mem_cons_of_mem _ known))⟩
termination_by pending old tasks

/-- Follows threads in the order of preference. -/
def followAll (place : Place) (old : List (List Task)) : List Thread → List Thread
  | [] => []
  | thread :: threads =>
      let one := follow place old thread.tasks thread.marks
      one.threads ++ followAll place one.seen threads

/-- The threads before the first one that is done, and its marks. -/
def cutAtDone : List Thread → List Thread × Option Marks
  | [] => ([], none)
  | ⟨[], marks⟩ :: _ => ([], some marks)
  | thread :: threads =>
      let (kept, done) := cutAtDone threads
      (thread :: kept, done)

/-- What is left of a thread after reading a character. -/
def read? (c : Char) (thread : Thread) : Option Thread :=
  match thread.tasks with
  | .run (.set chars) :: tasks => if chars.contains c then some ⟨tasks, thread.marks⟩ else none
  | _ => none

/-- Runs threads over a text.  Until a match is known, another one may start at every
place; a thread that is done ends all threads that are less preferred. -/
def runThreads (start : List Task) (threads : List Thread) (best : Option Marks)
    (index : Nat) (before : Option Char) : (text : List Char) → Option Marks
  | [] =>
      let place : Place := ⟨index, before, none⟩
      let entering := if best.isNone then [⟨start, []⟩] else []
      let (_, done) := cutAtDone (followAll place [] (threads ++ entering))
      done.or best
  | c :: rest =>
      let place : Place := ⟨index, before, some c⟩
      let entering := if best.isNone then [⟨start, []⟩] else []
      let (kept, done) := cutAtDone (followAll place [] (threads ++ entering))
      runThreads start (kept.filterMap (read? c)) (done.or best) (index + 1) (some c) rest

/-- The first match of a pattern in a text, as the places of its groups. -/
def search? (regex : Regex) (text : List Char) : Option Marks :=
  runThreads [.run regex] [] none 0 none text

/-- The text of a group, if it took part in the match. -/
def groupText? (text : List Char) (marks : Marks) (index : Nat) : Option (List Char) :=
  match marks.lookup (.opening index), marks.lookup (.closing index) with
  | some first, some last => some ((text.take last).drop first)
  | _, _ => none

end ColumnFilter.Regex
