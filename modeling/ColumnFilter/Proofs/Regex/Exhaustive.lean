import ColumnFilter.Proofs.Regex.Searching

/-!
# A search overlooks no match

Once all threads have been followed at a place of a text, the tasks that were seen there
are closed under moves, so every way to a match goes on from one of the threads that are
left.  That a thread is forgotten when its tasks were seen before takes no match away.
-/

namespace ColumnFilter.Regex

/-- There is a way through the tasks, along the moves of a thread. -/
inductive Succeeds : (before after : List Char) → List Task → Prop where
  | done {before after : List Char} : Succeeds before after []
  | way {before after : List Char} {tasks way : List Task} :
      way ∈ (move (placeAt before after) tasks).ways → Succeeds before after way →
      Succeeds before after tasks
  | read {chars : CharSet} {c : Char} {before after : List Char} {tasks : List Task} :
      chars.contains c = true → Succeeds (before ++ [c]) after tasks →
      Succeeds before (c :: after) (.run (.set chars) :: tasks)

variable {before after : List Char} {tasks : List Task}

theorem succeeds_more {greedy : Bool} {body : Regex}
    (succeeds : Succeeds before after (.run (.times 0 none greedy body) :: tasks)) :
    Succeeds before after (.more greedy body :: tasks) := by
  cases succeeds with
  | way member succeeds => exact .way member succeeds

theorem succeeds_oneLess {low : Nat} {high : Option Nat} {greedy : Bool} {body : Regex}
    (succeeds : Succeeds before after
      (.run (.times (low - 1) (high.map (· - 1)) greedy body) :: tasks)) :
    Succeeds before after (oneLess low high greedy body :: tasks) := by
  unfold oneLess
  split
  · exact succeeds_more succeeds
  · exact succeeds

theorem mem_ways_rounds_of_done {low : Nat} {high : Option Nat} {greedy : Bool} {body : Regex}
    (enough : low = 0 ∨ high = some 0) : tasks ∈ (rounds greedy body tasks low high).ways := by
  fun_cases rounds greedy body tasks low high with
  | case1 => exact List.mem_singleton.mpr rfl
  | case2 | case3 => exact ways_prefer.mpr (.inr rfl)
  | case4 low _ bounded =>
      rcases enough with vacant | vacant
      · contradiction
      · exact absurd vacant bounded

/-- Another round is one of the ways of a repetition that allows one. -/
theorem exists_mem_ways_rounds {low : Nat} {high : Option Nat} (greedy : Bool) (body : Regex)
    (tasks : List Task) (allowed : high ≠ some 0) :
    ∃ task, .run body :: task :: tasks ∈ (rounds greedy body tasks low high).ways ∧
      ∀ {before after : List Char}, Succeeds before after
          (.run (.times (low - 1) (high.map (· - 1)) greedy body) :: tasks) →
        Succeeds before after (task :: tasks) := by
  unfold rounds
  split
  · contradiction
  · exact ⟨_, ways_prefer.mpr (.inl rfl), succeeds_more⟩
  · exact ⟨_, ways_prefer.mpr (.inl rfl), id⟩
  · exact ⟨_, List.mem_singleton.mpr rfl, succeeds_oneLess⟩

theorem succeeds_of_captures {regex : Regex} {matched : List Char} {marks marks' : Marks}
    (captures : regex.Captures before matched after marks marks') {tasks : List Task}
    (succeeds : Succeeds (before ++ matched) after tasks) :
    Succeeds before (matched ++ after) (.run regex :: tasks) := by
  induction captures generalizing tasks with
  | empty => exact .way (List.mem_singleton.mpr rfl) (by simpa using succeeds)
  | set member => exact .read member succeeds
  | @anchor condition before after _ holds =>
      have taken : move (placeAt before after) (.run (.anchor condition) :: tasks) =
          .go tasks none := if_pos holds
      refine .way ?_ (by simpa using succeeds)
      rw [List.nil_append, taken]
      exact List.mem_singleton.mpr rfl
  | seq _ _ first second =>
      refine .way (List.mem_singleton.mpr rfl) ?_
      rw [List.append_assoc]
      apply first
      apply second
      rwa [List.append_assoc]
  | first _ induction => exact .way List.mem_cons_self (induction succeeds)
  | second _ induction =>
      exact .way (List.mem_cons_of_mem _ List.mem_cons_self) (induction succeeds)
  | done enough => exact .way (mem_ways_rounds_of_done enough) (by simpa using succeeds)
  | @round low high greedy body _ _ _ _ _ _ _ allowed _ _ first second =>
      obtain ⟨task, member, again⟩ := exists_mem_ways_rounds greedy body tasks allowed
      refine .way member ?_
      rw [List.append_assoc]
      apply first
      apply again
      apply second
      rwa [List.append_assoc]
  | group _ induction =>
      refine .way (List.mem_singleton.mpr rfl) ?_
      apply induction
      exact .way (List.mem_singleton.mpr rfl) succeeds

/-- Tasks that are seen, but were not seen before, have all their ways seen as well, and
those that wait have a thread. -/
def Covers (place : Place) (old seen : List (List Task)) (threads : List Thread) : Prop :=
  ∀ tasks ∈ seen, tasks ∉ old →
    (∀ way ∈ (move place tasks).ways, way ∈ seen) ∧
      (move place tasks = .wait → ∃ thread ∈ threads, thread.tasks = tasks)

variable {place : Place}

theorem Covers.append {old middle last : List (List Task)} {threads threads' : List Thread}
    (grows : ∀ tasks ∈ middle, tasks ∈ last) (covers : Covers place old middle threads)
    (covers' : Covers place middle last threads') :
    Covers place old last (threads ++ threads') := by
  intro tasks member fresh
  by_cases known : tasks ∈ middle
  · obtain ⟨ways, waits⟩ := covers tasks known fresh
    refine ⟨fun way inside => grows way (ways way inside), fun waiting => ?_⟩
    obtain ⟨thread, listed, same⟩ := waits waiting
    exact ⟨thread, List.mem_append_left _ listed, same⟩
  · obtain ⟨ways, waits⟩ := covers' tasks member known
    refine ⟨ways, fun waiting => ?_⟩
    obtain ⟨thread, listed, same⟩ := waits waiting
    exact ⟨thread, List.mem_append_right _ listed, same⟩

theorem Covers.of_cons {old seen : List (List Task)} {threads : List Thread}
    (covers : Covers place (tasks :: old) seen threads)
    (ways : ∀ way ∈ (move place tasks).ways, way ∈ seen)
    (waits : move place tasks = .wait → ∃ thread ∈ threads, thread.tasks = tasks) :
    Covers place old seen threads := by
  intro other member fresh
  by_cases same : other = tasks
  · rw [same]
    exact ⟨ways, waits⟩
  · apply covers other member
    simp [same, fresh]

theorem covers_refl (place : Place) (seen : List (List Task)) (threads : List Thread) :
    Covers place seen seen threads := by
  intro tasks member fresh
  contradiction

theorem covers_follow (place : Place) (old : List (List Task)) (tasks : List Task)
    (marks : Marks) :
    tasks ∈ (follow place old tasks marks).seen ∧
      Covers place old (follow place old tasks marks).seen
        (follow place old tasks marks).threads := by
  fun_induction follow place old tasks marks with
  | case1 old tasks marks known => exact ⟨known, covers_refl place old []⟩
  | case2 old tasks marks fresh step =>
      refine ⟨List.mem_cons_self, (covers_refl place (tasks :: old) _).of_cons ?_ ?_⟩
      · simp [step, Move.ways]
      · intro _
        exact ⟨⟨tasks, marks⟩, List.mem_singleton.mpr rfl, rfl⟩
  | case3 old tasks marks fresh step =>
      refine ⟨List.mem_cons_self, (covers_refl place (tasks :: old) _).of_cons ?_ ?_⟩
      · simp [step, Move.ways]
      · simp [step]
  | case4 old tasks marks fresh next edge step bound one induction =>
      obtain ⟨entered, covers⟩ := induction
      refine ⟨one.grows tasks List.mem_cons_self, covers.of_cons ?_ ?_⟩
      · simpa [step, Move.ways] using entered
      · simp [step]
  | case5 old tasks marks fresh preferred other step bound one bound' two first second =>
      obtain ⟨entered, covers⟩ := first
      obtain ⟨entered', covers'⟩ := second
      refine ⟨two.grows tasks (one.grows tasks List.mem_cons_self),
        (Covers.append two.grows covers covers').of_cons ?_ ?_⟩
      · simpa [step, Move.ways] using ⟨two.grows preferred entered, entered'⟩
      · simp [step]

theorem exists_covers_followAll (place : Place) (old : List (List Task)) (threads : List Thread) :
    ∃ seen, (∀ tasks ∈ old, tasks ∈ seen) ∧ (∀ thread ∈ threads, thread.tasks ∈ seen) ∧
      Covers place old seen (followAll place old threads) := by
  induction threads generalizing old with
  | nil => exact ⟨old, fun _ known => known, by simp, covers_refl place old _⟩
  | cons first threads induction =>
      obtain ⟨entered, covers⟩ := covers_follow place old first.tasks first.marks
      let one := follow place old first.tasks first.marks
      obtain ⟨seen, grows, listed, covers'⟩ := induction one.seen
      refine ⟨seen, fun tasks known => grows tasks (one.grows tasks known), ?_,
        Covers.append grows covers covers'⟩
      exact List.forall_mem_cons.mpr ⟨grows _ entered, listed⟩

/-- The tasks are done, or read a character and then succeed. -/
def Ready (before after : List Char) (tasks : List Task) : Prop :=
  tasks = [] ∨ ∃ chars c rest later, after = c :: rest ∧ tasks = .run (.set chars) :: later ∧
    chars.contains c = true ∧ Succeeds (before ++ [c]) rest later

theorem exists_ready {seen : List (List Task)} {threads : List Thread}
    (covers : Covers (placeAt before after) [] seen threads) (member : tasks ∈ seen)
    (succeeds : Succeeds before after tasks) :
    ∃ thread ∈ threads, Ready before after thread.tasks := by
  induction succeeds with
  | done =>
      obtain ⟨thread, listed, same⟩ := (covers _ member List.not_mem_nil).2 rfl
      exact ⟨thread, listed, .inl same⟩
  | way inside _ induction =>
      exact induction covers ((covers _ member List.not_mem_nil).1 _ inside)
  | read contained succeeds _ =>
      obtain ⟨thread, listed, same⟩ := (covers _ member List.not_mem_nil).2 rfl
      exact ⟨thread, listed, .inr ⟨_, _, _, _, rfl, same, contained, succeeds⟩⟩

theorem cutAtDone_of_none {threads : List Thread} (unfinished : (cutAtDone threads).2 = none) :
    (cutAtDone threads).1 = threads ∧ ∀ thread ∈ threads, thread.tasks ≠ [] := by
  induction threads with
  | nil => simp [cutAtDone]
  | cons first threads induction =>
      obtain ⟨tasks, marks⟩ := first
      cases tasks with
      | nil => simp [cutAtDone] at unfinished
      | cons task tasks =>
          obtain ⟨kept, pending⟩ := induction unfinished
          simp only [cutAtDone, kept, List.mem_cons, forall_eq_or_imp]
          exact ⟨trivial, by simp, pending⟩

/-- A way to a match from the running threads, or from a new one, ends here or goes on
behind the next character. -/
theorem found_or_read {start : List Task} {threads : List Thread}
    (succeeds : ∃ thread ∈ running start threads none, Succeeds before after thread.tasks) :
    let cut := cutAtDone (followAll (placeAt before after) [] (running start threads none))
    cut.2.isSome = true ∨ ∃ c rest, after = c :: rest ∧
      ∃ thread ∈ cut.1.filterMap (read? c), Succeeds (before ++ [c]) rest thread.tasks := by
  intro cut
  obtain ⟨thread, listed, succeeds⟩ := succeeds
  obtain ⟨seen, -, entered, covers⟩ :=
    exists_covers_followAll (placeAt before after) [] (running start threads none)
  obtain ⟨next, followed, ready⟩ := exists_ready covers (entered thread listed) succeeds
  by_cases finished : cut.2.isSome = true
  · exact .inl finished
  · obtain ⟨kept, pending⟩ := cutAtDone_of_none (Option.not_isSome_iff_eq_none.mp finished)
    obtain ⟨chars, c, rest, later, rfl, shape, contained, succeeds⟩ :=
      ready.resolve_left (pending next followed)
    refine .inr ⟨c, rest, rfl, ⟨later, next.marks⟩, ?_, succeeds⟩
    refine List.mem_filterMap.mpr ⟨next, by rwa [kept], ?_⟩
    simp [read?, shape, contained]

/-- A match is known, or a running thread or one that starts later comes to one. -/
def Reachable (start : List Task) (threads : List Thread) (best : Option Marks)
    (before after : List Char) : Prop :=
  best.isSome = true ∨ (∃ thread ∈ threads, Succeeds before after thread.tasks) ∨
    ∃ skipped rest, after = skipped ++ rest ∧ Succeeds (before ++ skipped) rest start

theorem reachable_next {start : List Task} {threads : List Thread} {best : Option Marks}
    (reachable : Reachable start threads best before after) :
    let cut := cutAtDone (followAll (placeAt before after) [] (running start threads best))
    (cut.2.or best).isSome = true ∨ ∃ c rest, after = c :: rest ∧
      Reachable start (cut.1.filterMap (read? c)) (cut.2.or best) (before ++ [c]) rest := by
  intro cut
  cases best with
  | some found => exact .inl (by cases cut.2 <;> rfl)
  | none =>
      have goes_on : (∃ thread ∈ running start threads none,
          Succeeds before after thread.tasks) →
          (cut.2.or none).isSome = true ∨ ∃ c rest, after = c :: rest ∧
            Reachable start (cut.1.filterMap (read? c)) (cut.2.or none) (before ++ [c]) rest := by
        intro succeeds
        rcases found_or_read succeeds with found | ⟨c, rest, shape, later⟩
        · rw [Option.or_none]
          exact .inl found
        · exact .inr ⟨c, rest, shape, .inr (.inl later)⟩
      rcases reachable with known | ⟨thread, listed, succeeds⟩ | ⟨skipped, rest, shape, succeeds⟩
      · contradiction
      · exact goes_on ⟨thread, List.mem_append_left _ listed, succeeds⟩
      · cases skipped with
        | nil =>
            have entering : ⟨start, []⟩ ∈ running start threads none :=
              List.mem_append_right threads (List.mem_singleton.mpr rfl)
            rw [List.append_nil] at succeeds
            rw [List.nil_append] at shape
            subst shape
            exact goes_on ⟨_, entering, succeeds⟩
        | cons c skipped =>
            refine .inr ⟨c, skipped ++ rest, shape, .inr (.inr ⟨skipped, rest, rfl, ?_⟩)⟩
            simpa using succeeds

theorem isSome_runThreads {start : List Task} {threads : List Thread} {best : Option Marks}
    (reachable : Reachable start threads best before after) :
    (runThreads start threads best before.length before.getLast? after).isSome = true := by
  induction after generalizing before threads best with
  | nil =>
      rw [runThreads]
      rcases reachable_next reachable with found | ⟨c, rest, shape, -⟩
      · exact found
      · contradiction
  | cons c after induction =>
      have later : Reachable start ((cutAtDone (followAll (placeAt before (c :: after)) []
          (running start threads best))).1.filterMap (read? c)) ((cutAtDone (followAll
            (placeAt before (c :: after)) [] (running start threads best))).2.or best)
          (before ++ [c]) after := by
        rcases reachable_next reachable with found | ⟨c', rest, shape, later⟩
        · exact .inl found
        · obtain ⟨rfl, rfl⟩ := List.cons.inj shape
          exact later
      have found := induction later
      rw [List.length_append, List.getLast?_concat] at found
      rw [runThreads]
      exact found

/-- A search finds a match exactly if the pattern captures some part of the text. -/
theorem isSome_search?_iff {regex : Regex} {text : List Char} :
    (regex.search? text).isSome = true ↔ ∃ before matched after marks,
      text = before ++ matched ++ after ∧ regex.Captures before matched after [] marks := by
  constructor
  · intro found
    obtain ⟨marks, found⟩ := Option.isSome_iff_exists.mp found
    obtain ⟨before, matched, after, shape, captures⟩ := captures_of_search? found
    exact ⟨before, matched, after, marks, shape, captures⟩
  · rintro ⟨before, matched, after, marks, rfl, captures⟩
    have succeeds : Succeeds before (matched ++ after) [.run regex] :=
      succeeds_of_captures captures .done
    have reachable : Reachable [.run regex] [] none [] (before ++ matched ++ after) :=
      .inr (.inr ⟨before, matched ++ after, List.append_assoc _ _ _, succeeds⟩)
    exact isSome_runThreads reachable

end ColumnFilter.Regex
