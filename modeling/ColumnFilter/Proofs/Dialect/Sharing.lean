import ColumnFilter.Dialect.Registry

/-!
# Sharing the adapters of a registry

A registry is changed by one caller alone and asked by any number of callers at
once.  Their requests take two steps each, and the steps of different requests
come in any order; what keeps them together is that the second step looks again
before it makes an adapter.  So between two registrations of an id one adapter
is made for it at most, and everybody who asks for the id gets this one.
-/

namespace ColumnFilter

namespace DialectRegistry

theorem lookup_filter_ne {β : Type} (entries : List (DialectId × β)) (id other : DialectId) :
    (entries.filter fun entry => entry.1 != id).lookup other =
      if other = id then none else entries.lookup other := by
  induction entries with
  | nil => simp
  | cons entry entries induction =>
      obtain ⟨key, value⟩ := entry
      by_cases dropped : key = id
      · rw [List.filter_cons_of_neg (by simpa using dropped), induction, List.lookup_cons]
        by_cases same : other = id
        · simp only [same, if_true]
        · rw [if_neg same, if_neg same, beq_false_of_ne (dropped ▸ same)]
      · rw [List.filter_cons_of_pos (by simpa using dropped), List.lookup_cons, List.lookup_cons]
        by_cases same : other = key
        · simp [same, dropped]
        · rw [beq_false_of_ne same, induction]

theorem dialect?_register (registry : DialectRegistry) (id other : DialectId)
    (dialect : Dialect) :
    (registry.register id dialect).dialect? other =
      if other = id then some dialect else registry.dialect? other := by
  rw [register, dialect?, List.lookup_cons, lookup_filter_ne]
  by_cases same : other = id
  · simp [same]
  · simp [same, beq_false_of_ne same, dialect?]

theorem cached?_register (registry : DialectRegistry) (id other : DialectId)
    (dialect : Dialect) :
    (registry.register id dialect).cached? other =
      if other = id then none else registry.cached? other :=
  lookup_filter_ne registry.cached id other

/-- What the second step of a request can do. -/
inductive Obtains (registry : DialectRegistry) (id : DialectId) :
    DialectRegistry × Option Adapter → Prop where
  | found {adapter : Adapter} (cached : registry.cached? id = some adapter) :
      Obtains registry id (registry, some adapter)
  | unknown (missing : registry.cached? id = none) (unregistered : registry.dialect? id = none) :
      Obtains registry id (registry, none)
  | made {dialect : Dialect} (missing : registry.cached? id = none)
      (registered : registry.dialect? id = some dialect) :
      Obtains registry id
        ({ registry with
            cached := (id, ⟨dialect, registry.made⟩) :: registry.cached
            made := registry.made + 1 },
          some ⟨dialect, registry.made⟩)

theorem obtains_obtain (registry : DialectRegistry) (id : DialectId) :
    registry.Obtains id (registry.obtain id) := by
  fun_cases obtain registry id with
  | case1 adapter cached => exact .found cached
  | case2 missing unregistered => exact .unknown missing unregistered
  | case3 missing dialect registered adapter => exact .made missing registered

namespace Obtains

variable {registry next : DialectRegistry} {id : DialectId} {answer : Option Adapter}

theorem dialect?_eq (obtains : registry.Obtains id (next, answer)) (other : DialectId) :
    next.dialect? other = registry.dialect? other := by
  cases obtains <;> rfl

/-- What is answered is what the cache holds from then on. -/
theorem answer_eq (obtains : registry.Obtains id (next, answer)) :
    answer = next.cached? id := by
  cases obtains with
  | found cached => exact cached.symm
  | unknown missing _ => exact missing.symm
  | made missing registered => simp [cached?]

theorem cached?_eq_of_ne (obtains : registry.Obtains id (next, answer)) {other : DialectId}
    (different : other ≠ id) : next.cached? other = registry.cached? other := by
  cases obtains with
  | found cached => rfl
  | unknown missing _ => rfl
  | made missing registered => simp [cached?, List.lookup_cons, beq_false_of_ne different]

end Obtains

/-- What can be seen of one step of a shared registry.  Ids are as the callers
spell them. -/
inductive Event where
  | registered (id : String) (dialect : Dialect)
  | questioned (id : String) (answer : Bool)
  /-- The first step of a request found no adapter. -/
  | missed (id : String)
  /-- A request ended; `built` says that its adapter was made in this step. -/
  | returned (id : String) (answer : Option Adapter) (built : Bool)
  deriving DecidableEq, Repr

namespace Event

/-- Does the step register the id? -/
def registers (id : DialectId) : Event → Bool
  | .registered text _ => .ofString text == id
  | _ => false

/-- What a request for the id ended with. -/
def answer? (id : DialectId) : Event → Option (Option Adapter)
  | .returned text answer _ => if .ofString text = id then some answer else none
  | _ => none

/-- The adapter that was made in the step. -/
def built? : Event → Option Adapter
  | .returned _ answer built => if built then answer else none
  | _ => none

/-- The adapter that was made in the step for a request of the id. -/
def builtFor? (id : DialectId) (event : Event) : Option Adapter :=
  (event.answer? id).bind fun _ => event.built?

end Event

/-- A registry and the requests that are between their two steps. -/
structure Session where
  registry : DialectRegistry
  waiting : List String

/-- Nothing is registered, and nobody asks. -/
def Session.initial : Session := ⟨.empty, []⟩

/-- One step of a shared registry.  A registration needs the registry for itself, so
that no request is waiting; requests take their steps in any order. -/
inductive Step : Session → Event → Session → Prop where
  | register {registry : DialectRegistry} (text : String) (dialect : Dialect) :
      Step ⟨registry, []⟩ (.registered text dialect)
        ⟨registry.register (.ofString text) dialect, []⟩
  | contains {session : Session} (text : String) :
      Step session (.questioned text (session.registry.contains (.ofString text))) session
  | find {session : Session} {text : String} {adapter : Adapter}
      (cached : session.registry.cached? (.ofString text) = some adapter) :
      Step session (.returned text (some adapter) false) session
  | miss {registry : DialectRegistry} {waiting : List String} {text : String}
      (missing : registry.cached? (.ofString text) = none) :
      Step ⟨registry, waiting⟩ (.missed text) ⟨registry, text :: waiting⟩
  | finish {registry next : DialectRegistry} {waiting : List String} {text : String}
      {answer : Option Adapter} (waits : text ∈ waiting)
      (obtained : registry.obtain (.ofString text) = (next, answer)) :
      Step ⟨registry, waiting⟩ (.returned text answer (next.made != registry.made))
        ⟨next, waiting.erase text⟩

/-- Steps one after the other. -/
inductive Run : Session → List Event → Session → Prop where
  | nil {session : Session} : Run session [] session
  | cons {session next last : Session} {event : Event} {events : List Event}
      (first : Step session event next) (rest : Run next events last) :
      Run session (event :: events) last

/-- A request that nobody interrupts is a run of its own, and ends with what
`get` gives. -/
theorem run_get (session : Session) (text : String) :
    ∃ events built, Run session (events ++
      [.returned text (session.registry.get (.ofString text)).2 built])
      { session with registry := (session.registry.get (.ofString text)).1 } := by
  obtain ⟨registry, waiting⟩ := session
  unfold get
  cases cached : registry.cached? (.ofString text) with
  | some adapter => exact ⟨[], false, .cons (.find cached) .nil⟩
  | none =>
      have finished : Step ⟨registry, text :: waiting⟩ (.returned text _ _) _ :=
        .finish List.mem_cons_self rfl
      rw [List.erase_cons_head] at finished
      exact ⟨[.missed text], _, .cons (.miss cached) (.cons finished .nil)⟩

/-- Adapters in the cache are of the dialect that is registered. -/
def Current (registry : DialectRegistry) : Prop :=
  ∀ id adapter, registry.cached? id = some adapter → registry.dialect? id = some adapter.dialect

namespace Step

variable {session next : Session} {event : Event} {id : DialectId}

theorem current (step : Step session event next) (known : session.registry.Current) :
    next.registry.Current := by
  cases step with
  | contains text => exact known
  | find cached => exact known
  | miss missing => exact known
  | @register registry text dialect =>
      intro id adapter cached
      rw [cached?_register] at cached
      rw [dialect?_register]
      by_cases different : id = DialectId.ofString text
      · rw [if_pos different] at cached
        simp at cached
      · rw [if_neg different] at cached
        rw [if_neg different]
        exact known id adapter cached
  | @finish registry after waiting text answer waits obtained =>
      have obtains := registry.obtains_obtain (.ofString text)
      rw [obtained] at obtains
      cases obtains with
      | found cached => exact known
      | unknown missing unregistered => exact known
      | @made dialect missing registered =>
          intro id adapter cached
          simp only [cached?, List.lookup_cons] at cached
          cases same : id == DialectId.ofString text with
          | true =>
              obtain rfl := eq_of_beq same
              simp only [same, Option.some.injEq] at cached
              subst cached
              exact registered
          | false =>
              simp only [same] at cached
              exact known id adapter cached

theorem isSome_dialect?_iff (step : Step session event next) (id : DialectId) :
    (next.registry.dialect? id).isSome = true ↔
      (session.registry.dialect? id).isSome = true ∨ event.registers id = true := by
  cases step with
  | contains text => simp [Event.registers]
  | find cached => simp [Event.registers]
  | miss missing => simp [Event.registers]
  | register text dialect =>
      simp only [dialect?_register, Event.registers]
      by_cases same : id = .ofString text
      · simp [same]
      · simp [same, Ne.symm same]
  | @finish registry after waiting text answer waits obtained =>
      have obtains := registry.obtains_obtain (.ofString text)
      rw [obtained] at obtains
      simp [Event.registers, obtains.dialect?_eq]

/-- A step that does not register the id leaves its dialect alone. -/
theorem dialect?_eq (step : Step session event next) (quiet : event.registers id = false) :
    next.registry.dialect? id = session.registry.dialect? id := by
  cases step with
  | contains text => rfl
  | find cached => rfl
  | miss missing => rfl
  | register text dialect =>
      have different : id ≠ .ofString text := by
        rintro rfl
        simp [Event.registers] at quiet
      simp [dialect?_register, different]
  | @finish registry after waiting text answer waits obtained =>
      have obtains := registry.obtains_obtain (.ofString text)
      rw [obtained] at obtains
      exact obtains.dialect?_eq id

/-- What a step that does not register the id does to its place in the cache: nothing,
or it puts an adapter there that it has made for a request of the id. -/
theorem cached?_cases (step : Step session event next) (quiet : event.registers id = false) :
    (next.registry.cached? id = session.registry.cached? id ∧ event.builtFor? id = none) ∨
    (session.registry.cached? id = none ∧
      ∃ adapter, next.registry.cached? id = some adapter ∧
        event.builtFor? id = some adapter) := by
  have unbuilt : ∀ {event : Event}, event.built? = none → event.builtFor? id = none := by
    intro event missing
    simp [Event.builtFor?, missing]
  cases step with
  | contains text => exact .inl ⟨rfl, rfl⟩
  | find cached => exact .inl ⟨rfl, unbuilt rfl⟩
  | miss missing => exact .inl ⟨rfl, rfl⟩
  | register text dialect =>
      have different : id ≠ .ofString text := by
        rintro rfl
        simp [Event.registers] at quiet
      exact .inl ⟨by simp [cached?_register, different], rfl⟩
  | @finish registry after waiting text answer waits obtained =>
      have obtains := registry.obtains_obtain (.ofString text)
      rw [obtained] at obtains
      by_cases same : .ofString text = id
      · subst same
        cases obtains with
        | found cached => exact .inl ⟨rfl, unbuilt (by simp [Event.built?])⟩
        | unknown missing unregistered => exact .inl ⟨rfl, unbuilt (by simp [Event.built?])⟩
        | made missing registered =>
            refine .inr ⟨missing, _, List.lookup_cons_self, ?_⟩
            simp [Event.builtFor?, Event.answer?, Event.built?]
      · refine .inl ⟨obtains.cached?_eq_of_ne (Ne.symm same), ?_⟩
        simp [Event.builtFor?, Event.answer?, same]

/-- A request ends with what the cache holds for its id from then on. -/
theorem answer_eq {answer : Option Adapter} (step : Step session event next)
    (answered : event.answer? id = some answer) : answer = next.registry.cached? id := by
  cases step with
  | register text dialect => simp [Event.answer?] at answered
  | contains text => simp [Event.answer?] at answered
  | miss missing => simp [Event.answer?] at answered
  | find cached =>
      obtain ⟨rfl, rfl⟩ : _ = id ∧ _ = answer := by simpa [Event.answer?] using answered
      exact cached.symm
  | @finish registry after waiting text given waits obtained =>
      obtain ⟨rfl, rfl⟩ : .ofString text = id ∧ given = answer := by
        simpa [Event.answer?] using answered
      have obtains := registry.obtains_obtain (.ofString text)
      rw [obtained] at obtains
      exact obtains.answer_eq

/-- A request ends without an adapter only where no dialect is registered. -/
theorem dialect?_eq_none (step : Step session event next)
    (answered : event.answer? id = some none) : next.registry.dialect? id = none := by
  cases step with
  | register text dialect => simp [Event.answer?] at answered
  | contains text => simp [Event.answer?] at answered
  | miss missing => simp [Event.answer?] at answered
  | find cached => simp [Event.answer?] at answered
  | @finish registry after waiting text given waits obtained =>
      obtain ⟨rfl, rfl⟩ : .ofString text = id ∧ given = none := by
        simpa [Event.answer?] using answered
      have obtains := registry.obtains_obtain (.ofString text)
      rw [obtained] at obtains
      cases obtains with
      | unknown missing unregistered => exact unregistered

/-- Every adapter that is made gets the next serial number. -/
theorem made_cases (step : Step session event next) :
    (event.built? = none ∧ next.registry.made = session.registry.made) ∨
      ∃ adapter, event.built? = some adapter ∧ adapter.serial = session.registry.made ∧
        next.registry.made = session.registry.made + 1 := by
  cases step with
  | register text dialect => exact .inl ⟨rfl, rfl⟩
  | contains text => exact .inl ⟨rfl, rfl⟩
  | find cached => exact .inl ⟨rfl, rfl⟩
  | miss missing => exact .inl ⟨rfl, rfl⟩
  | @finish registry after waiting text answer waits obtained =>
      have obtains := registry.obtains_obtain (.ofString text)
      rw [obtained] at obtains
      cases obtains with
      | found cached => exact .inl ⟨by simp [Event.built?], rfl⟩
      | unknown missing unregistered => exact .inl ⟨by simp [Event.built?], rfl⟩
      | @made dialect missing registered =>
          exact .inr ⟨⟨dialect, registry.made⟩, by simp [Event.built?], rfl, rfl⟩

end Step

namespace Run

variable {session last : Session} {events : List Event} {id : DialectId}

theorem exists_of_append {front back : List Event} (run : Run session (front ++ back) last) :
    ∃ middle, Run session front middle ∧ Run middle back last := by
  induction front generalizing session with
  | nil => exact ⟨session, .nil, run⟩
  | cons event front induction =>
      cases run with
      | cons first rest =>
          obtain ⟨middle, before, after⟩ := induction rest
          exact ⟨middle, .cons first before, after⟩

theorem current (run : Run session events last) (known : session.registry.Current) :
    last.registry.Current := by
  induction run with
  | nil => exact known
  | cons first rest induction => exact induction (first.current known)

theorem isSome_dialect?_iff (run : Run session events last) (id : DialectId) :
    (last.registry.dialect? id).isSome = true ↔
      (session.registry.dialect? id).isSome = true ∨
        ∃ event ∈ events, event.registers id = true := by
  induction run with
  | nil => simp
  | cons first rest induction =>
      rw [induction, first.isSome_dialect?_iff id]
      simp only [List.mem_cons, exists_eq_or_imp, or_assoc]

theorem pairwise_serial (run : Run session events last) :
    (∀ adapter ∈ events.filterMap Event.built?, session.registry.made ≤ adapter.serial) ∧
      (events.filterMap Event.built?).Pairwise fun first second =>
        first.serial < second.serial := by
  induction run with
  | nil => simp
  | cons first rest induction =>
      obtain ⟨above, ordered⟩ := induction
      rcases first.made_cases with ⟨unbuilt, same⟩ | ⟨adapter, built, serial, next⟩
      · rw [List.filterMap_cons_none unbuilt, ← same]
        exact ⟨above, ordered⟩
      · rw [List.filterMap_cons_some built]
        refine ⟨?_, List.pairwise_cons.mpr ⟨?_, ordered⟩⟩
        · intro other member
          rcases List.mem_cons.mp member with rfl | later
          · exact Nat.le_of_eq serial.symm
          · have := above other later
            omega
        · intro other later
          have := above other later
          omega

/-- While the id is not registered, its dialect stays, and what has come into the
cache stays there. -/
theorem quiet (run : Run session events last)
    (quiet : ∀ event ∈ events, event.registers id = false) :
    last.registry.dialect? id = session.registry.dialect? id ∧
      ∀ adapter, session.registry.cached? id = some adapter →
        last.registry.cached? id = some adapter := by
  induction run with
  | nil => exact ⟨rfl, fun _ cached => cached⟩
  | cons first rest induction =>
      have here := quiet _ List.mem_cons_self
      obtain ⟨dialect, kept⟩ := induction fun event later =>
        quiet event (List.mem_cons_of_mem _ later)
      refine ⟨dialect.trans (first.dialect?_eq here), fun adapter cached => ?_⟩
      apply kept
      rcases first.cached?_cases here with ⟨same, -⟩ | ⟨missing, -⟩
      · rw [same, cached]
      · rw [missing] at cached
        contradiction

/-- While the id is not registered, every request for it ends with what is cached in
the end. -/
theorem answer_eq (run : Run session events last) (known : session.registry.Current)
    (quiet : ∀ event ∈ events, event.registers id = false) :
    ∀ answer ∈ events.filterMap (Event.answer? id), answer = last.registry.cached? id := by
  induction run with
  | nil => simp
  | @cons session next last event events first rest induction =>
      have later : ∀ event ∈ events, event.registers id = false := fun event member =>
        quiet event (List.mem_cons_of_mem _ member)
      intro answer member
      obtain ⟨asked, listed, answered⟩ := List.mem_filterMap.mp member
      rcases List.mem_cons.mp listed with rfl | behind
      · have cached := first.answer_eq answered
        cases answer with
        | some adapter => exact ((rest.quiet later).2 adapter cached.symm).symm
        | none =>
            have unregistered : last.registry.dialect? id = none := by
              rw [(rest.quiet later).1, first.dialect?_eq_none answered]
            cases present : last.registry.cached? id with
            | none => rfl
            | some adapter =>
                have registered := (rest.current (first.current known)) id adapter present
                rw [unregistered] at registered
                contradiction
      · exact induction (first.current known) later answer
          (List.mem_filterMap.mpr ⟨asked, behind, answered⟩)

/-- While the id is not registered, the one adapter that is made for it is the one
that the cache did not hold before. -/
theorem builtFor_eq (run : Run session events last)
    (quiet : ∀ event ∈ events, event.registers id = false) :
    events.filterMap (Event.builtFor? id) =
      match session.registry.cached? id with
      | some _ => []
      | none => (last.registry.cached? id).toList := by
  induction run with
  | nil => split <;> simp [*]
  | @cons session next last event events first rest induction =>
      have later : ∀ event ∈ events, event.registers id = false := fun event member =>
        quiet event (List.mem_cons_of_mem _ member)
      have behind := induction later
      rcases first.cached?_cases (quiet _ List.mem_cons_self) with
        ⟨same, unbuilt⟩ | ⟨missing, adapter, cached, built⟩
      · rw [List.filterMap_cons_none unbuilt, behind, same]
      · rw [List.filterMap_cons_some built, behind, missing, cached,
          (rest.quiet later).2 adapter cached]
        rfl

end Run

/-- The last of the events that register an id. -/
private theorem exists_last_registers {events : List Event} {id : DialectId}
    (registered : ∃ event ∈ events, event.registers id = true) :
    ∃ before event after, events = before ++ event :: after ∧ event.registers id = true ∧
      ∀ later ∈ after, later.registers id = false := by
  induction events with
  | nil => simp at registered
  | cons event events induction =>
      by_cases later : ∃ event ∈ events, event.registers id = true
      · obtain ⟨before, found, after, rfl, registers, silent⟩ := induction later
        exact ⟨event :: before, found, after, rfl, registers, silent⟩
      · have here : event.registers id = true := by
          obtain ⟨found, member, registers⟩ := registered
          rcases List.mem_cons.mp member with rfl | behind
          · exact registers
          · exact absurd ⟨found, behind, registers⟩ later
        refine ⟨[], event, events, rfl, here, fun other member => ?_⟩
        exact Bool.eq_false_iff.mpr fun found => later ⟨other, member, found⟩

/-- What callers of a shared registry can rely on after a run. -/
structure Sharing (events : List Event) (session : Session) : Prop where
  /-- A request ends with an adapter exactly when its id was registered before it
  ended, however the id is spelled. -/
  succeeds : ∀ before text answer built after,
    events = before ++ .returned text answer built :: after →
      (answer.isSome = true ↔ ∃ event ∈ before, event.registers (.ofString text) = true)
  /-- An id is said to be known exactly when it was registered before. -/
  knows : ∀ before text answer after,
    events = before ++ .questioned text answer :: after →
      (answer = true ↔ ∃ event ∈ before, event.registers (.ofString text) = true)
  /-- A request that waits can always end. -/
  ends : ∀ text ∈ session.waiting, ∃ answer built next,
    Step session (.returned text answer built) next
  /-- An adapter in the cache was made after the latest registration of its id, and of
  the dialect that was registered there. -/
  latest : ∀ id adapter, session.registry.cached? id = some adapter →
    ∃ before text after,
      events = before ++ .registered text adapter.dialect :: after ∧ .ofString text = id ∧
        (∀ event ∈ after, event.registers id = false) ∧
          adapter ∈ after.filterMap (Event.builtFor? id)
  /-- Between two registrations of an id all requests for it end alike, and one adapter
  is made for it at most. -/
  alike : ∀ before between after id, events = before ++ between ++ after →
    (∀ event ∈ between, event.registers id = false) →
      (∀ first ∈ between.filterMap (Event.answer? id),
        ∀ second ∈ between.filterMap (Event.answer? id), first = second) ∧
      (between.filterMap (Event.builtFor? id)).length ≤ 1
  /-- A registration leaves the adapters of other ids in the cache. -/
  untouched : ∀ text dialect next, Step session (.registered text dialect) next →
    ∀ id ≠ .ofString text, next.registry.cached? id = session.registry.cached? id
  /-- No two adapters that were made are the same instance. -/
  apart : (events.filterMap Event.built?).Pairwise fun first second =>
    first.serial ≠ second.serial

theorem current_empty : empty.Current := by
  intro id adapter cached
  simp [empty, cached?] at cached

namespace Run

variable {events before between after : List Event} {session : Session} {id : DialectId}

/-- An id has a dialect exactly when it was registered. -/
theorem isSome_dialect?_initial_iff (run : Run .initial events session) (id : DialectId) :
    (session.registry.dialect? id).isSome = true ↔
      ∃ event ∈ events, event.registers id = true := by
  have unregistered : (Session.initial.registry.dialect? id).isSome = false := rfl
  simpa [unregistered] using run.isSome_dialect?_iff id

/-- A request gets an adapter exactly when its id was registered before. -/
theorem isSome_answer_iff {text : String} {answer : Option Adapter} {built : Bool}
    (run : Run .initial (before ++ .returned text answer built :: after) session) :
    answer.isSome = true ↔ ∃ event ∈ before, event.registers (.ofString text) = true := by
  obtain ⟨middle, front, back⟩ := run.exists_of_append
  cases back with
  | @cons _ next _ _ _ first rest =>
      have answered : Event.answer? (.ofString text) (.returned text answer built) =
          some answer := by simp [Event.answer?]
      have registered : next.registry.dialect? (.ofString text) =
          middle.registry.dialect? (.ofString text) := first.dialect?_eq rfl
      rw [← front.isSome_dialect?_initial_iff, ← registered]
      have cached := first.answer_eq answered
      cases answer with
      | none => simp [first.dialect?_eq_none answered]
      | some adapter =>
          have current := first.current (front.current current_empty)
          simp [current _ adapter cached.symm]

theorem contains_iff {text : String} {answer : Bool}
    (run : Run .initial (before ++ .questioned text answer :: after) session) :
    answer = true ↔ ∃ event ∈ before, event.registers (.ofString text) = true := by
  obtain ⟨middle, front, back⟩ := run.exists_of_append
  rw [← front.isSome_dialect?_initial_iff]
  cases back with
  | cons first rest =>
      cases first with
      | contains text => rfl

/-- An adapter in the cache was made after the latest registration of its id, and of
the dialect that was registered there. -/
theorem exists_latest {adapter : Adapter} (run : Run .initial events session)
    (cached : session.registry.cached? id = some adapter) :
    ∃ before text after,
      events = before ++ .registered text adapter.dialect :: after ∧ .ofString text = id ∧
        (∀ event ∈ after, event.registers id = false) ∧
          adapter ∈ after.filterMap (Event.builtFor? id) := by
  have dialect := run.current current_empty id adapter cached
  have registered : ∃ event ∈ events, event.registers id = true :=
    (run.isSome_dialect?_initial_iff id).mp (by rw [dialect]; rfl)
  obtain ⟨before, event, after, rfl, registers, quiet⟩ := exists_last_registers registered
  obtain ⟨middle, front, back⟩ := run.exists_of_append
  cases back with
  | cons first rest =>
      obtain ⟨kept, -⟩ := rest.quiet quiet
      have built := rest.builtFor_eq quiet
      cases first with
      | @register registry text named =>
          obtain rfl : .ofString text = id := by simpa [Event.registers] using registers
          simp only [dialect?_register, if_true, dialect, Option.some.injEq] at kept
          simp only [cached?_register, if_true, cached] at built
          subst kept
          exact ⟨before, text, after, rfl, rfl, quiet, by simp [built]⟩
      | contains text => simp [Event.registers] at registers
      | find cached => simp [Event.registers] at registers
      | miss missing => simp [Event.registers] at registers
      | finish waits obtained => simp [Event.registers] at registers

/-- Between two registrations of an id all requests for it end alike, and one adapter
is made for it at most. -/
theorem answers_between (run : Run .initial (before ++ between ++ after) session)
    (quiet : ∀ event ∈ between, event.registers id = false) :
    (∀ first ∈ between.filterMap (Event.answer? id),
      ∀ second ∈ between.filterMap (Event.answer? id), first = second) ∧
    (between.filterMap (Event.builtFor? id)).length ≤ 1 := by
  rw [List.append_assoc] at run
  obtain ⟨start, front, back⟩ := run.exists_of_append
  obtain ⟨stop, middle, -⟩ := back.exists_of_append
  constructor
  · have same := middle.answer_eq (front.current current_empty) quiet
    intro first member second member'
    rw [same first member, same second member']
  · rw [middle.builtFor_eq quiet]
    split
    · simp
    · cases stop.registry.cached? id <;> simp

end Run

/-- However the steps of requests interleave, callers share adapters as one at a
time would. -/
theorem Run.sharing {events : List Event} {session : Session}
    (run : Run .initial events session) : Sharing events session where
  succeeds := by
    rintro before text answer built after rfl
    exact run.isSome_answer_iff
  knows := by
    rintro before text answer after rfl
    exact run.contains_iff
  ends := by
    obtain ⟨registry, waiting⟩ := session
    intro text waits
    exact ⟨_, _, _, .finish waits rfl⟩
  latest id adapter cached := run.exists_latest cached
  alike := by
    rintro before between after id rfl quiet
    exact run.answers_between quiet
  untouched := by
    intro text dialect next step id different
    cases step with
    | register _ _ => simp [cached?_register, different]
  apart := run.pairwise_serial.2.imp fun before => Nat.ne_of_lt before

/-- Two requests miss the cache before either of them makes an adapter; they get one
instance, and a later one of another dialect after a registration. -/
theorem Run.sharing_interleaved :
    let first : Adapter := ⟨.mySql, 0⟩
    let second : Adapter := ⟨.sqlServer, 1⟩
    let events : List Event :=
      [.registered " MySQL" .mySql, .missed "mysql", .missed "MYSQL ",
        .returned "MYSQL " (some first) true, .returned "mysql" (some first) false,
        .registered "pg" .postgres, .returned "MySql" (some first) false,
        .registered "mysql" .sqlServer, .missed "mysql", .returned "mysql" (some second) true]
    ∃ session, Run .initial events session ∧ Sharing events session := by
  intro first second events
  have run : Run .initial events _ :=
    .cons (.register _ _) <| .cons (.miss (by decide +kernel)) <|
      .cons (.miss (by decide +kernel)) <|
      .cons (.finish (by decide) rfl) <| .cons (.finish (by decide) rfl) <|
      .cons (.register _ _) <| .cons (.find (by decide +kernel)) <|
      .cons (.register _ _) <| .cons (.miss (by decide +kernel)) <|
      .cons (.finish (by decide) rfl) .nil
  exact ⟨_, run, run.sharing⟩

end DialectRegistry

end ColumnFilter
