import ColumnFilter.Proofs.Chain.Acceptor
import ColumnFilter.Proofs.Chain.Answers
import ColumnFilter.Proofs.Chain.Ordering
import ColumnFilter.Proofs.Text.Lowering

/-!
# Filters that take every segment

A filter of the kind of words takes every segment that is shown to it.  It is used
whether it is active or not, whatever the spelling of its kind, and nobody behind it is
asked.  A chain without such a filter goes on as if there were one, with the usual
options, behind all others.
-/

namespace ColumnFilter

namespace StrategyRegistry

theorem standard_entries : standard.entries =
    [("default", .words), ("exact", .exact), ("range", .range), ("regex", .regex),
      ("substring", .substring)] := by
  decide +kernel

theorem kind?_standard_eq_words_iff {kind : String} :
    standard.kind? kind = some .words ↔ Text.lowercase kind = StrategyKind.words.name := by
  rw [kind?, standard_entries]
  constructor
  · intro found
    obtain ⟨front, behind, shape, -⟩ := List.lookup_eq_some_iff.mp found
    have member : (Text.lowercase kind, StrategyKind.words) ∈
        front ++ (Text.lowercase kind, StrategyKind.words) :: behind := by simp
    rw [← shape] at member
    simpa [StrategyKind.name] using member
  · intro named
    rw [named]
    rfl

/-- The two notions of case under which kinds are compared agree about the name of words. -/
theorem sameAscii_words_iff {kind : String} :
    Chain.sameAscii kind StrategyKind.words.name = true ↔ standard.kind? kind = some .words := by
  have checked : StrategyKind.words.name.toList.all (decide <| Text.LoweredAscii ·) = true := by
    decide
  have lowered : ∀ d ∈ StrategyKind.words.name.toList, Text.LoweredAscii d :=
    fun d member => of_decide_eq_true (List.all_eq_true.mp checked d member)
  have small : StrategyKind.words.name.toList.map Char.toLower =
      StrategyKind.words.name.toList := by decide
  rw [kind?_standard_eq_words_iff, Chain.sameAscii, beq_iff_eq, small,
    ← Text.lowercaseFrom_eq_iff lowered [], Text.lowercase, ← String.toList_inj,
    String.toList_ofList]

end StrategyRegistry

/-- The filter takes every segment. -/
def ChainEntry.CatchesAll (entry : ChainEntry) : Prop := entry.strategy.kind = .words

namespace Chain

open ChainEntry (ofPriority)

theorem isUsed_iff {descriptor : Descriptor} :
    isUsed descriptor = true ↔
      descriptor.active = true ∨
        StrategyRegistry.standard.kind? descriptor.kind = some .words := by
  rw [isUsed, Bool.or_eq_true, StrategyRegistry.sameAscii_words_iff]

variable {target : Target} {segment : Segment} {registry : StrategyRegistry}
  {filters others : List (String × Descriptor)} {entries behind : List ChainEntry}

/-- Every filter that is used has its entry. -/
theorem exists_mem_of_isUsed (made : entriesOf registry filters = .ok entries)
    {filter : String × Descriptor} (listed : filter ∈ filters) (used : isUsed filter.2 = true) :
    ∃ strategy, registry.create filter.1 filter.2.kind filter.2.options = .ok strategy ∧
      ⟨filter.1, filter.2.priority, strategy⟩ ∈ entries := by
  induction filters generalizing entries with
  | nil => contradiction
  | cons other filters induction =>
      rcases entriesOf_cons made with
        ⟨unused, rest⟩ | ⟨-, strategy, behind, created, rest, rfl⟩
      · rcases List.mem_cons.mp listed with rfl | later
        · rw [used] at unused
          contradiction
        · exact induction rest later
      · rcases List.mem_cons.mp listed with rfl | later
        · exact ⟨strategy, created, List.mem_cons_self⟩
        · obtain ⟨strategy', created', member⟩ := induction rest later
          exact ⟨strategy', created', List.mem_cons_of_mem _ member⟩

theorem entriesOf_append (made : entriesOf registry filters = .ok entries)
    (made' : entriesOf registry others = .ok behind) :
    entriesOf registry (filters ++ others) = .ok (entries ++ behind) := by
  induction filters generalizing entries with
  | nil =>
      obtain rfl : [] = entries := Except.ok.inj made
      exact made'
  | cons filter filters induction =>
      obtain ⟨name, descriptor⟩ := filter
      rcases entriesOf_cons made with
        ⟨unused, rest⟩ | ⟨used, strategy, later, created, rest, rfl⟩
      · simp only at unused
        rw [List.cons_append, entriesOf, unused, induction rest]
        rfl
      · simp only at used created
        rw [List.cons_append, entriesOf, used, created, induction rest]
        rfl

/-- An entry of the lowest rank that is declared last comes last. -/
theorem sorted_append_singleton {entry : ChainEntry}
    (last : ∀ other ∈ entries, other.priority ≤ entry.priority) :
    sorted (entries ++ [entry]) = sorted entries ++ [entry] := by
  apply ChainEntry.eq_of_pairwise (pairwise_sorted _)
  · refine List.pairwise_append.mpr ⟨pairwise_sorted entries, List.pairwise_singleton _ _, ?_⟩
    intro other member entry' single
    rw [List.mem_singleton.mp single]
    exact last other (mem_sorted.mp member)
  · intro priority
    have parted := ofPriority_sorted priority entries
    rw [ofPriority_sorted]
    unfold ofPriority at parted ⊢
    rw [List.filter_append, List.filter_append, parted]

/-! ### Behind a filter that takes every segment -/

theorem firstAccepted_cons_of_catchesAll {entry : ChainEntry} (catches : entry.CatchesAll)
    (behind : List ChainEntry) :
    firstAccepted target segment (entry :: behind) = firstAccepted target segment [entry] := by
  obtain ⟨name, priority, strategy⟩ := entry
  cases strategy with
  | words options => rfl
  | _ => contradiction

/-- Two lists of entries behind others make no difference if they make none by themselves. -/
theorem firstAccepted_append_congr {first second : List ChainEntry}
    (same : firstAccepted target segment first = firstAccepted target segment second)
    (front : List ChainEntry) :
    firstAccepted target segment (front ++ first) =
      firstAccepted target segment (front ++ second) := by
  induction front with
  | nil => exact same
  | cons entry front induction =>
      rw [List.cons_append, List.cons_append, firstAccepted, firstAccepted, induction]

theorem resolve_eq_of_catchesAll {chain : Chain} {before after : List ChainEntry}
    {entry : ChainEntry} (catches : entry.CatchesAll)
    (shape : chain.entries = before ++ entry :: after) :
    (⟨before ++ [entry]⟩ : Chain).resolve target segment = chain.resolve target segment := by
  rw [resolve, resolve, shape]
  exact firstAccepted_append_congr (firstAccepted_cons_of_catchesAll catches after).symm before

theorem firstAccepted_standard (name : String) (priority : Int64) :
    firstAccepted target segment [⟨name, priority, .words .standard⟩] =
      firstAccepted target segment [] := rfl

variable {settings : Settings} {chain : Chain}

/-- A filter of the kind of words is kept, be it active or not. -/
theorem exists_mem_of_words (built : build .standard filters = .ok chain)
    {filter : String × Descriptor} (listed : filter ∈ filters)
    (named : StrategyRegistry.standard.kind? filter.2.kind = some .words) :
    ∃ entry ∈ chain.entries, entry.name = filter.1 ∧ entry.priority = filter.2.priority ∧
      StrategyRegistry.standard.create filter.1 filter.2.kind filter.2.options =
        .ok entry.strategy ∧
      entry.CatchesAll := by
  obtain ⟨entries, made, rfl⟩ := Except.exists_of_map_eq_ok built
  obtain ⟨strategy, created, member⟩ :=
    exists_mem_of_isUsed made listed (isUsed_iff.mpr (.inr named))
  refine ⟨_, mem_sorted.mpr member, rfl, rfl, created, ?_⟩
  rw [StrategyRegistry.create, named] at created
  exact StrategyKind.kind_of_create (Except.eq_ok_of_mapError_eq_ok created)

/-- With a filter for words of the lowest rank that is declared last, the chain has one more
entry, and it is the one that the chain has for what nobody takes. -/
theorem build_append_words (built : build .standard filters = .ok chain) {kind : String}
    (named : StrategyRegistry.standard.kind? kind = some .words) {priority : Int64}
    (lowest : ∀ entry ∈ chain.entries, entry.priority ≤ priority) (name : String)
    (active : Bool) :
    build .standard (filters ++ [(name, ⟨kind, priority, active, []⟩)]) =
      .ok ⟨chain.entries ++ [⟨name, priority, .words .standard⟩]⟩ := by
  obtain ⟨entries, made, rfl⟩ := Except.exists_of_map_eq_ok built
  have used : isUsed ⟨kind, priority, active, []⟩ = true := isUsed_iff.mpr (.inr named)
  have created : StrategyRegistry.standard.create name kind [] = .ok (.words .standard) := by
    rw [StrategyRegistry.create, named]
    rfl
  have single : entriesOf .standard [(name, ⟨kind, priority, active, []⟩)] =
      .ok [⟨name, priority, .words .standard⟩] := by
    rw [entriesOf, used, created]
    rfl
  rw [build, entriesOf_append made single, ← sorted_append_singleton fun other member =>
    lowest other (mem_sorted.mpr member)]
  rfl

theorem resolve_append_standard (chain : Chain) (target : Target) (segment : Segment)
    (name : String) (priority : Int64) :
    (⟨chain.entries ++ [⟨name, priority, .words .standard⟩]⟩ : Chain).resolve target segment =
      chain.resolve target segment := by
  rw [resolve, resolve, firstAccepted_append_congr (firstAccepted_standard name priority),
    List.append_nil]

/-! ### The strategy that takes a segment -/

/-- The strategies that are shown a segment, as long as none has taken it. -/
def strategies (chain : Chain) : List Strategy :=
  chain.entries.map ChainEntry.strategy ++ [.words .standard]

/-- The acceptor makes the fragment, and all strategies in front of it leave the segment
alone. -/
structure Takes (chain : Chain) (target : Target) (segment : Segment) (acceptor : Strategy)
    (fragment : Fragment) : Prop where
  first : ∃ before after, chain.strategies = before ++ acceptor :: after ∧
    ∀ strategy ∈ before, strategy.passes target segment = true
  accepts : (acceptor.accept target segment).result = .ok (some fragment)

theorem exists_takes (chain : Chain) (steady : target.Steady) {fragment : Fragment}
    (resolved : (chain.resolve target segment).result = .ok fragment) :
    ∃ acceptor, chain.Takes target segment acceptor fragment := by
  obtain ⟨entries⟩ := chain
  simp only [resolve] at resolved
  induction entries with
  | nil =>
      refine ⟨.words .standard, ⟨[], [], rfl, by simp⟩, ?_⟩
      rw [← Except.ok.inj resolved]
      rfl
  | cons entry entries induction =>
      rw [result_firstAccepted_cons steady] at resolved
      cases accepted : (entry.strategy.accept target segment).result with
      | error problem =>
          rw [accepted] at resolved
          contradiction
      | ok found =>
          rw [accepted] at resolved
          cases found with
          | some other =>
              obtain rfl : other = fragment := Except.ok.inj resolved
              exact ⟨entry.strategy, ⟨[], _, rfl, by simp⟩, accepted⟩
          | none =>
              obtain ⟨acceptor, ⟨before, after, shape, passed⟩, accepts⟩ := induction resolved
              have passes : entry.strategy.passes target segment = true := by
                simp [Strategy.passes, accepted]
              exact ⟨acceptor, ⟨entry.strategy :: before, after,
                congrArg (entry.strategy :: ·) shape,
                List.forall_mem_cons.mpr ⟨passes, passed⟩⟩, accepts⟩

/-- Some strategy takes the segment, unless the database could not be asked about the last
pattern that was tried. -/
theorem resolve_outcome (complete : ∀ entry ∈ chain.entries, entry.strategy.Complete)
    (steady : target.Steady) (segment : Segment) :
    ∃ patterns : List String,
      (chain.resolve target segment).probes = patterns.map target.dialect.probe ∧
      (Reached (target.answers [] patterns) ∧
          (∃ acceptor fragment, chain.Takes target segment acceptor fragment ∧
            (chain.resolve target segment).result = .ok fragment) ∨
        ∃ reason answered,
          (chain.resolve target segment).result =
            .error (.validation (.unavailable ⟨target.dialect, reason⟩)) ∧
          target.answers [] patterns = answered ++ [.unavailable reason] ∧
          Reached answered) := by
  have heeds : (chain.resolve target segment).Heeds target := heeds_firstAccepted complete
  obtain ⟨patterns, tried, -, ends⟩ := heeds []
  refine ⟨patterns, tried, ?_⟩
  rcases ends.value_or_error with ⟨⟨fragment, resolved⟩, reached⟩ | failed
  · obtain ⟨acceptor, takes⟩ := chain.exists_takes steady resolved
    exact .inl ⟨reached, acceptor, fragment, takes, resolved⟩
  · exact .inr failed

/-- What the filters for words come to in the chain of some settings. -/
structure Covers (settings : Settings) (chain : Chain) : Prop where
  /-- They are kept, active or not. -/
  kept : ∀ filter ∈ settings.filters,
    StrategyRegistry.standard.kind? filter.2.kind = some .words →
      ∃ entry ∈ chain.entries, entry.name = filter.1 ∧ entry.priority = filter.2.priority ∧
        StrategyRegistry.standard.create filter.1 filter.2.kind filter.2.options =
          .ok entry.strategy ∧
        entry.CatchesAll
  /-- Nothing that stands behind one matters. -/
  last : ∀ before entry after, chain.entries = before ++ entry :: after → entry.CatchesAll →
    ∀ target segment, (⟨before ++ [entry]⟩ : Chain).resolve target segment =
      chain.resolve target segment
  /-- One without options that is added behind all others changes nothing. -/
  extended : ∀ name kind priority active, StrategyRegistry.standard.kind? kind = some .words →
    (∀ entry ∈ chain.entries, entry.priority ≤ priority) →
      ∃ extended : Chain,
        build .standard (settings.filters ++ [(name, ⟨kind, priority, active, []⟩)]) =
          .ok extended ∧
        extended.entries = chain.entries ++ [⟨name, priority, .words .standard⟩] ∧
        ∀ target segment, extended.resolve target segment = chain.resolve target segment
  /-- Every segment is taken, unless the database could not be asked. -/
  taken : ∀ target : Target, target.Steady → ∀ segment, ∃ patterns : List String,
    (chain.resolve target segment).probes = patterns.map target.dialect.probe ∧
    (Reached (target.answers [] patterns) ∧
        (∃ acceptor fragment, chain.Takes target segment acceptor fragment ∧
          (chain.resolve target segment).result = .ok fragment) ∨
      ∃ reason answered,
        (chain.resolve target segment).result =
          .error (.validation (.unavailable ⟨target.dialect, reason⟩)) ∧
        target.answers [] patterns = answered ++ [.unavailable reason] ∧
        Reached answered)

/-- Behind all filters the chain has words of its own, which cannot be told from a filter for
words without options. -/
theorem resolve_catchesAll (valid : settings.NumbersValid .standard)
    (built : build .standard settings.filters = .ok chain) : Covers settings chain where
  kept _ := exists_mem_of_words built
  last _ _ _ shape catches _ _ := resolve_eq_of_catchesAll catches shape
  extended name _ priority active named lowest :=
    ⟨_, build_append_words built named lowest name active, rfl,
      fun target segment => chain.resolve_append_standard target segment name priority⟩
  taken _ steady segment := resolve_outcome (complete_of_build valid built) steady segment

/-- Words in odd spelling, switched off: the filter behind them is not asked, and a pattern
that the database rejects is taken as words. -/
theorem resolve_catchesAll_inactive :
    let settings : Settings := { Settings.standard with
      filters := [("last", .ofKind "exact" 30), ("plain", ⟨"DeFault", 20, false, []⟩),
        ("first", .ofKind "regex" 10)] }
    let live : Connection := ⟨"mysql", fun _ => ProbeAnswer.rejected "syntax"⟩
    let target : Target := ⟨"name", .mySql, some live⟩
    let first : ChainEntry := ⟨"first", 10, .regex (.standard "/")⟩
    let plain : ChainEntry := ⟨"plain", 20, .words .standard⟩
    let last : ChainEntry := ⟨"last", 30, .exact (.standard "\"")⟩
    settings.NumbersValid .standard ∧
      build .standard settings.filters = .ok ⟨[first, plain, last]⟩ ∧
      StrategyRegistry.standard.kind? "DeFault" = some .words ∧ plain.CatchesAll ∧
      target.Steady ∧
      (∀ segment, (⟨[first, plain]⟩ : Chain).resolve target segment =
        (⟨[first, plain, last]⟩ : Chain).resolve target segment) ∧
      (∃ extended : Chain,
        build .standard (settings.filters ++ [("more", ⟨"DEFAULT", 30, false, []⟩)]) =
          .ok extended ∧
        extended.names = ["first", "plain", "last", "more"] ∧
        ∀ segment, extended.resolve target segment =
          (⟨[first, plain, last]⟩ : Chain).resolve target segment) ∧
      ∃ fragment, ((⟨[first, plain, last]⟩ : Chain).resolve target ⟨"/a/", false⟩).run [] =
        (.ok fragment, [Dialect.mySql.probe "a"]) := by
  intro settings live target first plain last
  have valid : settings.NumbersValid .standard := by
    apply Settings.numbersValid_of_options_nil
    decide +kernel
  have built : build .standard settings.filters = .ok ⟨[first, plain, last]⟩ := rfl
  have steady : target.Steady := by
    rintro connection ⟨⟩ pattern earlier
    rfl
  have named : StrategyRegistry.standard.kind? "DEFAULT" = some .words := by decide +kernel
  have lowest : ∀ entry ∈ [first, plain, last], entry.priority ≤ 30 := by
    simp only [List.forall_mem_cons]
    exact ⟨by decide, by decide, by decide, by simp⟩
  have covers := resolve_catchesAll valid built
  obtain ⟨extended, built', shape, same⟩ :=
    covers.extended "more" "DEFAULT" 30 false named lowest
  refine ⟨valid, built, by decide +kernel, rfl, steady,
    covers.last [first] plain [last] rfl rfl target, ⟨extended, built', ?_, same target⟩, ?_⟩
  · rw [names, shape]
    rfl
  · let run := (⟨[first, plain, last]⟩ : Chain).resolve target ⟨"/a/", false⟩
    have made : run.probes = [Dialect.mySql.probe "a"] := by decide +kernel
    have given : run.result.isOk = true := by decide +kernel
    obtain ⟨-, -, ⟨-, acceptor, fragment, -, resolved⟩ | ⟨reason, -, failed, -⟩⟩ :=
      covers.taken target steady ⟨"/a/", false⟩
    · exact ⟨fragment, Prod.ext resolved made⟩
    · rw [failed] at given
      exact Bool.noConfusion given

end Chain

end ColumnFilter
