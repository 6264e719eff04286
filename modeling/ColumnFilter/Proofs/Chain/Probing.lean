import ColumnFilter.Proofs.Chain.Building

/-!
# Probes of a chain

Filters are shown a segment one after the other until one of them takes it.  A
search for a pattern tries what stands between its markers on the connection,
once; no other strategy tries anything.  `Strategy.verdict` and
`Strategy.probes` say this without running the strategies, and `Chain.trail`
puts them together to the probes of all segments.
-/

namespace ColumnFilter

/-- What becomes of a segment that is shown to a strategy. -/
inductive Verdict where
  /-- It is left to the filters behind. -/
  | passed
  | taken
  /-- The database could not be asked about the pattern. -/
  | unavailable (reason : String)
  deriving DecidableEq, Repr

/-- A segment is taken if it is recognized. -/
def Verdict.takenIf (recognized : Bool) : Verdict := if recognized then .taken else .passed

namespace Strategy

/-- The pattern that is searched for: the text between the markers of a regex
strategy. -/
def pattern? (strategy : Strategy) (segment : Segment) : Option String :=
  match strategy with
  | .regex options => options.markers.strip? segment.text
  | _ => none

/-- What is tried on the connection when the strategy is shown a segment. -/
def probes (strategy : Strategy) (target : Target) (segment : Segment) : List Probe :=
  match target.connection, strategy.pattern? segment with
  | some _, some pattern => [⟨target.dialect.patternProbe, [.string pattern]⟩]
  | _, _ => []

end Strategy

namespace Target

/-- What becomes of a segment that is a pattern, after some probes. -/
def tried (target : Target) (earlier : List Probe) (pattern : String) : Verdict :=
  match target.connection with
  | none => .taken
  | some live =>
      match (live.answer pattern).after earlier with
      | .accepted => .taken
      | .rejected _ => .passed
      | .unavailable reason => .unavailable reason

end Target

namespace Strategy

/-- What becomes of a segment that is shown to the strategy after some probes. -/
def verdict (strategy : Strategy) (target : Target) (segment : Segment)
    (earlier : List Probe) : Verdict :=
  match strategy with
  | .range ranges => .takenIf (ranges.bounds segment.text).toOption.join.isSome
  | .exact options => .takenIf (options.markers.strip? segment.text).isSome
  | .substring options => .takenIf (options.markers.strip? segment.text).isSome
  | .regex options =>
      match options.markers.strip? segment.text with
      | none => .passed
      | some pattern => target.tried earlier pattern
  | .words _ => .taken

end Strategy

/-- The results of a strategy that go with a verdict. -/
inductive Verdict.Describes (dialect : Dialect) :
    Verdict → Except CompileError (Option Fragment) → Prop where
  | passed : Describes dialect .passed (.ok none)
  | taken (fragment : Fragment) : Describes dialect .taken (.ok (some fragment))
  | unavailable (reason : String) :
      Describes dialect (.unavailable reason)
        (.error (.validation (.unavailable ⟨dialect, reason⟩)))

namespace Strategy

variable {target : Target} {segment : Segment} {earlier : List Probe}

theorem probes_accept (strategy : Strategy) :
    ((strategy.accept target segment).run earlier).2 = strategy.probes target segment := by
  cases strategy with
  | regex options =>
      simp only [accept, Marked.searchPattern?, probes, pattern?]
      cases options.markers.strip? segment.text with
      | none => cases target.connection <;> rfl
      | some pattern => cases target.connection <;> rfl
  | _ => cases connected : target.connection <;> simp [accept, probes, pattern?, connected]

theorem describes_accept {strategy : Strategy} (complete : strategy.Complete) :
    (strategy.verdict target segment earlier).Describes target.dialect
      ((strategy.accept target segment).run earlier).1 := by
  cases strategy with
  | range ranges =>
      obtain ⟨found, bounds⟩ := complete segment.text
      simp only [accept, Range.range?, verdict, bounds, Probed.run_pure]
      cases found with
      | none => exact .passed
      | some bounds => exact .taken _
  | exact options =>
      simp only [accept, Marked.searchWhole?, verdict, Probed.run_pure]
      cases options.markers.strip? segment.text with
      | none => exact .passed
      | some inner => exact .taken _
  | substring options =>
      simp only [accept, Marked.searchPart?, verdict, Probed.run_pure]
      cases options.markers.strip? segment.text with
      | none => exact .passed
      | some inner => exact .taken _
  | words options => exact .taken _
  | regex options =>
      simp only [accept, Marked.searchPattern?, verdict, Probed.run_map]
      cases options.markers.strip? segment.text with
      | none => exact .passed
      | some pattern =>
          simp only [Target.tried, Dialect.checkPattern, Probed.run_map]
          cases target.connection with
          | none => exact .taken _
          | some live =>
              simp only
              cases (live.answer pattern).after earlier with
              | accepted => exact .taken _
              | rejected reason => exact .passed
              | unavailable reason => exact .unavailable reason

/-- A strategy tries nothing or one pattern. -/
theorem length_probes_le (strategy : Strategy) (target : Target) (segment : Segment) :
    (strategy.probes target segment).length ≤ 1 := by
  unfold probes
  split <;> simp

end Strategy

namespace Chain

/-- What is tried when entries are shown a segment. -/
def probesOf (target : Target) (segment : Segment) (entries : List ChainEntry) : List Probe :=
  entries.flatMap fun entry => entry.strategy.probes target segment

/-- The entries that are shown a segment: all up to the first that does not leave
it to the ones behind. -/
def shown (target : Target) (segment : Segment) :
    List Probe → List ChainEntry → List ChainEntry
  | _, [] => []
  | earlier, entry :: entries =>
      match entry.strategy.verdict target segment earlier with
      | .passed =>
          entry :: shown target segment
            (earlier ++ entry.strategy.probes target segment) entries
      | _ => [entry]

/-- What becomes of a segment in the end; words are made of what nobody takes. -/
def settled (target : Target) (segment : Segment) :
    List Probe → List ChainEntry → Verdict
  | _, [] => .taken
  | earlier, entry :: entries =>
      match entry.strategy.verdict target segment earlier with
      | .passed =>
          settled target segment (earlier ++ entry.strategy.probes target segment) entries
      | verdict => verdict

/-- The probes of segments in turn.  They end with the first answer that the
database could not be asked. -/
def trail (chain : Chain) (target : Target) : List Probe → List Segment → List Probe
  | _, [] => []
  | earlier, segment :: segments =>
      let probes := probesOf target segment (shown target segment earlier chain.entries)
      match settled target segment earlier chain.entries with
      | .unavailable _ => probes
      | _ => probes ++ chain.trail target (earlier ++ probes) segments

variable {target : Target} {segment : Segment} {earlier : List Probe}
  {entries : List ChainEntry}

/-- The run of a chain on a segment is the one that is told by the verdicts. -/
theorem run_firstAccepted (complete : ∀ entry ∈ entries, entry.strategy.Complete) :
    ((firstAccepted target segment entries).run earlier).2 =
        probesOf target segment (shown target segment earlier entries) ∧
      (settled target segment earlier entries).Describes target.dialect
        (((firstAccepted target segment entries).run earlier).1.map some) := by
  induction entries generalizing earlier with
  | nil => exact ⟨rfl, .taken _⟩
  | cons entry entries induction =>
      have described : (entry.strategy.verdict target segment earlier).Describes _ _ :=
        Strategy.describes_accept (complete entry List.mem_cons_self)
      have tried : ((entry.strategy.accept target segment).run earlier).2 = _ :=
        entry.strategy.probes_accept
      rw [firstAccepted, Probed.run_bind, tried, shown, settled]
      generalize ((entry.strategy.accept target segment).run earlier).1 = result at described ⊢
      generalize entry.strategy.verdict target segment earlier = verdict at described ⊢
      cases described with
      | passed =>
          obtain ⟨made, ends⟩ := @induction (earlier ++ entry.strategy.probes target segment)
            fun other member => complete other (List.mem_cons_of_mem entry member)
          refine ⟨?_, ends⟩
          simp only [made, probesOf, List.flatMap_cons]
      | taken fragment =>
          refine ⟨?_, .taken fragment⟩
          simp [probesOf]
      | unavailable reason =>
          refine ⟨?_, .unavailable reason⟩
          simp [probesOf]

/-- Entries are shown a segment in turn, from the first one on. -/
theorem shown_prefix (target : Target) (segment : Segment) (earlier : List Probe)
    (entries : List ChainEntry) : shown target segment earlier entries <+: entries := by
  induction entries generalizing earlier with
  | nil => exact List.prefix_rfl
  | cons entry entries induction =>
      rw [shown]
      split
      · exact (List.prefix_cons_inj entry).mpr (induction _)
      · exact (List.prefix_cons_inj entry).mpr List.nil_prefix

/-- Nobody behind an entry is shown what it does not leave to them. -/
theorem shown_prefix_of_ne_passed {front behind : List ChainEntry} {entry : ChainEntry}
    (kept : entry.strategy.verdict target segment (earlier ++ probesOf target segment front) ≠
      .passed) :
    shown target segment earlier (front ++ entry :: behind) <+: front ++ [entry] := by
  induction front generalizing earlier with
  | nil =>
      simp only [probesOf, List.flatMap_nil, List.append_nil] at kept
      rw [List.nil_append, shown]
      split
      · contradiction
      · exact List.prefix_rfl
  | cons other front induction =>
      rw [List.cons_append, shown, List.cons_append]
      split
      · apply (List.prefix_cons_inj other).mpr
        apply induction
        simpa [probesOf] using kept
      · exact (List.prefix_cons_inj other).mpr List.nil_prefix

end Chain

end ColumnFilter
