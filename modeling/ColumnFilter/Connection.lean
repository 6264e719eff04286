import ColumnFilter.QueryError

/-!
# Live connections

A connection to a database can be asked to try a pattern.  What it answers may change
from one probe to the next: it depends on the pattern and on the probes made before.
Whatever is tried is recorded, so that a computation carries the list of its probes
beside its result.
-/

namespace ColumnFilter

/-- A statement tried on a live connection. -/
structure Probe where
  sql : String
  values : List Value
  deriving DecidableEq, Repr

/-- What the database makes of a probe. -/
inductive ProbeAnswer where
  | accepted
  /-- The database refused the statement. -/
  | rejected (reason : String)
  /-- The database could not be asked. -/
  | unavailable (reason : String)
  deriving DecidableEq, Repr

/-- The answers to one pattern, by the probes made before. -/
structure Reply where
  after : List Probe → ProbeAnswer

/-- The same answer at any time. -/
instance : Coe ProbeAnswer Reply := ⟨fun answer => ⟨fun _ => answer⟩⟩

/-- A connection, by the name of its driver and its answers to patterns. -/
structure Connection where
  driver : String
  answer : String → Reply

/-- The answers depend on nothing but the pattern. -/
def Connection.Steady (connection : Connection) : Prop :=
  ∀ pattern earlier,
    (connection.answer pattern).after earlier = (connection.answer pattern).after []

/-- A computation that makes probes.  From the probes made before it, `run` gives its
result and the probes made on the way to it. -/
structure Probed (α : Type) where
  run : List Probe → α × List Probe

namespace Probed

/-- A result that took no probe. -/
def pure {α : Type} (result : α) : Probed α := ⟨fun _ => (result, [])⟩

/-- Goes on from a result; the probes of both parts follow each other. -/
def bind {α β : Type} (first : Probed α) (next : α → Probed β) : Probed β where
  run earlier :=
    let (result, probes) := first.run earlier
    let (last, others) := (next result).run (earlier ++ probes)
    (last, probes ++ others)

def map {α β : Type} (f : α → β) (probed : Probed α) : Probed β where
  run earlier :=
    let (result, probes) := probed.run earlier
    (f result, probes)

/-- The result when no probe was made before. -/
def result {α : Type} (probed : Probed α) : α := (probed.run []).1

/-- The probes made when none was made before. -/
def probes {α : Type} (probed : Probed α) : List Probe := (probed.run []).2

@[simp] theorem run_pure {α : Type} (result : α) (earlier : List Probe) :
    (pure result).run earlier = (result, []) := rfl

theorem run_bind {α β : Type} (first : Probed α) (next : α → Probed β)
    (earlier : List Probe) :
    (first.bind next).run earlier =
      (((next (first.run earlier).1).run (earlier ++ (first.run earlier).2)).1,
        (first.run earlier).2 ++
          ((next (first.run earlier).1).run (earlier ++ (first.run earlier).2)).2) := rfl

@[simp] theorem run_map {α β : Type} (f : α → β) (probed : Probed α)
    (earlier : List Probe) :
    (probed.map f).run earlier = (f (probed.run earlier).1, (probed.run earlier).2) := rfl

end Probed

namespace Dialect

def probe (dialect : Dialect) (pattern : String) : Probe :=
  ⟨dialect.patternProbe, [.string pattern]⟩

/-- Is the pattern one that the database understands?  Without a connection every
pattern passes. -/
def checkPattern (dialect : Dialect) (connection : Option Connection) (pattern : String) :
    Probed (Except QueryError Bool) :=
  match connection with
  | none => .pure (.ok true)
  | some connection =>
      { run := fun earlier =>
          let result := match (connection.answer pattern).after earlier with
            | .accepted => .ok true
            | .rejected _ => .ok false
            | .unavailable reason => .error (.unavailable ⟨dialect, reason⟩)
          (result, [dialect.probe pattern]) }

end Dialect

end ColumnFilter
