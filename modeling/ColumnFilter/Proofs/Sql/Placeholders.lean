import Mathlib.Data.List.Basic
import ColumnFilter.Proofs.Sql.ParamNames

/-!
# Placeholders of a statement

A condition or an expression is rendered as fixed text around placeholders, one
for every parameter that is written with it.  The bindings decide whether there is
a statement and what its values are, but never its text.  A renderer that goes over
the template only once, and numbers a placeholder by the values that it has
collected so far, comes to the same statement.
-/

namespace ColumnFilter

/-- The fixed text of a statement: in front of the first hole, and behind each hole. -/
structure Frame where
  front : String
  behind : List String

/-- The text with the placeholders of a dialect in its holes. -/
def Frame.fill (frame : Frame) (dialect : Dialect) : String :=
  frame.front ++
    String.join (frame.behind.mapIdx fun index text => dialect.placeholder index ++ text)

namespace Template

def frame : Template → Frame
  | [] => ⟨"", []⟩
  | .text content :: rest => ⟨content ++ (frame rest).front, (frame rest).behind⟩
  | .hole _ :: rest => ⟨"", (frame rest).front :: (frame rest).behind⟩

theorem length_behind_frame (template : Template) :
    template.frame.behind.length = template.holes.length := by
  induction template with
  | nil => rfl
  | cons slot rest induction => cases slot <;> simp [frame, induction]

/-- Written from some index on, a template is its frame with the placeholders from
this index on. -/
theorem join_write (dialect : Dialect) (index : Nat) (template : Template) :
    String.join (template.write dialect index) =
      template.frame.front ++ String.join
        (template.frame.behind.mapIdx fun offset text =>
          dialect.placeholder (index + offset) ++ text) := by
  induction template generalizing index with
  | nil => rfl
  | cons slot rest induction =>
      cases slot with
      | text content =>
          rw [write, frame, String.join_cons, induction, String.append_assoc]
      | hole name =>
          rw [write, frame, String.join_cons, induction, List.mapIdx_cons, String.join_cons]
          simp only [String.empty_append, Nat.add_zero, String.append_assoc, Nat.add_assoc,
            Nat.add_comm 1]

/-- The values are missing exactly when some hole has no binding, and the first such
hole is the one that is reported. -/
theorem values_eq_error_iff {params : Params} {template : Template} {name : String} :
    template.values params = .error ⟨name⟩ ↔
      template.holes.find? (fun name => (params.get? name).isNone) = some name := by
  induction template with
  | nil => simp [values]
  | cons slot rest induction =>
      cases slot with
      | text content => exact induction
      | hole other =>
          rw [values, holes_hole, List.find?_cons]
          cases params.get? other with
          | none => simp
          | some value =>
              simp only [Option.isNone_some, ← induction]
              cases values params rest <;> simp [Except.map]

theorem exists_values_iff {params : Params} {template : Template} :
    (∃ found, template.values params = .ok found) ↔
      ∀ name ∈ template.holes, (params.get? name).isSome = true := by
  simp only [values_eq_ok_iff, exists_map_eq_map_some_iff]

theorem fill_eq_ok_iff {template : Template} {dialect : Dialect} {params : Params}
    {statement : Statement} :
    template.fill dialect params = .ok statement ↔
      template.values params = .ok statement.values ∧
        statement.sql = template.frame.fill dialect := by
  have written := join_write dialect 0 template
  simp only [Nat.zero_add] at written
  rw [fill, written]
  cases template.values params with
  | error missing => simp [Except.map]
  | ok found =>
      obtain ⟨sql, values⟩ := statement
      simp [Except.map, Frame.fill, and_comm, eq_comm]

theorem fill_eq_error_iff {template : Template} {dialect : Dialect} {params : Params}
    {missing : UnboundParameter} :
    template.fill dialect params = .error missing ↔
      template.values params = .error missing := by
  rw [fill]
  cases template.values params <;> simp [Except.map]

end Template

/-- What rendering does when `names` are the parameters that are written, from left to
right, and `frame` is the text around them. -/
structure Frame.Renders (frame : Frame) (names : List String) (dialect : Dialect)
    (render : Params → Except UnboundParameter Statement) : Prop where
  holes : frame.behind.length = names.length
  succeeds_iff : ∀ params, (∃ statement, render params = .ok statement) ↔
    ∀ name ∈ names, (params.get? name).isSome = true
  fails_iff : ∀ params name, render params = .error ⟨name⟩ ↔
    names.find? (fun name => (params.get? name).isNone) = some name
  values : ∀ params statement, render params = .ok statement →
    statement.values.map some = names.map params.get?
  sql : ∀ params statement, render params = .ok statement →
    statement.sql = frame.fill dialect

namespace Template

theorem renders (template : Template) (dialect : Dialect) :
    template.frame.Renders template.holes dialect (template.fill dialect) where
  holes := length_behind_frame template
  succeeds_iff params := by
    rw [← exists_values_iff]
    constructor
    · rintro ⟨statement, filled⟩
      exact ⟨statement.values, (fill_eq_ok_iff.mp filled).1⟩
    · rintro ⟨found, given⟩
      exact ⟨⟨template.frame.fill dialect, found⟩, fill_eq_ok_iff.mpr ⟨given, rfl⟩⟩
  fails_iff params name := fill_eq_error_iff.trans values_eq_error_iff
  values params statement filled :=
    (values_eq_ok_iff.mp (fill_eq_ok_iff.mp filled).1).symm
  sql params statement filled := (fill_eq_ok_iff.mp filled).2

end Template

/-- The state of a single pass: the text so far, the values that stand for its
placeholders, and the names that had no binding. -/
structure Renderer where
  sql : String
  values : List Value
  unbound : List String

namespace Renderer

variable (dialect : Dialect) (params : Params)

def start : Renderer := ⟨"", [], []⟩

/-- A bound name gets the placeholder of the next value.  One that is not bound is
noted, and the pass goes on. -/
def write (renderer : Renderer) : Slot → Renderer
  | .text content => { renderer with sql := renderer.sql ++ content }
  | .hole name =>
      match params.get? name with
      | some value =>
          { renderer with
            sql := renderer.sql ++ dialect.placeholder renderer.values.length
            values := renderer.values ++ [value] }
      | none =>
          { renderer with
            sql := renderer.sql ++ ":" ++ name
            unbound := renderer.unbound ++ [name] }

def writeAll (renderer : Renderer) (template : Template) : Renderer :=
  template.foldl (write dialect params) renderer

def finish (renderer : Renderer) : Except UnboundParameter Statement :=
  match renderer.unbound with
  | [] => .ok ⟨renderer.sql, renderer.values⟩
  | name :: _ => .error ⟨name⟩

theorem unbound_writeAll (renderer : Renderer) (template : Template) :
    (renderer.writeAll dialect params template).unbound =
      renderer.unbound ++ template.holes.filter fun name => (params.get? name).isNone := by
  unfold writeAll
  induction template generalizing renderer with
  | nil => simp
  | cons slot rest induction =>
      rw [List.foldl_cons, induction]
      cases slot with
      | text content => rfl
      | hole name =>
          rw [Template.holes_hole, List.filter_cons, write]
          cases params.get? name <;> simp

/-- From whatever state the pass starts, the number of values so far is the index of
the next placeholder. -/
theorem writeAll_of_values {template : Template} {found : List Value}
    (given : template.values params = .ok found) (renderer : Renderer) :
    renderer.writeAll dialect params template =
      { renderer with
        sql := renderer.sql ++ String.join (template.write dialect renderer.values.length)
        values := renderer.values ++ found } := by
  unfold writeAll
  induction template generalizing renderer found with
  | nil =>
      obtain rfl : [] = found := Except.ok.inj given
      simp [Template.write]
  | cons slot rest induction =>
      cases slot with
      | text content =>
          rw [List.foldl_cons, induction given, write, Template.write, String.join_cons,
            String.append_assoc]
      | hole name =>
          rw [Template.values] at given
          cases bound : params.get? name with
          | none => simp [bound] at given
          | some value =>
              cases remaining : Template.values params rest with
              | error missing => simp [bound, remaining, Except.map] at given
              | ok others =>
                  obtain rfl : value :: others = found := by
                    simpa [bound, remaining, Except.map] using given
                  rw [List.foldl_cons, induction remaining, write]
                  simp [bound, Template.write, String.join_cons, String.append_assoc]

/-- A single pass over a template gives the statement that it is filled to, or reports
the same name. -/
theorem finish_writeAll (template : Template) :
    (start.writeAll dialect params template).finish = template.fill dialect params := by
  cases given : template.values params with
  | ok found =>
      rw [writeAll_of_values dialect params given, Template.fill, given]
      simp [start, finish, Except.map]
  | error missing =>
      have first := Template.values_eq_error_iff.mp given
      rw [← List.head?_filter, List.head?_eq_some_iff] at first
      obtain ⟨others, noted⟩ := first
      rw [Template.fill_eq_error_iff.mpr given, finish, unbound_writeAll, noted]
      rfl

end Renderer

/-- In every dialect, an expression or a condition is rendered as a fixed text around
the parameters that are written with it.  That succeeds exactly if all of them are
bound; otherwise the first one that is not bound is reported.  The values are their
bindings in order, and each hole of the text has the placeholder of its place.  A
single pass over the template, which numbers placeholders by the values so far and goes
on behind a name without binding, finishes with just that result. -/
theorem render_placeholders (dialect : Dialect) :
    (∀ expression : Expr, ∃ frame : Frame,
      frame.Renders expression.writtenNames dialect (expression.render dialect)) ∧
    (∀ condition : Condition, ∃ frame : Frame,
      frame.Renders condition.writtenNames dialect (condition.render dialect)) ∧
    ∀ (params : Params) (template : Template),
      (Renderer.start.writeAll dialect params template).finish =
        template.fill dialect params := by
  refine ⟨fun expression => ?_, fun condition => ?_,
    fun params => Renderer.finish_writeAll dialect params⟩
  · rw [← Template.holes_ofExpr dialect expression]
    exact ⟨_, Template.renders _ dialect⟩
  · rw [← Template.holes_ofCondition dialect condition]
    exact ⟨_, Template.renders _ dialect⟩

end ColumnFilter
