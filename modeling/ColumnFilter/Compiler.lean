import ColumnFilter.Chain
import ColumnFilter.Sql.Fragment

/-!
# Compiling expressions

The settings select a dialect and a chain of filters; then every segment of the
expression becomes a fragment of a tree.  The first segment that cannot be compiled
ends it all, and no filter is asked any more.
-/

namespace ColumnFilter

/-- The dialects and the kinds of strategy that settings can name. -/
structure Compiler where
  dialects : DialectRegistry
  strategies : StrategyRegistry

namespace Compiler

/-- Everything that is built in. -/
def standard : Compiler := ⟨.standard, .standard⟩

def dialect (compiler : Compiler) (settings : Settings) (connection : Option Connection) :
    Except CompileError Dialect :=
  match settings.resolveDialect (connection.map Connection.driver) with
  | .error error => .error (.configuration error)
  | .ok id =>
      match (compiler.dialects.get id).2 with
      | some adapter => .ok adapter.dialect
      | none => .error (.ofQueryError (.unknownDialect ⟨id⟩))

/-- The fragments of segments that must hold together. -/
def compileGroup (chain : Chain) (target : Target) :
    List Segment → Probed (Except CompileError (List Fragment))
  | [] => .pure (.ok [])
  | segment :: segments =>
      (chain.resolve target segment).bind fun
        | .error error => .pure (.error error)
        | .ok fragment =>
            (compileGroup chain target segments).map fun result =>
              result.map (fragment :: ·)

def compileGroups (chain : Chain) (target : Target) :
    List (List Segment) → Probed (Except CompileError (List (List Fragment)))
  | [] => .pure (.ok [])
  | group :: groups =>
      (compileGroup chain target group).bind fun
        | .error error => .pure (.error error)
        | .ok fragments =>
            (compileGroups chain target groups).map fun result =>
              result.map (fragments :: ·)

/-- Compiles an expression as a filter on a column. -/
def compile (compiler : Compiler) (settings : Settings) (column expression : String)
    (connection : Option Connection) : Probed (Except CompileError Tree) :=
  match compiler.dialect settings connection with
  | .error error => .pure (.error error)
  | .ok dialect =>
      match Chain.build compiler.strategies settings.filters with
      | .error error => .pure (.error (.configuration error))
      | .ok chain =>
          let groups := settings.punctuation.segments expression
          (compileGroups chain ⟨column, dialect, connection⟩ groups).map fun result =>
            result.map Tree.ofGroups

end Compiler

end ColumnFilter
