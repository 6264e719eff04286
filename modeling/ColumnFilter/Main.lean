import ColumnFilter.CommandLine

/-!
# The program

Reads the file that the arguments name, and prints what the command line gives.
-/

namespace ColumnFilter

/-- The text of the file that holds the settings, if one is named and can be read. -/
def readSettingsFile (arguments : List String) : IO (Option String) := do
  match CommandLine.Command.ofArguments? .empty arguments with
  | .error _ => return none
  | .ok command =>
      match command.settingsFile? with
      | none => return none
      | some path =>
          try
            let text ← IO.FS.readFile path
            return some text
          catch _ => return none

end ColumnFilter

/-- Runs the program on its arguments. -/
def main (arguments : List String) : IO UInt32 := do
  let text ← ColumnFilter.readSettingsFile arguments
  let outcome := ColumnFilter.CommandLine.run (fun _ => text) arguments
  IO.print outcome.output
  match outcome.error with
  | some line => IO.eprintln line
  | none =>
      if outcome.code != 0 then IO.eprintln "error: the arguments are not understood"
  return outcome.code
