import ColumnFilter.Settings.Patch

/-!
# Arguments of the command line

A command takes switches, each at most once; some of them take a value, which is the
next argument or follows an equals sign.  A value that is an argument of its own must
not begin with a dash.
-/

namespace ColumnFilter.CommandLine

/-- Arguments that no command understands. -/
inductive UsageError where
  | unknownArgument (argument : String)
  | repeated (name : String)
  | missingValue (name : String)
  | unexpectedValue (name : String)
  | missing (name : String)
  | noCommand
  deriving DecidableEq, Repr

/-- What a command can be given: values by name, and flags. -/
structure Switches where
  values : List String
  flags : List String

/-- The switches that were given. -/
structure Given where
  values : List (String × String)
  flags : List String
  deriving DecidableEq, Repr

namespace Given

def empty : Given := ⟨[], []⟩

/-- The value given under a name. -/
def value? (given : Given) (name : String) : Option String := given.values.lookup name

/-- The value given under a name that has to be there. -/
def require (given : Given) (name : String) : Except UsageError String :=
  match given.value? name with
  | some value => .ok value
  | none => .error (.missing name)

def addValue (given : Given) (name value : String) : Except UsageError Given :=
  if (given.value? name).isSome then .error (.repeated name)
  else .ok { given with values := given.values ++ [(name, value)] }

def addFlag (given : Given) (name : String) : Except UsageError Given :=
  if given.flags.contains name then .error (.repeated name)
  else .ok { given with flags := given.flags ++ [name] }

end Given

/-- How an argument reads. -/
inductive Shape where
  /-- Two dashes and nothing else. -/
  | terminator
  | long (name : String) (attached : Option String)
  | short (letters : List Char)
  | plain

/-- The shape of an argument.  A single dash is a plain argument. -/
def shapeOf (argument : String) : Shape :=
  match argument.toList with
  | ['-', '-'] => .terminator
  | '-' :: '-' :: rest =>
      let name := String.ofList (rest.takeWhile (· != '='))
      match rest.dropWhile (· != '=') with
      | [] => .long name none
      | _ :: attached => .long name (some (String.ofList attached))
  | '-' :: c :: rest => .short (c :: rest)
  | _ => .plain

def shortFlag? : Char → Option String
  | 'v' => some "verbose"
  | 'V' => some "version"
  | _ => none

/-- Adds the flags of letters behind one dash. -/
def addLetters (switches : Switches) (given : Given) : List Char → Except UsageError Given
  | [] => .ok given
  | c :: letters =>
      match shortFlag? c with
      | none => .error (.unknownArgument (String.ofList [c]))
      | some name =>
          if switches.flags.contains name then
            match given.addFlag name with
            | .error error => .error error
            | .ok given => addLetters switches given letters
          else .error (.unknownArgument (String.ofList [c]))

/-- Reads the switches of a command. -/
def readSwitches (switches : Switches) (given : Given) : List String → Except UsageError Given
  | [] => .ok given
  | argument :: rest =>
      match shapeOf argument, rest with
      | .terminator, [] => .ok given
      | .terminator, extra :: _ => .error (.unknownArgument extra)
      | .plain, _ => .error (.unknownArgument argument)
      | .short letters, rest =>
          match addLetters switches given letters with
          | .error error => .error error
          | .ok given => readSwitches switches given rest
      | .long name attached, rest =>
          if switches.flags.contains name then
            match attached with
            | some _ => .error (.unexpectedValue name)
            | none =>
                match given.addFlag name with
                | .error error => .error error
                | .ok given => readSwitches switches given rest
          else if switches.values.contains name then
            match attached, rest with
            | some value, rest =>
                match given.addValue name value with
                | .error error => .error error
                | .ok given => readSwitches switches given rest
            | none, [] => .error (.missingValue name)
            | none, value :: rest =>
                match shapeOf value with
                | .plain =>
                    match given.addValue name value with
                    | .error error => .error error
                    | .ok given => readSwitches switches given rest
                | _ => .error (.missingValue name)
          else .error (.unknownArgument argument)

/-- Where settings come from: a file, and switches that change single values of it. -/
structure SettingsSource where
  file : Option String
  patch : SettingsPatch

/-- What the program is asked to do. -/
inductive Command where
  | version
  | compile (column expression : String) (settings : SettingsSource) (url : Option String)
      (json : Bool)
  | tokenize (expression : String) (settings : SettingsSource)
  | testConnection (url : String)

namespace Command

/-- The switches that say where settings come from. -/
def settingsSwitches : List String :=
  ["config", "dialect", "or", "and", "escape", "invert-prefix", "invert-suffix"]

def settingsSource (given : Given) : SettingsSource where
  file := given.value? "config"
  patch :=
    { SettingsPatch.empty with
      orMark := given.value? "or"
      andMark := given.value? "and"
      escape := given.value? "escape"
      opening := given.value? "invert-prefix"
      closing := given.value? "invert-suffix"
      dialect := (given.value? "dialect").map .ofString }

/-- The file that settings are read from. -/
def settingsFile? : Command → Option String
  | .compile _ _ settings _ _ => settings.file
  | .tokenize _ settings => settings.file
  | .version => none
  | .testConnection _ => none

/-- Reads the arguments behind the name of a command. -/
def ofName? (name : String) (arguments : List String) : Except UsageError Command :=
  let read (switches : Switches) (build : Given → Except UsageError Command) :
      Except UsageError Command :=
    match readSwitches switches .empty arguments with
    | .error error => .error error
    | .ok given => build given
  match name with
  | "compile" =>
      read ⟨["column", "expression", "database-url"] ++ settingsSwitches, ["json", "verbose"]⟩
        fun given =>
          match given.require "column", given.require "expression" with
          | .error error, _ => .error error
          | .ok _, .error error => .error error
          | .ok column, .ok expression =>
              .ok (.compile column expression (settingsSource given)
                (given.value? "database-url") (given.flags.contains "json"))
  | "tokenize" =>
      read ⟨["expression"] ++ settingsSwitches, ["verbose"]⟩ fun given =>
        (given.require "expression").map fun expression =>
          .tokenize expression (settingsSource given)
  | "test-conn" =>
      read ⟨["database-url"], ["verbose"]⟩ fun given =>
        (given.require "database-url").map .testConnection
  | other => .error (.unknownArgument other)

/-- Reads all arguments.  In front of the command there may be flags, and the one that
asks for the version ends the reading. -/
def ofArguments? (given : Given) : List String → Except UsageError Command
  | [] => .error .noCommand
  | argument :: rest =>
      let flags (added : Except UsageError Given) : Except UsageError Command :=
        match added with
        | .error error => .error error
        | .ok given =>
            if given.flags.contains "version" then .ok .version else ofArguments? given rest
      let switches : Switches := ⟨[], ["verbose", "version"]⟩
      match shapeOf argument with
      | .terminator => .error .noCommand
      | .plain => ofName? argument rest
      | .short letters => flags (addLetters switches given letters)
      | .long name attached =>
          if !switches.flags.contains name then .error (.unknownArgument argument)
          else if attached.isSome then .error (.unexpectedValue name)
          else flags (given.addFlag name)

end Command

end ColumnFilter.CommandLine
