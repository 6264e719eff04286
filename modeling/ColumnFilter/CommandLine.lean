import ColumnFilter.CommandLine.Arguments
import ColumnFilter.Compiler
import ColumnFilter.Connection.Url
import ColumnFilter.Json.Print
import ColumnFilter.Settings.Text
import ColumnFilter.Sql.Template
import ColumnFilter.Text.Quoted
import ColumnFilter.Value.Tagged

/-!
# The command line

What the program prints for its arguments, and the code that it ends with: zero when
all went well, one after an error of its own, and two for arguments that it does not
understand.
-/

namespace ColumnFilter.CommandLine

inductive Failure where
  | missingFile
  | settings (problem : Json.Problem)
  | connect (error : ConnectError)
  | compile (error : CompileError)
  | render (error : QueryError)
  | probe (answer reason : String)

/-- How the program ends. -/
structure Outcome where
  code : UInt32
  output : String
  error : Option String
  deriving DecidableEq, Repr

/-- The name of an error with its one part. -/
def wrapped (name part : String) : String := name ++ "(" ++ part ++ ")"

/-- The name of an error with its parts by name. -/
def record (name : String) (parts : List (String × String)) : String :=
  let fields := parts.map fun (field, content) => field ++ ": " ++ content
  name ++ " \x7b " ++ String.intercalate ", " fields ++ " \x7d"

def configurationLine : ConfigurationError → String
  | .unknownDialect error => wrapped "UnknownDialect" (Text.quoted error.id.text)
  | .unsupportedDriver driver => wrapped "UnsupportedDriver" (Text.quoted driver)
  | .missingDialect => "MissingDialect"
  | .unknownStrategyKind name kind =>
      record "UnknownStrategyKind" [("name", Text.quoted name), ("kind", Text.quoted kind)]
  | .invalidOptions name error =>
      record "InvalidOptions"
        [("name", Text.quoted name), ("message", Text.quoted error.message)]

def queryLine : QueryError → String
  | .unknownDialect error => wrapped "UnknownDialect" (Text.quoted error.id.text)
  | .unavailable error =>
      record "ProbeUnavailable"
        [("dialect", Text.quoted error.dialect.name), ("reason", Text.quoted error.reason)]
  | .unboundParameter error => wrapped "UnknownParam" (Text.quoted error.name)

def compileLine : CompileError → String
  | .configuration error => wrapped "Configuration" (configurationLine error)
  | .validation error => wrapped "RegexValidation" (queryLine error)
  | .query error => wrapped "Query" (queryLine error)
  | .missingNumber error => error.message

/-- An error of connecting, in one line.  What a driver says is left out. -/
def connectLine : ConnectError → String
  | .url (.invalid url) => wrapped "Connector" (wrapped "InvalidUrl" (Text.quoted url))
  | .url (.unsupportedScheme scheme) =>
      wrapped "Connector" (wrapped "UnsupportedScheme" (Text.quoted scheme))
  | .driver .mySql => "Connector(MySql"
  | .driver .postgres => "Connector(Postgres"

namespace Failure

def line : Failure → String
  | .missingFile =>
      wrapped "ConfigFileRead" (record "Os"
        [("code", "2"), ("kind", "NotFound"),
          ("message", Text.quoted "No such file or directory")])
  | .settings _ => "ConfigDeserialize"
  | .connect error => connectLine error
  | .compile error => wrapped "Compile" (compileLine error)
  | .render error => wrapped "Render" (queryLine error)
  | .probe answer reason => wrapped "Probe" (wrapped answer (Text.quoted reason))

end Failure

/-- Lines of output, each with its end. -/
def lines (texts : List String) : String := String.join (texts.map (· ++ "\n"))

/-- The tokens of an expression, a group at a time. -/
def tokenLines (groups : List (List Segment)) : List String :=
  if groups.isEmpty then ["-- empty expression"]
  else
    groups.zipIdx.flatMap fun (group, index) =>
      ("OR group " ++ toString (index + 1) ++ ":") ::
        group.map fun segment =>
          "  " ++ (if segment.negated then "NOT " else "") ++ Text.quoted segment.text

/-- A compiled expression for people. -/
def statementLines : Option Statement → List String
  | none => ["-- no filtering"]
  | some statement =>
      statement.sql ::
        statement.values.zipIdx.map fun (value, index) =>
          "  " ++ toString (index + 1) ++ ": " ++ value.toLiteral

def statementJson (dialect : Dialect) (statement : Option Statement) : Json :=
  let values := (statement.map Statement.values).getD []
  .object
    [("dialect", .string dialect.name),
      ("sql", (statement.map fun statement => Json.string statement.sql).getD .null),
      ("params", .array (values.map Value.toJson))]

/-- The settings from their source; `read` gives the text of a file that exists. -/
def loadSettings (read : String → Option String) (source : SettingsSource) :
    Except Failure Settings :=
  let base : Except Failure Settings :=
    match source.file with
    | none => .ok .standard
    | some path =>
        match read path with
        | none => .error .missingFile
        | some text => (Settings.ofPatchText? text).mapError .settings
  base.map fun settings => settings.patch source.patch

/-- The connection that a URL stands for, if one is given. -/
def connect : Option String → Except Failure (Option Connection)
  | none => .ok none
  | some url => ((Connection.ofUrl? url).map some).mapError .connect

/-- Compiles and prints an expression. -/
def compile (settings : Settings) (column expression : String) (connection : Option Connection)
    (json : Bool) : Except Failure String :=
  let compiler := Compiler.standard
  match (compiler.compile settings column expression connection).result with
  | .error error => .error (.compile error)
  | .ok tree =>
      match compiler.dialect settings connection with
      | .error error => .error (.compile error)
      | .ok dialect =>
          match tree.render dialect with
          | .error error => .error (.render (.unboundParameter error))
          | .ok statement =>
              .ok <| lines <|
                if json then [(statementJson dialect statement).indented 0]
                else statementLines statement

/-- What a command prints. -/
def perform (read : String → Option String) : Command → Except Failure String
  | .version => .ok (lines ["afilter 0.1.0"])
  | .compile column expression source url json =>
      match loadSettings read source with
      | .error failure => .error failure
      | .ok settings =>
          match connect url with
          | .error failure => .error failure
          | .ok connection => compile settings column expression connection json
  | .tokenize expression source =>
      (loadSettings read source).map fun settings =>
        lines (tokenLines (settings.punctuation.segments expression))
  | .testConnection url =>
      match Connection.ofUrl? url with
      | .error error => .error (.connect error)
      | .ok connection =>
          match (connection.answer "").after [] with
          | .accepted => .ok (lines ["ok (" ++ connection.driver ++ ")"])
          | .rejected reason => .error (.probe "Rejected" reason)
          | .unavailable reason => .error (.probe "Unavailable" reason)

/-- Runs the program. -/
def run (read : String → Option String) (arguments : List String) : Outcome :=
  match Command.ofArguments? .empty arguments with
  | .error _ => ⟨2, "", none⟩
  | .ok command =>
      match perform read command with
      | .ok output => ⟨0, output, none⟩
      | .error failure => ⟨1, "", some ("Error: " ++ failure.line)⟩

end ColumnFilter.CommandLine
