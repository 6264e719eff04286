import ColumnFilter.Connection
import ColumnFilter.Text.Case

/-!
# Connection URLs

The scheme of a URL names the database engine.  For MySQL the rest of the URL is
checked before any connection is made.
-/

namespace ColumnFilter

/-- The engines that a connection can be made to. -/
inductive Engine where
  | mySql
  | postgres
  deriving DecidableEq, Repr

/-- Why a URL names no engine. -/
inductive UrlError where
  | invalid (url : String)
  | unsupportedScheme (scheme : String)
  deriving DecidableEq, Repr

namespace UrlError

def message : UrlError → String
  | .invalid url => "Invalid connection URL: " ++ url
  | .unsupportedScheme scheme => "Unsupported database scheme: " ++ scheme

end UrlError

namespace Engine

/-- The parts of a URL in front of and behind the end of its scheme. -/
def splitScheme? : List Char → Option (List Char × List Char)
  | [] => none
  | ':' :: '/' :: '/' :: rest => some ([], rest)
  | c :: rest => (splitScheme? rest).map fun (scheme, tail) => (c :: scheme, tail)

/-- The engine of a scheme in lowercase. -/
def ofScheme? (scheme : String) : Option Engine :=
  if ["mysql", "mariadb"].contains scheme then some .mySql
  else if ["pg", "postgres", "postgresql"].contains scheme then some .postgres
  else none

def ofUrl? (url : String) : Except UrlError Engine :=
  match splitScheme? url.toList with
  | none => .error (.invalid url)
  | some (scheme, _) =>
      let name := Text.lowercase (String.ofList scheme)
      match ofScheme? name with
      | some engine => .ok engine
      | none => .error (.unsupportedScheme name)

end Engine

namespace Url

def isHexDigit (c : Char) : Bool :=
  c.isDigit || ('a' ≤ c && c ≤ 'f') || ('A' ≤ c && c ≤ 'F')

/-- Is the text a group of an address in brackets? -/
def isAddressGroup (text : List Char) : Bool :=
  !text.isEmpty && text.length ≤ 4 && text.all isHexDigit

def splitAt (separator : Char) : List Char → List (List Char)
  | [] => [[]]
  | c :: rest =>
      match splitAt separator rest with
      | [] => [[]]
      | first :: others => if c = separator then [] :: first :: others else (c :: first) :: others

/-- Is the text an address of eight groups, where one gap may stand for zeros? -/
def isAddress (text : List Char) : Bool :=
  let groups := splitAt ':' text
  let gaps := (groups.filter List.isEmpty).length
  let atStart := groups.take 2 == [[], []]
  let atEnd := groups.reverse.take 2 == [[], []]
  let written := groups.filter fun group => !group.isEmpty
  written.all isAddressGroup &&
    (gaps == 0 && written.length == 8 ||
      written.length < 8 &&
        (gaps == 1 && !(groups.head? == some []) && !(groups.getLast? == some []) ||
          gaps == 2 && atStart != atEnd ||
          gaps == 3 && text == [':', ':']))

/-- Characters that no host name may hold. -/
def isForbidden (c : Char) : Bool :=
  "\x00\t\n\r #/:<>?@[\\]^|".toList.contains c

/-- Is the text a host name, or an address in brackets? -/
def isHost (text : List Char) : Bool :=
  match text with
  | '[' :: rest => rest.getLast? == some ']' && isAddress rest.dropLast
  | host => !host.isEmpty && !host.any isForbidden

/-- Is the text a port number?  It may be left out behind its colon. -/
def isPort (text : List Char) : Bool :=
  text.all Char.isDigit && text.foldl (fun n c => 10 * n + (c.toNat - '0'.toNat)) 0 < 0x10000

/-- A host in front of the colon of its port. -/
def splitPort (text : List Char) : List Char × Option (List Char) :=
  let back := text.reverse
  let port := (back.takeWhile fun c => c != ':' && c != ']').reverse
  match back.drop port.length with
  | ':' :: host => (host.reverse, some port)
  | _ => (text, none)

/-- Does the character end the part of a URL that names the server? -/
def endsAuthority (c : Char) : Bool := c == '/' || c == '?' || c == '#'

/-- The settings that a MySQL URL may hold. -/
def mySqlSettings : List String :=
  ["pool_min", "pool_max", "inactive_connection_ttl", "ttl_check_interval", "abs_conn_ttl",
    "abs_conn_ttl_jitter", "conn_ttl", "tcp_keepalive", "tcp_nodelay", "max_allowed_packet",
    "wait_timeout", "enable_cleartext_plugin", "reset_connection", "client_found_rows",
    "stmt_cache_size", "prefer_socket", "secure_auth", "socket", "compression", "require_ssl",
    "verify_ca", "verify_identity", "built_in_roots"]

/-- Are the settings behind the question mark of a MySQL URL known? -/
def knowsSettings (rest : List Char) : Bool :=
  match (rest.takeWhile (· != '#')).dropWhile (· != '?') with
  | [] => true
  | _ :: query =>
      ((splitAt '&' query).filter fun setting => !setting.isEmpty).all fun setting =>
        mySqlSettings.contains (String.ofList (setting.takeWhile (· != '=')))

/-- Is the URL one that the MySQL driver understands? -/
def isMySql (url : String) : Bool :=
  match Engine.splitScheme? url.toList with
  | none => false
  | some (scheme, rest) =>
      let authority := rest.takeWhile (!endsAuthority ·)
      let server := (authority.reverse.takeWhile (· != '@')).reverse
      let (host, port) := splitPort server
      Text.lowercase (String.ofList scheme) == "mysql" && isHost host &&
        port.all isPort && knowsSettings rest

end Url

/-- Why no connection is made for a URL. -/
inductive ConnectError where
  | url (error : UrlError)
  /-- The driver of the engine refuses. -/
  | driver (engine : Engine)
  deriving DecidableEq, Repr

namespace Connection

/-- A connection that has not been opened: it has a driver, but no server answers. -/
def unopened (driver : String) : Connection :=
  ⟨driver, fun _ => ProbeAnswer.unavailable "no server is connected"⟩

/-- The connection that a URL stands for.  A MySQL connection is opened by the first
statement that is tried on it; any other has to be opened at once. -/
def ofUrl? (url : String) : Except ConnectError Connection :=
  match Engine.ofUrl? url with
  | .error error => .error (.url error)
  | .ok .mySql =>
      if Url.isMySql url then .ok (.unopened "mysql") else .error (.driver .mySql)
  | .ok .postgres => .error (.driver .postgres)

end Connection

end ColumnFilter
