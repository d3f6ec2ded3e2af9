/-
**The command line.**

Every option takes one value, after a blank or an equals sign, and may be given once; a value that
follows a blank must not begin with a hyphen. The options are taken in their order: the first one that
is wrong ends the program, and so does a request for help or for the version.

* `CommandLine.read` is what the arguments ask for;
* `Startup.of` is what becomes of it: a finished program with its exit code, or a server.
-/

import HostDashboard.Api.Client
import HostDashboard.Config
import HostDashboard.Logging
import HostDashboard.Web.Endpoint

namespace HostDashboard

/-- The values of the options. -/
structure Options where
  bind : Option String := none
  port : Option Nat := none
  apiUrl : Option String := none
  searchLimit : Option Nat := none
  sessionSeconds : Option Nat := none
  logLevel : Option String := none
  deriving DecidableEq, Repr

/-- What arguments ask for. -/
inductive CommandLine where
  | run (options : Options)
  | help
  | version
  /-- The arguments make no sense. -/
  | misuse
  deriving DecidableEq, Repr

namespace CommandLine

/-- Sets a value that has not been set. -/
def once {α : Type} (old : Option α) (value : Option α) : Option (Option α) :=
  if old.isSome || value.isNone then none else some value

/-- A port number, which may have a sign. -/
def port? (source : List Char) : Option Nat :=
  match Decimal.readSigned? source with
  | some (.ofNat port) => if port < Nat.pow 2 16 then some port else none
  | _ => none

/-- The options with the value of one more, unless it is set twice or the value is wrong. -/
def set? (options : Options) (name value : String) : Option Options :=
  if name = "bind" then
    (once options.bind (some value)).map fun bind => { options with bind }
  else if name = "port" then
    (once options.port (port? value.toList)).map fun port => { options with port }
  else if name = "api-url" then
    (once options.apiUrl (some value)).map fun apiUrl => { options with apiUrl }
  else if name = "search-limit" then
    (once options.searchLimit (Decimal.readUnsigned? 64 value.toList)).map fun searchLimit =>
      { options with searchLimit }
  else if name = "session-ttl" then
    (once options.sessionSeconds (Decimal.readUnsigned? 64 value.toList)).map
      fun sessionSeconds => { options with sessionSeconds }
  else if name = "log-level" then
    (once options.logLevel (some value)).map fun logLevel => { options with logLevel }
  else none

/-- An argument that cannot be a value: a hyphen and something after it. -/
def isFlag (argument : String) : Bool :=
  match argument.toList with
  | '-' :: _ :: _ => true
  | _ => false

/-- What some arguments ask for, beyond options that are already set. The value that a long option or
`-p` takes from the next argument is set before the argument after it is looked at. -/
def readFrom (options : Options) : List String → CommandLine
  | [] => .run options
  | argument :: rest =>
    match argument.toList with
    | ['-', '-'] => if rest.isEmpty then .run options else .misuse
    | '-' :: '-' :: long =>
      match Text.cut '=' long with
      | (name, some value) =>
        match set? options (String.ofList name) (String.ofList value) with
        | some options => readFrom options rest
        | none => .misuse
      | (name, none) =>
        if name = "help".toList then .help
        else if name = "version".toList then .version
        else withNext options (String.ofList name) rest
    | ['-', 'p'] => withNext options "port" rest
    | '-' :: 'p' :: value =>
      let value := match value with
        | '=' :: value => value
        | value => value
      match set? options "port" (String.ofList value) with
      | some options => readFrom options rest
      | none => .misuse
    | '-' :: 'h' :: _ => .help
    | '-' :: 'V' :: _ => .version
    | _ => .misuse
where
  /-- Sets an option to the next argument. -/
  withNext (options : Options) (name : String) : List String → CommandLine
    | [] => .misuse
    | value :: rest =>
      if isFlag value then .misuse
      else match set? options name value with
        | some options => readFrom options rest
        | none => .misuse

/-- What the arguments of the program ask for. -/
def read (arguments : List String) : CommandLine := readFrom {} arguments

end CommandLine

namespace Options

/-- The settings; an API location that no option gives is taken from the environment. At least one
host is asked for. -/
def config (options : Options) (environment : Option String) : Config :=
  let default : Config := {}
  { bind := options.bind.getD default.bind
    port := options.port.getD default.port
    apiBaseUrl := options.apiUrl.getD (environment.getD default.apiBaseUrl)
    searchLimit := max (options.searchLimit.getD default.searchLimit) 1
    sessionSeconds := options.sessionSeconds.getD default.sessionSeconds }

def level (options : Options) : LogLevel := LogLevel.ofText (options.logLevel.getD "info")

end Options

/-- How the program goes on. -/
inductive Startup where
  /-- It ends with an exit code, and possibly a text. -/
  | finished (code : Nat) (output errors : String)
  /-- It serves. -/
  | serving (config : Config) (client : Client)

namespace Startup

/-- The variable of the environment that may say where the search API is. -/
def environmentVariable : String := "HOSTLENS_API_URL"

/-- How the options are used. -/
def usage : String :=
  "Dashboard backend for searching internet-connected hosts\n\n" ++
  "Usage: hostlens [OPTIONS]\n\n" ++
  "Options:\n" ++
  "      --bind <BIND>                  Address to bind the dashboard server to\n" ++
  "  -p, --port <PORT>                  Port for the dashboard server\n" ++
  "      --api-url <API_URL>            Base URL of the external host search API\n" ++
  "      --search-limit <SEARCH_LIMIT>  Number of hosts requested per dashboard search\n" ++
  "      --session-ttl <SESSION_TTL>    Seconds an idle dashboard session is kept\n" ++
  "      --log-level <LOG_LEVEL>        Log level (trace, debug, info, warn, error, off)\n" ++
  "  -h, --help                         Print help\n" ++
  "  -V, --version                      Print version\n"

/-- The text of an API location that cannot be used. -/
def badLocation (location : String) (failure : Failure) : String :=
  s!"Error: invalid API base URL '{location}'\n\nCaused by:\n    {failure.message}"

/-- What becomes of the arguments under a value of the environment, and the log lines on the way. -/
def of (arguments : List String) (environment : Option String) : Startup × List LogLine :=
  match CommandLine.read arguments with
  | .help => (.finished 0 usage "", [])
  | .version => (.finished 0 s!"{Web.programName} {Web.programVersion}\n" "", [])
  | .misuse => (.finished 2 "" usage, [])
  | .run options =>
    let config := options.config environment
    let info (message : String) : LogLine := ⟨.info, Web.programName, message⟩
    let starting := info s!"Starting {Web.programName} v{Web.programVersion}"
    let written (lines : List LogLine) := lines.filter (·.level.isWritten options.level)
    match Client.ofBaseUrl config.apiBaseUrl with
    | .error failure =>
      (.finished 1 "" (badLocation config.apiBaseUrl failure), written [starting])
    | .ok client =>
      (.serving config client, written [starting,
        info s!"Using search API at {client.base.print}",
        info s!"Starting dashboard server on {config.bind}:{Decimal.text config.port}"])

end Startup

end HostDashboard
