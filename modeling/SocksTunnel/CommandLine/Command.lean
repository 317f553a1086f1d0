import SocksTunnel.CommandLine.Arguments
import SocksTunnel.CommandLine.Seconds
import SocksTunnel.Proxy

/-!
The commands of the program and the settings of the one that serves.

A setting comes from its option, else from its environment variable unless that is empty, else
from its default. Help and the version are asked for by options that win over everything that is
wrong with the other options, but not over arguments that cannot be read.
-/

namespace SocksTunnel.CommandLine

/-! ### Commands -/

/-- What the server is started with, as it was given. -/
structure Settings where
  listen : String
  target : String
  proxy : String
  username : Option String
  password : Option String
  connectTimeout : Binary64
  handshakeTimeout : Binary64
  debug : Bool
  logFile : Bool
  dashboard : Bool
  deriving DecidableEq

/-- What a command line asks for. -/
inductive Command where
  | showHelp
  | showVersion
  /-- The script that completes words in a shell. -/
  | completion
  | serve (settings : Settings)
  deriving DecidableEq

/-- An environment: the variables and their values. -/
abbrev Environment := List (String × String)

/-! ### Options of the program -/

/-- Options before the name of the command. -/
inductive ProgramOption where
  | help
  | version
  | installCompletion
  | showCompletion
  deriving DecidableEq, Repr

def programSpelling : Spelling ProgramOption where
  long?
    | "--help" => some .help
    | "--version" => some .version
    | "--install-completion" => some .installCompletion
    | "--show-completion" => some .showCompletion
    | _ => none
  short? _ := none
  takesValue _ := false
  interspersed := false

/-- What an option asks for before all others. -/
def ProgramOption.urgent? : ProgramOption → Option Command
  | .help => some .showHelp
  | .version => some .showVersion
  | .installCompletion | .showCompletion => none

/-- What the options of the program ask for. The first one for help or the version is answered,
and where there is none, one for completion. -/
def Arguments.asked? (a : Arguments ProgramOption) : Option Command :=
  let options := a.options.map (·.1)
  (options.findSome? ProgramOption.urgent?).or (options.head?.map fun _ => .completion)

/-! ### Options of the server -/

/-- Settings that have a value. -/
inductive ValueOption where
  | listen
  | target
  | proxy
  | username
  | password
  | connectTimeout
  | handshakeTimeout
  deriving DecidableEq, Repr

def ValueOption.all : List ValueOption :=
  [.listen, .target, .proxy, .username, .password, .connectTimeout, .handshakeTimeout]

/-- Settings that are on or off. -/
inductive Switch where
  | debug
  | logFile
  | dashboard
  deriving DecidableEq, Repr

inductive ServeOption where
  | value (option : ValueOption)
  | turn (switch : Switch) (on : Bool)
  | help
  deriving DecidableEq, Repr

def serveSpelling : Spelling ServeOption where
  long?
    | "--listen" => some (.value .listen)
    | "--target" => some (.value .target)
    | "--proxy" => some (.value .proxy)
    | "--user" => some (.value .username)
    | "--pass" => some (.value .password)
    | "--connect-timeout" => some (.value .connectTimeout)
    | "--handshake-timeout" => some (.value .handshakeTimeout)
    | "--debug" => some (.turn .debug true)
    | "--no-debug" => some (.turn .debug false)
    | "--log-file" => some (.turn .logFile true)
    | "--no-log-file" => some (.turn .logFile false)
    | "--dashboard" => some (.turn .dashboard true)
    | "--no-dashboard" => some (.turn .dashboard false)
    | "--help" => some .help
    | _ => none
  short?
    | 'l' => some (.value .listen)
    | 't' => some (.value .target)
    | _ => none
  takesValue
    | .value _ => true
    | _ => false
  interspersed := true

/-- The environment variable of a setting. -/
def ValueOption.variableName : ValueOption → String
  | .listen => "SOCKS5_FORWARDER_LISTEN"
  | .target => "SOCKS5_FORWARDER_TARGET"
  | .proxy => "SOCKS5_FORWARDER_PROXY"
  | .username => "SOCKS5_FORWARDER_USER"
  | .password => "SOCKS5_FORWARDER_PASS"
  | .connectTimeout => "SOCKS5_FORWARDER_CONNECT_TIMEOUT"
  | .handshakeTimeout => "SOCKS5_FORWARDER_HANDSHAKE_TIMEOUT"

def defaultListen : String := "127.0.0.1:8000"

namespace Arguments

/-- A setting as it was given. -/
def setting? (env : Environment) (a : Arguments ServeOption) (option : ValueOption) :
    Option String :=
  (a.last? (.value option)).or
    ((env.lookup option.variableName).filter fun value => !value.isEmpty)

/-- A setting that has to be given. -/
def required (env : Environment) (a : Arguments ServeOption) (option : ValueOption)
    (name : String) : Except UsageError String :=
  match a.setting? env option with
  | some value => .ok value
  | none => .error (.missingOption name)

/-- A setting in seconds; ten if it is not given. -/
def seconds (env : Environment) (a : Arguments ServeOption) (option : ValueOption) :
    Except UsageError Binary64 :=
  match a.setting? env option with
  | none => .ok (.ofInt 10)
  | some text =>
      match Seconds.read? text with
      | some x => .ok x
      | none => .error (.badNumber text)

/-- Whether a switch is on: the last word on it decides. -/
def isOn (a : Arguments ServeOption) (switch : Switch) (default : Bool) : Bool :=
  ((a.options.filterMap fun (option, _) => match option with
    | .turn s on => if s = switch then some on else none
    | _ => none).getLast?).getD default

end Arguments

/-- The settings of the server. -/
def Settings.ofArguments (env : Environment) (a : Arguments ServeOption) :
    Except UsageError Settings := do
  let target ← a.required env .target "--target"
  let proxy ← a.required env .proxy "--proxy"
  let connectTimeout ← a.seconds env .connectTimeout
  let handshakeTimeout ← a.seconds env .handshakeTimeout
  if !a.words.isEmpty then throw (.extraWords a.words)
  return {
    listen := (a.setting? env .listen).getD defaultListen
    target, proxy
    username := a.setting? env .username
    password := a.setting? env .password
    connectTimeout, handshakeTimeout
    debug := a.isOn .debug false
    logFile := a.isOn .logFile true
    dashboard := a.isOn .dashboard false }

/-! ### The whole command line -/

/-- Read the arguments of the server. -/
def Command.readServe (env : Environment) (args : List String) : Except UsageError Command := do
  let a ← serveSpelling.read args
  if a.options.any (·.1 = .help) then return .showHelp
  return .serve (← Settings.ofArguments env a)

/-- What is asked for with a command that does not exist. Its name may be spelled like an option
of the program if it stands behind the word that ends them; the options are then read once more
from there. -/
def Command.readUnknown (name : String) (rest : List String) : Except UsageError Command := do
  if let some asked := (← programSpelling.read (name :: rest)).asked? then return asked
  throw (.unknownCommand name)

/-- Read a command line. -/
def Command.read (env : Environment) (args : List String) : Except UsageError Command := do
  let a ← programSpelling.read args
  if let some asked := a.asked? then return asked
  match a.words with
  | [] => throw .missingCommand
  | "serve" :: rest => Command.readServe env rest
  | name :: rest => Command.readUnknown name rest

end SocksTunnel.CommandLine
