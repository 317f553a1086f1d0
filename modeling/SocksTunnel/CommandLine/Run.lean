import SocksTunnel.CommandLine.Command
import SocksTunnel.CommandLine.Console
import SocksTunnel.Log.Line
import SocksTunnel.Release
import SocksTunnel.Server

/-!
A run of the program: what it does for a command line, and the code that it exits with.

Everything in the settings is checked before a socket is made. The code is 0 for success, also
when the user interrupts the server, 1 if the listening address cannot be bound or completion is
asked for, which is there for no shell, and 2 for a command line or settings that are wrong. Any
other failure leaves the program.
-/

namespace SocksTunnel.CommandLine

open SocksTunnel.Log SocksTunnel.Text

/-! ### Checking the settings -/

/-- What the server is run with. -/
structure Plan where
  listen : String
  target : Target
  proxy : Proxy
  deriving DecidableEq

/-- Check settings: the listening address, the target, the credential and the proxy's address, in
this order. -/
def Settings.plan (s : Settings) : Except Failure Plan := do
  let _ ← (HostPort.parse s.listen).mapError .address
  let target ← (Target.parse s.target).mapError .ofTargetText
  let proxy ← (Proxy.ofOptions s.proxy s.username s.password (some s.connectTimeout)
    (some s.handshakeTimeout)).mapError .ofProxy
  return ⟨s.listen, target, proxy⟩

/-- Whether a setting is given and not empty. -/
def isFilled (setting : Option String) : Bool := setting.any fun s => !s.isEmpty

/-- The record of a user name without a password, or of a password without a user name. -/
def Settings.warnings (s : Settings) : List Record :=
  if isFilled s.username != isFilled s.password then
    [.warning "Only one of --user/--pass given, connecting without authentication"]
  else []

/-! ### Reports -/

/-- How the program ends. -/
inductive Ending where
  | code (n : Nat)
  | failed (failure : Failure)

/-- A dashboard: what it names, and whether it is still shown at the end. -/
structure Panel where
  listen : String
  target : String
  proxy : String
  running : Bool
  deriving DecidableEq, Repr

/-- How a run of the program went. -/
structure RunReport where
  ending : Ending
  console : String
  setups : List Log.Setup
  /-- The records made before the server is started. -/
  preface : List Record
  /-- The plan that was carried out, and how it went. -/
  served : Option (Plan × ServerReport)
  panels : List Panel
  /-- The records made after the server has ended. -/
  afterword : List Record

/-- A run that ends before the server is started. -/
def RunReport.brief (code : Nat) (console : String) : RunReport :=
  ⟨.code code, console, [], [], none, [], []⟩

/-! ### Running -/

/-- How the program ends after the server has: the ending, what is shown, and the last records. -/
def conclusion : Except Failure Unit → Ending × String × List Record
  | .ok () => (.code 0, "", [])
  | .error .interrupted => (.code 0, "", [.info "Shutting down forwarder"])
  | .error failure =>
      if failure.isOf .bind then
        (.code 1, messageLine "Error: " failure.message, [.error failure.message])
      else (.failed failure, "", [])

/-- The dashboard of a server that is ready on an address. -/
def Plan.panel (plan : Plan) (address : HostPort) : Panel where
  listen := address.host ++ ":" ++ decimal address.port.toNat
  target := plan.target.text
  proxy := plan.proxy.address
  running := false

/-- What stands in front of the reason why settings are wrong. -/
def invalidHeading : String := "Invalid configuration: "

/-- A run that ends because the settings are wrong. -/
def RunReport.invalid (setups : List Log.Setup) (failure : Failure) : RunReport :=
  { ending := .code 2
    console := messageLine invalidHeading failure.message
    setups
    preface := [.error (invalidHeading ++ failure.message)]
    served := none
    panels := []
    afterword := [] }

/-- Start the server with settings. -/
def Settings.run (s : Settings) (c : Circumstances) : RunReport :=
  let setups : List Log.Setup := [⟨s.debug, s.logFile⟩]
  match s.plan with
  | .error failure => .invalid setups failure
  | .ok plan =>
      let report := serve plan.listen plan.target plan.proxy c
      let (ending, console, afterword) := conclusion report.outcome
      { ending, console, setups
        preface := s.warnings
        served := some (plan, report)
        panels := if s.dashboard then report.ready.toList.map plan.panel else []
        afterword }

/-- The line that names the program and its version. -/
def versionLine : String := "SOCKS5 Forwarder v" ++ Release.version ++ "\n"

/-- Run the program. -/
def run (env : Environment) (args : List String) (c : Circumstances) : RunReport :=
  match Command.read env args with
  | .error _ => .brief 2 ""
  | .ok .showHelp => .brief 0 ""
  | .ok .showVersion => .brief 0 versionLine
  | .ok .completion => .brief 1 ""
  | .ok (.serve settings) => settings.run c

end SocksTunnel.CommandLine
