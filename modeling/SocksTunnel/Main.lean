import SocksTunnel.CommandLine.Help
import SocksTunnel.CommandLine.Run
import SocksTunnel.Dashboard
import SocksTunnel.Log.Line
import SocksTunnel.Network
import Std.Async.Signal
import Std.Time

/-!
The program: it reads its arguments and its environment, serves, and prints.
-/

namespace SocksTunnel.Program

open SocksTunnel.CommandLine SocksTunnel.Traffic

/-- The environment variables that settings may come from. -/
def readEnvironment : IO Environment :=
  ValueOption.all.filterMapM fun option => do
    return (← IO.getEnv option.variableName).map fun value => (option.variableName, value)

/-- The moment that the clock on the spot shows. -/
def readMoment : IO Calendar.Moment := do
  let now ← Std.Time.PlainDateTime.now
  let date : Calendar.Date :=
    ⟨now.date.year.toNat, now.date.month.val.toNat, now.date.day.val.toNat⟩
  return ⟨date, now.time.hour.val.toNat, now.time.minute.val.toNat, now.time.second.val.toNat⟩

/-- Write a record to standard error. -/
def writeRecord (debug : Bool) (r : Log.Record) : IO Unit := do
  let time ← readMoment
  let entry := Log.Entry.ofRecord "socks_tunnel" "serve" 0 r
  IO.eprint (Log.consoleText debug time [entry])

/-- The monotonic clock, in seconds. -/
def readMonotonic : IO Binary64 := do return .nearest false (← IO.monoMsNow) 1000

/-- Draw a dashboard over and over. -/
partial def draw (stats : IO.Ref Stats) (dashboard : Dashboard) : Std.Async.Async Unit := do
  let (rows, dashboard) :=
    dashboard.render (← stats.get) (← Network.readClock) (← readMonotonic)
  let text := match rows with
    | .error e => e.message ++ "\n"
    | .ok rows => String.join (rows.map fun (label, value) => label ++ ": " ++ value ++ "\n")
  IO.print ("\x1b[2J\x1b[H" ++ dashboard.title ++ "\n" ++ text ++ Dashboard.subtitle ++ "\n")
  (← IO.getStdout).flush
  Std.Async.sleep 500
  draw stats dashboard

/-- Show the end of a run, and give its code. -/
def finish (log : Log.Record → IO Unit) (ending : Ending) (console : String)
    (records : List Log.Record) : IO UInt32 := do
  records.forM log
  IO.print console
  match ending with
  | .code n => return n.toUInt32
  | .failed failure => do
      IO.eprintln failure.message
      return 1

/-- Serve until the user interrupts. -/
def serveUntilInterrupted (log : Log.Record → IO Unit) (showDashboard : Bool) (plan : Plan)
    (asked : HostPort) (begun : Stats) : Std.Async.Async UInt32 := do
  match ← Network.listen asked with
  | .error cause =>
      let (ending, console, records) := conclusion (.error (bindFailure plan.listen cause))
      finish log ending console records
  | .ok (server, bound) =>
      let stats ← IO.mkRef begun
      let station : Network.Station := ⟨plan.target, plan.proxy, stats, ← IO.mkRef 1, log⟩
      log (listeningRecord bound plan.target plan.proxy)
      if showDashboard then
        let panel := plan.panel bound
        let dashboard := Dashboard.fresh panel.listen panel.target panel.proxy (← readMonotonic)
        Std.Async.background (draw stats dashboard)
      Std.Async.background (station.acceptAll server)
      let interrupt ← Std.Async.Signal.Waiter.mk .sigint false
      discard (Std.Async.await (← interrupt.wait))
      log closedRecord
      let (ending, console, records) := conclusion (.error .interrupted)
      finish log ending console records

/-- Run the server with settings. -/
def runServe (settings : Settings) : IO UInt32 := do
  let log := writeRecord settings.debug
  match settings.plan, HostPort.parse settings.listen with
  | .ok plan, .ok asked => do
      settings.warnings.forM log
      match Stats.begin (← Network.readClock) with
      | .error e => finish log (.failed (.clock e)) "" []
      | .ok begun => (serveUntilInterrupted log settings.dashboard plan asked begun).block
  | .error failure, _ => do
      let report := RunReport.invalid [] failure
      finish log report.ending report.console report.preface
  | _, .error e => do
      let report := RunReport.invalid [] (.address e)
      finish log report.ending report.console report.preface

/-- Do what a command line asks for. -/
def runCommand : Except UsageError Command → IO UInt32
  | .error e => do
      IO.eprintln (e.message ++ "\n\n" ++ usageText)
      return 2
  | .ok .showHelp => do
      IO.print usageText
      return 0
  | .ok .showVersion => do
      IO.print versionLine
      return 0
  | .ok .completion => do
      IO.eprintln "No shell is supported for completion."
      return 1
  | .ok (.serve settings) => runServe settings

end SocksTunnel.Program

/-- The program. -/
def main (args : List String) : IO UInt32 := do
  let environment ← SocksTunnel.Program.readEnvironment
  SocksTunnel.Program.runCommand (SocksTunnel.CommandLine.Command.read environment args)
