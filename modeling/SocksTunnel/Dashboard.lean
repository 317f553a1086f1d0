import SocksTunnel.Size
import SocksTunnel.Text.Columns

/-!
The live dashboard, as the text of its rows.

The bandwidth shown follows the real one only when they differ by more than a threshold, so that
it does not flicker, and a spinner in front of it turns with time.
-/

namespace SocksTunnel

open SocksTunnel.Text SocksTunnel.Traffic

/-! ### What is shown of a changing value -/

/-- The value to show: the current one if it is far from the one shown, otherwise that one. -/
def steady {α : Type} (far : α → α → Bool) (shown current : α) : α :=
  if far current shown then current else shown

/-! ### The spinner -/

namespace Spinner

def frames : List Char := ['⠋', '⠙', '⠹', '⠸', '⠼', '⠴', '⠦', '⠧', '⠇', '⠏']

/-- Seconds for each frame. -/
def interval : Binary64 := .ofRat (80 / 1000)

/-- The frame that is shown some time after the spinner was started. -/
def frame (elapsed : Binary64) : Except ClockError Char :=
  let turns := elapsed.div interval
  match turns.truncate? with
  | some n => .ok (frames.getD (Int.fmod n 10).toNat '⠋')
  | none => .error (.ofNumber turns)

end Spinner

/-! ### The dashboard -/

/-- Why a dashboard cannot be drawn. -/
inductive DisplayError where
  | clock (error : ClockError)
  | magnitude (error : MagnitudeError)
  deriving DecidableEq, Repr

def DisplayError.message : DisplayError → String
  | .clock e => e.message
  | .magnitude e => e.message

/-- A dashboard: what it names, the bandwidth it shows, when it was built, and the time at which
its spinner was started, counted from then. -/
structure Dashboard where
  listen : String
  target : String
  proxy : String
  shown : Binary64
  built : Reading
  spinnerStart : Option Binary64
  deriving DecidableEq

namespace Dashboard

def fresh (listen target proxy : String) (built : Reading) : Dashboard :=
  ⟨listen, target, proxy, .zero false, built, none⟩

/-- The title. Control characters that move the cursor are left out of it. -/
def title (d : Dashboard) : String :=
  String.ofList (("SOCKS5 Forwarder: " ++ d.listen).toList.filter (!isCursorControl ·))

def subtitle : String := "Press Ctrl+C to exit"

/-- Bandwidths closer than this, in bytes per second, are shown as the same. -/
def threshold : Binary64 := .ofInt 100

/-- Whether two bandwidths differ by more than the threshold. -/
def farApart (x y : Binary64) : Bool := Binary64.lt threshold (x.sub y).abs

/-- Take notice of the current bandwidth. -/
def observe (current : Binary64) (d : Dashboard) : Dashboard :=
  { d with shown := steady farApart d.shown current }

/-- Start the spinner, if it has not been started, at a time since the dashboard was built. -/
def startSpinner (elapsed : Binary64) (d : Dashboard) : Dashboard :=
  { d with spinnerStart := some (d.spinnerStart.getD elapsed) }

/-- The time since the statistics were begun, to the second. -/
def uptimeText (now : Reading) (stats : Stats) : Except ClockError String :=
  (stats.uptime now).map Clock.spanText

/-- The rows of a dashboard: a label and a value each. -/
def rows (d : Dashboard) (stats : Stats) (now : Reading) (elapsed : Binary64) :
    Except DisplayError (List (String × String)) := do
  let frame ← (Spinner.frame (elapsed.sub (d.spinnerStart.getD elapsed))).mapError .clock
  let uptime ← (uptimeText now stats).mapError .clock
  let sent ← (Size.ofInt stats.sent).mapError .magnitude
  let received ← (Size.ofInt stats.received).mapError .magnitude
  return [("Target", d.target), ("Proxy", d.proxy), ("Uptime", uptime),
    ("Bandwidth", frame.toString ++ " " ++ Size.text d.shown ++ "/s"),
    ("Active Connections", signedDecimal stats.active),
    ("Total Connections", signedDecimal stats.total),
    ("Failed Connections", signedDecimal stats.failed),
    ("Sent", sent), ("Received", received)]

/-- Draw a dashboard. The bandwidth is observed and the spinner started before the rows are
written. -/
def render (stats : Stats) (now monotonic : Reading) (d : Dashboard) :
    Except DisplayError (List (String × String)) × Dashboard :=
  match stats.bandwidth now with
  | .error e => (.error (.magnitude e), d)
  | .ok current =>
      let elapsed := monotonic.sub d.built
      let d := (d.observe current).startSpinner elapsed
      (d.rows stats now elapsed, d)

end Dashboard

end SocksTunnel
