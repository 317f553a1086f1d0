import SocksTunnel.Traffic.History

/-!
Statistics of a running forwarder: how many connections there are and were, the bytes carried in
each direction, and the history that bandwidth is computed from.
-/

namespace SocksTunnel.Traffic

/-- Why a number does not fit the floating point format. -/
inductive MagnitudeError where
  /-- A quotient of integers is too large. -/
  | quotient
  /-- An integer is too large. -/
  | integer
  deriving DecidableEq, Repr

def MagnitudeError.message : MagnitudeError → String
  | .quotient => "integer division result too large for a float"
  | .integer => "int too large to convert to float"

/-- The quotient of an integer and a positive number, rounded to the format. -/
def quotient (n : Int) (d : Nat) : Except MagnitudeError Binary64 :=
  match Binary64.nearest (n < 0) n.natAbs d with
  | .infinite _ => .error .quotient
  | q => .ok q

/-- The counters, and the instant at which they were begun. -/
structure Stats where
  begun : Int
  active : Int
  total : Int
  failed : Int
  sent : Int
  received : Int
  history : History
  deriving DecidableEq, Repr

namespace Stats

/-- Statistics in which nothing has happened yet. -/
def empty (begun : Int) : Stats := ⟨begun, 0, 0, 0, 0, 0, []⟩

/-- Begin statistics at a reading of the clock, which has to be an instant. -/
def begin (now : Reading) : Except ClockError Stats := (Clock.instant now).map empty

/-- Count a connection that begins. -/
def started (s : Stats) : Stats := { s with active := s.active + 1, total := s.total + 1 }

/-- Count a connection that ends. -/
def ended (failed : Bool) (s : Stats) : Stats :=
  { s with active := s.active - 1, failed := if failed then s.failed + 1 else s.failed }

/-- Count bytes at a second. -/
def countAt (sent received second : Int) (s : Stats) : Stats :=
  { s with
    sent := s.sent + sent
    received := s.received + received
    history := s.history.add (sent + received) second }

/-- Count bytes at a reading of the clock. The totals grow even if the reading has no second. -/
def count (now : Reading) (sent received : Int) (s : Stats) : Option ClockError × Stats :=
  match Clock.second now with
  | .ok second => (none, s.countAt sent received second)
  | .error e => (some e, { s with sent := s.sent + sent, received := s.received + received })

/-- Microseconds since the statistics were begun. -/
def uptime (now : Reading) (s : Stats) : Except ClockError Int :=
  (Clock.instant now).map (· - s.begun)

/-- Bytes per second over the window that ends at a reading. -/
def bandwidth (now : Reading) (s : Stats) : Except MagnitudeError Binary64 :=
  quotient (s.history.totalInWindow now) History.window

end Stats

end SocksTunnel.Traffic
