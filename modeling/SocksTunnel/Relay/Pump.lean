import SocksTunnel.Failure
import SocksTunnel.Socket
import SocksTunnel.Traffic.Stats

/-!
One direction of a relay, step by step.

A pump reads from its source, sends what it read to its sink, counts it, and reads again. When
the source ends or either socket reports a fault of the system, the sink's sending side is closed
and the pump has finished. `Flow.step` makes one step; `Flow.run` makes as many as the source can
call for.
-/

namespace SocksTunnel.Relay

open SocksTunnel.Text SocksTunnel.Traffic

/-- The two directions of a relay. -/
inductive Direction where
  | clientToServer
  | serverToClient
  deriving DecidableEq, Repr

def Direction.label : Direction → String
  | .clientToServer => "client to server"
  | .serverToClient => "server to client"

/-- What a pump does next. -/
inductive Stage where
  | reading
  | sending (chunk : Bytes)
  | counting (length : Nat)
  | closing
  | finished
  deriving DecidableEq, Repr

/-- A pump: what it does next, how many bytes it has delivered, the first fault it met, and the
failure that broke it, if one did that it does not handle. -/
structure Pump where
  stage : Stage
  copied : Nat
  fault : Option Fault
  broken : Option Failure
  deriving DecidableEq

namespace Pump

/-- A pump before its first read. -/
def fresh : Pump := ⟨.reading, 0, none, none⟩

/-- Meet a fault while copying. A fault of the system ends the copying; any other one breaks the
pump, and nothing is closed. -/
def meet (cause : Fault) (p : Pump) : Pump :=
  if cause.isSystem then { p with stage := .closing, fault := some cause }
  else { p with stage := .finished, broken := some (.fault cause) }

/-- Meet a fault in closing, which counts only if it is the first one. -/
def meetLate (cause : Fault) (p : Pump) : Pump :=
  if cause.isSystem then { p with stage := .finished, fault := p.fault.or (some cause) }
  else { p with stage := .finished, broken := some (.fault cause) }

end Pump

/-- A pump with the sockets it works on and the statistics it updates, if there are any. -/
structure Flow where
  pump : Pump
  source : Socket
  sink : Socket
  stats : Option Stats
  deriving DecidableEq

/-- How many bytes a pump asks for in a read. -/
def bufferSize : Nat := 65536

/-- Count delivered bytes in a direction. -/
def countDelivered (direction : Direction) (now : Reading) (length : Nat) (s : Stats) :
    Option ClockError × Stats :=
  match direction with
  | .clientToServer => s.count now length 0
  | .serverToClient => s.count now 0 length

namespace Flow

/-- One step of a pump. A pump that has finished makes no more steps. -/
def step (direction : Direction) (now : Reading) (f : Flow) : Flow :=
  match f.pump.stage with
  | .reading =>
      match f.source.recv bufferSize with
      | (.error cause, source) => { f with pump := f.pump.meet cause, source }
      | (.ok [], source) => { f with pump := { f.pump with stage := .closing }, source }
      | (.ok (b :: more), source) =>
          { f with pump := { f.pump with stage := .sending (b :: more) }, source }
  | .sending chunk =>
      match f.sink.send chunk with
      | (some cause, sink) => { f with pump := f.pump.meet cause, sink }
      | (none, sink) =>
          { f with
            pump := { f.pump with
              stage := .counting chunk.length
              copied := f.pump.copied + chunk.length }
            sink }
  | .counting length =>
      match f.stats with
      | none => { f with pump := { f.pump with stage := .reading } }
      | some stats =>
          match countDelivered direction now length stats with
          | (none, stats) =>
              { f with pump := { f.pump with stage := .reading }, stats := some stats }
          | (some e, stats) =>
              { f with
                pump := { f.pump with stage := .finished, broken := some (.clock e) }
                stats := some stats }
  | .closing =>
      match f.sink.halfClose with
      | (some cause, sink) => { f with pump := f.pump.meetLate cause, sink }
      | (none, sink) => { f with pump := { f.pump with stage := .finished }, sink }
  | .finished => f

/-- What is still to come on a socket, in units that every read uses up at least one of. -/
def supply : List Arrival → Nat
  | [] => 0
  | .data bytes :: rest => bytes.length + 1 + supply rest
  | _ :: rest => 1 + supply rest

/-- A bound on the steps that a pump can still make. -/
def bound (f : Flow) : Nat :=
  3 * supply f.source.arrivals + match f.pump.stage with
    | .reading => 2
    | .sending _ => 4
    | .counting _ => 3
    | .closing => 1
    | .finished => 0

/-- A number of steps. -/
def steps (direction : Direction) (now : Reading) : Nat → Flow → Flow
  | 0, f => f
  | n + 1, f => steps direction now n (step direction now f)

/-- All steps of a pump. -/
def run (direction : Direction) (now : Reading) (f : Flow) : Flow :=
  steps direction now f.bound f

end Flow

end SocksTunnel.Relay
