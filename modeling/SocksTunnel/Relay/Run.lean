import SocksTunnel.Log.Record
import SocksTunnel.Relay.Pump
import SocksTunnel.Socks.Handshake

/-!
One connection, from the dial to the end of both directions.

The proxy is dialled, the handshake is held under its own limit, and then the two pumps run until
both have finished. Neither pump looks at the other: one direction may end long before the other.
The outbound socket is closed whatever happens; the inbound one belongs to the caller.
-/

namespace SocksTunnel.Relay

open SocksTunnel.Log SocksTunnel.Socks SocksTunnel.Traffic

/-- An attempt to connect to the proxy, with the socket if it succeeded. -/
structure Dial where
  endpoint : HostPort
  limit : Timeout
  socket : Option Socket
  deriving DecidableEq

/-- The bytes carried in each direction. -/
structure Summary where
  sent : Nat
  received : Nat
  deriving DecidableEq, Repr

/-- How a relay went. -/
structure Report where
  outcome : Except Failure Summary
  dial : Dial
  inbound : Socket
  stats : Option Stats
  log : List Record

/-- The failure of a dial. -/
def dialFailure (proxy : Proxy) (cause : Fault) : Failure :=
  if cause.isSystem then .unreachable proxy.address cause else .fault cause

/-- The failure of a handshake. -/
def handshakeFailure : Breakdown → Failure
  | .error e => .handshakeFailed (.handshake e)
  | .fault cause => if cause.isSystem then .handshakeFailed (.fault cause) else .fault cause

/-- The faults of two pumps, each under the name of its direction. -/
def faultsOf (up down : Pump) : List (String × Fault) :=
  (up.fault.toList.map fun f => (Direction.clientToServer.label, f))
    ++ down.fault.toList.map fun f => (Direction.serverToClient.label, f)

/-- The outcome of two pumps that have finished. A failure that broke the second one comes out as
it is. One that broke the first one is not seen. -/
def outcomeOf (up down : Pump) : Except Failure Summary :=
  match down.broken with
  | some failure => .error failure
  | none =>
      match faultsOf up down with
      | [] => .ok ⟨up.copied, down.copied⟩
      | faults => .error (.relayIo faults)

/-- The record of a handshake that succeeded. -/
def startRecord (target : Target) : Record := .info ("Start relay to " ++ target.text)

/-- Relay a connection. `outbound` is what dialling the proxy gives. -/
def run (target : Target) (proxy : Proxy) (now : Reading) (stats : Option Stats)
    (inbound : Socket) (outbound : Except Fault Socket) : Report :=
  let dial (socket : Option Socket) : Dial := ⟨proxy.endpoint, proxy.connectTimeout, socket⟩
  match outbound with
  | .error cause => ⟨.error (dialFailure proxy cause), dial none, inbound, stats, []⟩
  | .ok socket =>
      let held := (connect target proxy.credential).run (socket.setLimit proxy.handshakeTimeout)
      let notes := held.notes.map Record.debug
      match held.outcome with
      | .error b =>
          ⟨.error (handshakeFailure b), dial (some held.socket.close), inbound, stats, notes⟩
      | .ok _ =>
          let up := Flow.run .clientToServer now
            ⟨.fresh, inbound, held.socket.setLimit none, stats⟩
          let down := Flow.run .serverToClient now ⟨.fresh, up.sink, up.source, up.stats⟩
          { outcome := outcomeOf up.pump down.pump
            dial := dial (some down.source.close)
            inbound := down.sink
            stats := down.stats
            log := notes ++ [startRecord target] }

end SocksTunnel.Relay
