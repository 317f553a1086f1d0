import SocksTunnel.Server
import Std.Async.DNS
import Std.Async.TCP
import Std.Async.Timer

/-!
The server on the network of this machine.

Everything is decided by the definitions of the other modules: a `Dialogue` says what a handshake
sends and reads, and `Flow.step` says what a pump does next. Here the reads and sends are carried
out on connected sockets, and what the system answers is handed back as an arrival or a fault.
-/

namespace SocksTunnel.Network

open Std.Async Std.Net
open SocksTunnel.Log SocksTunnel.Relay SocksTunnel.Socks SocksTunnel.Text SocksTunnel.Traffic

/-- A connected socket of the system. -/
abbrev Channel := Std.Async.TCP.Socket.Client

/-- The time now. -/
def readClock : IO Reading := do
  let nanoseconds := (← Std.Time.Timestamp.now).toNanosecondsSinceUnixEpoch.val
  return .nearest (nanoseconds < 0) nanoseconds.natAbs 1000000000

/-! ### Faults and limits -/

/-- What the system reports. -/
def faultOf (e : IO.Error) : Fault := ⟨.system, none, toString e⟩

/-- A limit in milliseconds. One that cannot be counted is none. -/
def milliseconds? (limit : Timeout) : Option Nat :=
  limit.bind fun x => match Clock.microseconds x with
    | .ok n => some (n.toNat / 1000)
    | .error _ => none

/-- Wait until time is up, and fail. -/
def alarm {α : Type} (duration : Nat) : Async α := do
  Std.Async.sleep (.ofNat duration)
  throw (IO.userError "timed out")

/-- Wait for an action, but not longer than the limit. -/
def within {α : Type} [Inhabited α] (limit : Timeout) (action : Async α) : Async α :=
  match milliseconds? limit with
  | none => action
  | some duration => Async.race action (alarm duration)

/-! ### Channels -/

/-- Read at most `size` bytes. -/
def receive (channel : Channel) (limit : Timeout) (size : Nat) : Async Arrival := do
  try
    match ← within limit (channel.recv? size.toUInt64) with
    | some bytes => return .data bytes.toList
    | none => return .endOfStream
  catch e => return .fault (faultOf e)

/-- Send bytes. -/
def transmit (channel : Channel) (limit : Timeout) (bytes : Bytes) : Async (Option Fault) := do
  try
    within limit (channel.send (ByteArray.mk bytes.toArray))
    return none
  catch e => return some (faultOf e)

/-- Close the sending side. -/
def endSending (channel : Channel) : Async (Option Fault) := do
  try
    channel.shutdown
    return none
  catch e => return some (faultOf e)

/-- The addresses of a host. -/
def resolve (endpoint : HostPort) : Async (List SocketAddress) := do
  let found ← DNS.getAddrInfo endpoint.host (decimal endpoint.port.toNat)
  return found.toList.map fun address => match address with
    | .v4 a => .v4 ⟨a, endpoint.port⟩
    | .v6 a => .v6 ⟨a, endpoint.port⟩

/-- Connect to the first of some addresses that answers. -/
def dialAny (limit : Timeout) (last : Fault) : List SocketAddress → Async (Except Fault Channel)
  | [] => return .error last
  | address :: rest => do
      let channel ← Std.Async.TCP.Socket.Client.mk
      try
        within limit (channel.connect address)
        return .ok channel
      catch e => dialAny limit (faultOf e) rest

/-- Connect to a proxy. -/
def dial (proxy : Proxy) : Async (Except Fault Channel) := do
  try
    dialAny proxy.connectTimeout ⟨.system, none, "no address"⟩ (← resolve proxy.endpoint)
  catch e => return .error (faultOf e)

/-! ### Handshakes -/

/-- Read what is missing of a frame, `got` being there. -/
partial def readOn (channel : Channel) (limit : Timeout) (size : Nat) (got : Bytes) :
    Async (Except Breakdown Bytes) := do
  if got.length < size then
    match ← receive channel limit (size - got.length) with
    | .fault cause => return .error (.fault cause)
    | .endOfStream | .data [] => return .error (.error (.truncated got.length size))
    | .data bytes => readOn channel limit size (got ++ bytes)
  else return .ok got

/-- Hold a dialogue on a channel. -/
def converse {α : Type} (channel : Channel) (limit : Timeout) (log : Record → IO Unit) :
    Dialogue α → Async (Except Breakdown α)
  | .done result => return .ok result
  | .fail error => return .error (.error error)
  | .send bytes next => do
      match ← transmit channel limit bytes with
      | some cause => return .error (.fault cause)
      | none => converse channel limit log next
  | .read size next => do
      match ← readOn channel limit size [] with
      | .error cause => return .error cause
      | .ok bytes => converse channel limit log (next bytes)
  | .note message next => do
      log (.debug message)
      converse channel limit log next

/-! ### Relays -/

/-- A socket on which nothing will come in. -/
def silent : Socket := .fresh [] [] none

/-- What the next step of a pump will meet on its source and on its sink. -/
def meet (source sink : Channel) : Stage → Async (Socket × Socket)
  | .reading => do return (.fresh [← receive source none bufferSize] [] none, silent)
  | .sending chunk => do
      let faults := (← transmit sink none chunk).toList.map fun cause => (0, cause)
      return (silent, .fresh [] faults none)
  | .closing => do return (silent, .fresh [] [] (← endSending sink))
  | .counting _ | .finished => return (silent, silent)

/-- Carry bytes in one direction until the pump has finished. -/
partial def drive (direction : Direction) (stats : IO.Ref Stats) (source sink : Channel)
    (pump : Pump) : Async Pump := do
  if pump.stage = .finished then return pump
  let (read, written) ← meet source sink pump.stage
  let now ← readClock
  let pump ← stats.modifyGet fun s =>
    let flow := Flow.step direction now ⟨pump, read, written, some s⟩
    (flow.pump, flow.stats.getD s)
  drive direction stats source sink pump

/-- Relay a connection. -/
def relay (target : Target) (proxy : Proxy) (stats : IO.Ref Stats) (log : Record → IO Unit)
    (inbound : Channel) : Async (Except Failure Summary) := do
  match ← dial proxy with
  | .error cause => return .error (dialFailure proxy cause)
  | .ok outbound =>
      match ← converse outbound proxy.handshakeTimeout log (connect target proxy.credential) with
      | .error cause => return .error (handshakeFailure cause)
      | .ok _ =>
          log (startRecord target)
          let (up, down) ← Async.concurrently
            (drive .clientToServer stats inbound outbound .fresh)
            (drive .serverToClient stats outbound inbound .fresh)
          return outcomeOf up down

/-! ### The server -/

/-- A running server: what it forwards to, its statistics, the number of the next connection, and
where its records go. -/
structure Station where
  target : Target
  proxy : Proxy
  stats : IO.Ref Stats
  nextNumber : IO.Ref Nat
  log : Record → IO Unit

namespace Station

/-- Handle a connection. -/
def handle (s : Station) (channel : Channel) (peer : Peer) : Async Unit := do
  let number ← s.nextNumber.modifyGet fun n => (n, n + 1)
  let log (r : Record) : IO Unit := s.log (r.within ⟨number, peer.text⟩)
  log (arrivalRecord peer.text)
  s.stats.modify Stats.started
  let outcome ← relay s.target s.proxy s.stats log channel
  let (last, failure) := conclude peer.text outcome
  last.forM fun r => log r
  s.stats.modify (Stats.ended (isFailure outcome))
  if let some f := failure then s.log (unhandled peer f)
  discard (endSending channel)

/-- Accept connections for ever; each one is handled while the next is waited for. -/
partial def acceptAll (s : Station) (server : Std.Async.TCP.Socket.Server) : Async Unit := do
  try
    let channel ← server.accept
    let peer : Peer := match ← channel.getPeerName with
      | .v4 a => ⟨toString a.addr, a.port.toNat, []⟩
      | .v6 a => ⟨toString a.addr, a.port.toNat, [0, 0]⟩
    Std.Async.background (s.handle channel peer)
  catch e => s.log (refusalRecord (faultOf e))
  s.acceptAll server

end Station

/-- A socket that listens on the first address of a host, and where it is bound. -/
def listen (asked : HostPort) : Async (Except Fault (Std.Async.TCP.Socket.Server × HostPort)) := do
  try
    match ← resolve asked with
    | [] => return .error ⟨.system, none, "no address"⟩
    | address :: _ => do
        let server ← Std.Async.TCP.Socket.Server.mk
        server.bind address
        server.listen backlogSize.toUInt32
        let name : HostPort := match ← server.getSockName with
          | .v4 a => ⟨toString a.addr, a.port⟩
          | .v6 a => ⟨toString a.addr, a.port⟩
        return .ok (server, name)
  catch e => return .error (faultOf e)

end SocksTunnel.Network
