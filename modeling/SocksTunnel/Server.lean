import SocksTunnel.Relay.Run
import SocksTunnel.Size

/-!
The listening server.

It binds one socket, takes connections from it in order and gives each to a handler of its own.
Whatever goes wrong with a connection is logged and ends with that connection: the inbound socket
is half closed and closed, and the next connection is taken.

A run of the server is a function of what the accept loop meets, entry by entry.
-/

namespace SocksTunnel

open SocksTunnel.Text SocksTunnel.Log SocksTunnel.Relay SocksTunnel.Traffic

/-- The address of a peer. An IPv6 peer has further numbers after the port. -/
structure Peer where
  ip : String
  port : Int
  further : List Int
  deriving DecidableEq, Repr

namespace Peer

/-- The address as `ip:port`. -/
def text (p : Peer) : String := p.ip ++ ":" ++ signedDecimal p.port

/-- The address with all its parts, in parentheses. -/
def parts (p : Peer) : String :=
  "(" ++ ", ".intercalate (quote p.ip :: (p.port :: p.further).map signedDecimal) ++ ")"

end Peer

/-! ### What the accept loop meets -/

/-- A connection as it is accepted: who it is from, its socket, what dialling the proxy will give,
and the fault that keeps its handler from starting, if there is one. -/
structure Incoming where
  peer : Peer
  inbound : Socket
  outbound : Except Fault Socket
  spawnFault : Option Fault

/-- What one turn of the accept loop meets. -/
inductive Event where
  | refused (cause : Fault)
  | accepted (incoming : Incoming)

/-- An entry: a new reading of the clock, if there is one, and an event. -/
structure Entry where
  now : Option Reading
  event : Event

/-- The state after an entry, as far as it is to be seen. -/
structure EntryReport where
  inbound : Option Socket
  dials : List Dial
  stats : Stats
  log : List Record

/-! ### Handling a connection -/

/-- How a handler went: the failure that left it, if any, and what it did. -/
structure Handled where
  failure : Option Failure
  inbound : Socket
  dial : Dial
  stats : Stats
  log : List Record

/-- The words for a relay that has finished. A number of bytes that is too large for the floating
point format has none. -/
def finishedText (summary : Summary) : Except MagnitudeError String := do
  let sent ← Size.ofInt summary.sent
  let received ← Size.ofInt summary.received
  return "Relay finished: " ++ sent ++ " sent, " ++ received ++ " received"

/-- The last record for a relay that has finished, if there are words for it, and the failure that
leaves the handler. -/
def finish : Except MagnitudeError String → List Record × Option Failure
  | .ok text => ([.info text], none)
  | .error e => ([], some (.magnitude e))

/-- The last record of a handler, if it makes one, and the failure that leaves it. -/
def conclude (peer : String) : Except Failure Summary → List Record × Option Failure
  | .ok summary => finish (finishedText summary)
  | .error failure =>
      if failure.isOf .relay then
        ([.error ("Relay for " ++ peer ++ " failed: " ++ failure.message)], none)
      else ([], some failure)

/-- Whether a relay failed. -/
def isFailure : Except Failure Summary → Bool
  | .ok _ => false
  | .error _ => true

/-- The first record of a handler. -/
def arrivalRecord (peer : String) : Record :=
  .info ("Receive new incoming connection from " ++ peer)

/-- Relay a connection and log how it went. -/
def handle (target : Target) (proxy : Proxy) (now : Reading) (number : Nat) (stats : Stats)
    (incoming : Incoming) : Handled :=
  let peer := incoming.peer.text
  let report := Relay.run target proxy now (some stats.started) incoming.inbound incoming.outbound
  let (last, failure) := conclude peer report.outcome
  let log := arrivalRecord peer :: report.log ++ last
  { failure
    inbound := report.inbound
    dial := report.dial
    stats := (report.stats.getD stats.started).ended (isFailure report.outcome)
    log := log.map (Record.within ⟨number, peer⟩) }

/-- The record of a failure that left a handler or kept it from starting. -/
def unhandled (peer : Peer) (failure : Failure) : Record :=
  .unexpected ("Unhandled error for connection from " ++ peer.parts) failure

/-- Give up a connection: half close its socket and close it. A fault of the system in half
closing does not matter; any other one keeps the socket open and is the result. -/
def giveUp (inbound : Socket) : Option Fault × Socket :=
  match inbound.halfClose with
  | (some cause, s) => if cause.isSystem then (none, s.close) else (some cause, s)
  | (none, s) => (none, s.close)

/-! ### The accept loop -/

/-- The record of a connection that could not be accepted. -/
def refusalRecord (cause : Fault) : Record :=
  .error ("Receiving incoming connection in failure: " ++ cause.message)

/-- What the accept loop carries from entry to entry. -/
structure LoopState where
  now : Reading
  nextNumber : Nat
  stats : Stats

/-- One turn of the accept loop: the report on the entry, the next state, and the failure that
ends the loop, if one does. -/
def takeEntry (target : Target) (proxy : Proxy) (state : LoopState) (entry : Entry) :
    EntryReport × LoopState × Option Failure :=
  let state := { state with now := entry.now.getD state.now }
  match entry.event with
  | .refused cause =>
      if cause.isSystem then (⟨none, [], state.stats, [refusalRecord cause]⟩, state, none)
      else (⟨none, [], state.stats, []⟩, state, some (.fault cause))
  | .accepted incoming =>
      match incoming.spawnFault with
      | some cause =>
          let (late, inbound) := giveUp incoming.inbound
          (⟨some inbound, [], state.stats, [unhandled incoming.peer (.fault cause)]⟩, state,
            late.map .fault)
      | none =>
          let handled := handle target proxy state.now state.nextNumber state.stats incoming
          let (_, inbound) := giveUp handled.inbound
          let log := handled.log ++ (handled.failure.toList.map (unhandled incoming.peer))
          (⟨some inbound, [handled.dial], handled.stats, log⟩,
            { state with nextNumber := state.nextNumber + 1, stats := handled.stats }, none)

/-- How the accept loop went: the reports on the entries that were finished, the records of the
entry that ended the loop, and the failure that did. -/
structure LoopReport where
  entries : List EntryReport
  lastLog : List Record
  failure : Option Failure

/-- Take entries until they run out or a failure ends the loop. -/
def takeEntries (target : Target) (proxy : Proxy) : LoopState → List Entry → LoopReport
  | _, [] => ⟨[], [], none⟩
  | state, entry :: rest =>
      match takeEntry target proxy state entry with
      | (report, _, some failure) => ⟨[], report.log, some failure⟩
      | (report, state, none) =>
          let loop := takeEntries target proxy state rest
          { loop with entries := report :: loop.entries }

/-! ### The listening socket -/

/-- Families of listening sockets. -/
inductive Family where
  | ipv4
  | ipv6
  deriving DecidableEq, Repr

/-- A host with a colon is an IPv6 address. -/
def Family.ofHost (host : String) : Family :=
  if host.toList.contains ':' then .ipv6 else .ipv4

/-- A listening socket: what was done with it. Its address may always be bound again while old
connections linger. -/
structure Listener where
  family : Family
  bound : HostPort
  backlog : Option Nat
  closes : Nat
  deriving DecidableEq, Repr

/-- How many connections may wait to be accepted. -/
def backlogSize : Nat := 128

/-- What the system makes of binding a socket: the fault, if it cannot be bound, and the name that
a socket gets that was bound to an address. -/
structure Binding where
  fault : Option Fault
  name : HostPort → HostPort

namespace Binding

/-- The usual name is the address itself, but for a free port in place of port zero. -/
def usual (fault : Option Fault) : Binding where
  fault
  name asked := { asked with port := if asked.port = 0 then 49152 else asked.port }

instance : Coe (Option Fault) Binding := ⟨usual⟩

end Binding

/-! ### A run of the server -/

/-- What a server starts from, and what happens to it from outside. -/
structure Circumstances where
  now : Reading
  stats : Stats
  binding : Binding
  listenFault : Option Fault
  entries : List Entry
  /-- Whether the user interrupts the loop after the last entry; otherwise it is shut down. -/
  interrupted : Bool

/-- How a run of the server went. -/
structure ServerReport where
  outcome : Except Failure Unit
  listener : Option Listener
  /-- The records made before the first entry is taken. -/
  opening : List Record
  /-- The address that the server is ready on, once it is. -/
  ready : Option HostPort
  entries : List EntryReport
  /-- The records made after the last entry that was finished. -/
  closing : List Record

/-- The failure of a listening socket that cannot be set up. -/
def bindFailure (listen : String) (cause : Fault) : Failure :=
  if cause.isSystem then .bind listen cause else .fault cause

/-- The record of a server that is ready. -/
def listeningRecord (address : HostPort) (target : Target) (proxy : Proxy) : Record :=
  .info ("Listening at " ++ address.host ++ ":" ++ decimal address.port.toNat ++ ", forwarding to "
    ++ target.text ++ " via " ++ proxy.address)

/-- The last record of a server. -/
def closedRecord : Record := .info "Listener closed"

/-- Serve on a listening address. -/
def serve (listen : String) (target : Target) (proxy : Proxy) (c : Circumstances) :
    ServerReport :=
  match HostPort.parse listen with
  | .error e => ⟨.error (.address e), none, [], none, [], []⟩
  | .ok asked =>
      let listener (backlog : Option Nat) : Listener :=
        ⟨Family.ofHost asked.host, asked, backlog, 1⟩
      match c.binding.fault, c.listenFault with
      | some cause, _ =>
          ⟨.error (bindFailure listen cause), some (listener none), [], none, [], []⟩
      | none, some cause =>
          ⟨.error (bindFailure listen cause), some (listener (some backlogSize)), [], none, [], []⟩
      | none, none =>
          let address := c.binding.name asked
          let loop := takeEntries target proxy ⟨c.now, 1, c.stats⟩ c.entries
          let ending : Option Failure :=
            loop.failure.or (if c.interrupted then some .interrupted else none)
          { outcome := match ending with
              | some failure => .error failure
              | none => .ok ()
            listener := some (listener (some backlogSize))
            opening := [listeningRecord address target proxy]
            ready := some address
            entries := loop.entries
            closing := loop.lastLog ++ [closedRecord] }

end SocksTunnel
