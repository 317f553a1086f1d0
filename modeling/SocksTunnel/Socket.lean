import SocksTunnel.Fault
import SocksTunnel.Proxy

/-!
Sockets. A socket is what will come in on it, what will fail on it, and what has been done with
it so far.

A read takes bytes from the first arrival only, at most as many as asked for, and reports the end
of the stream by an empty result. A send either records its bytes as one chunk or fails and
records nothing.
-/

namespace SocksTunnel

open SocksTunnel.Text

/-- Something that comes in on a socket. -/
inductive Arrival where
  | data (bytes : Bytes)
  | fault (cause : Fault)
  | endOfStream
  deriving DecidableEq, Repr

/-- A connected socket: its future and its past. -/
structure Socket where
  /-- What will come in, in order; the stream ends after it. -/
  arrivals : List Arrival
  /-- Which sends fail, counted from zero. -/
  sendFaults : List (Nat × Fault)
  /-- How a half close fails. -/
  closeFault : Option Fault
  /-- The sizes asked for, one for each read. -/
  reads : List Nat
  /-- The chunks sent. -/
  sent : List Bytes
  /-- How many sends were tried. -/
  attempts : Nat
  /-- How often the sending side was closed. -/
  halfCloses : Nat
  /-- The limits set, in order. -/
  limits : List Timeout
  /-- How often the socket was closed. -/
  closes : Nat
  deriving DecidableEq

namespace Socket

/-- A socket on which nothing has been done. -/
def fresh (arrivals : List Arrival) (sendFaults : List (Nat × Fault)) (closeFault : Option Fault) :
    Socket :=
  ⟨arrivals, sendFaults, closeFault, [], [], 0, 0, [], 0⟩

/-- What a read of at most `size` bytes finds, and the arrivals after it. -/
def arrive (size : Nat) : List Arrival → Except Fault Bytes × List Arrival
  | [] => (.ok [], [])
  | .endOfStream :: rest => (.ok [], rest)
  | .fault cause :: rest => (.error cause, rest)
  | .data bytes :: rest =>
      let left := bytes.drop size
      (.ok (bytes.take size), if left.isEmpty then rest else .data left :: rest)

/-- Read at most `size` bytes. -/
def recv (size : Nat) (s : Socket) : Except Fault Bytes × Socket :=
  let (found, rest) := arrive size s.arrivals
  (found, { s with arrivals := rest, reads := s.reads ++ [size] })

/-- The fault of the send that comes next. -/
def nextSendFault (s : Socket) : Option Fault := s.sendFaults.lookup s.attempts

/-- Send bytes as one chunk. -/
def send (bytes : Bytes) (s : Socket) : Option Fault × Socket :=
  match s.nextSendFault with
  | some cause => (some cause, { s with attempts := s.attempts + 1 })
  | none => (none, { s with attempts := s.attempts + 1, sent := s.sent ++ [bytes] })

/-- Close the sending side. -/
def halfClose (s : Socket) : Option Fault × Socket :=
  (s.closeFault, { s with halfCloses := s.halfCloses + 1 })

/-- Set the limit for each later operation. -/
def setLimit (limit : Timeout) (s : Socket) : Socket := { s with limits := s.limits ++ [limit] }

def close (s : Socket) : Socket := { s with closes := s.closes + 1 }

end Socket

end SocksTunnel
