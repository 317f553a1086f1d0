import SocksTunnel.Proofs.Relay.Lane
import SocksTunnel.Proofs.Relay.Transparent

/-!
What the statistics know of the bytes that are delivered: all chunks but the one that a pump has
sent and not yet counted. This holds whatever the clock shows, for the totals grow even where the
history cannot.

* `Flow.Delivered.step`, `Flow.Delivered.steps` — a flow keeps its chunks in two lists, those that
  were counted and at most one that waits to be; the counters grow by the bytes of the first list.
* `Flow.run_delivers` — when a pump has finished, all its chunks are counted.
* `run_counts` — so a relay adds to the statistics just what it has delivered on the two sockets
  behind the frames of the handshake.
-/

namespace SocksTunnel

open SocksTunnel.Text SocksTunnel.Socks SocksTunnel.Traffic

namespace Traffic

/-! ### Counters -/

/-- The counters of the statistics. -/
inductive Counter where
  | active
  | total
  | failed
  | sent
  | received
  deriving DecidableEq, Repr

/-- What a connection adds to a counter when it begins. -/
def Counter.atStart : Counter → Int
  | .active => 1
  | .total => 1
  | _ => 0

/-- What a connection adds to a counter when it ends. -/
def Counter.atEnd (failed : Bool) : Counter → Int
  | .active => -1
  | .failed => if failed then 1 else 0
  | _ => 0

namespace Stats

/-- What a counter shows. -/
def read (s : Stats) : Counter → Int
  | .active => s.active
  | .total => s.total
  | .failed => s.failed
  | .sent => s.sent
  | .received => s.received

theorem read_started (s : Stats) (c : Counter) : s.started.read c = s.read c + c.atStart := by
  cases c <;> simp [read, started, Counter.atStart]

theorem read_ended (failed : Bool) (s : Stats) (c : Counter) :
    (s.ended failed).read c = s.read c + c.atEnd failed := by
  cases c with
  | failed => cases failed <;> simp [read, ended, Counter.atEnd]
  | _ => simp [read, ended, Counter.atEnd, Int.sub_eq_add_neg]

@[simp] theorem read_empty (begun : Int) (c : Counter) : (empty begun).read c = 0 := by
  cases c <;> rfl

end Stats

end Traffic

namespace Relay

/-- The number of bytes in chunks. -/
def volume (chunks : List Bytes) : Int := chunks.flatten.length

@[simp] theorem volume_nil : volume [] = 0 := rfl

@[simp] theorem volume_append (chunks chunks' : List Bytes) :
    volume (chunks ++ chunks') = volume chunks + volume chunks' := by
  simp [volume]

@[simp] theorem volume_singleton (chunk : Bytes) : volume [chunk] = chunk.length := by
  simp [volume]

/-- What a number of bytes delivered in a direction adds to a counter. -/
def Direction.credit (n : Int) : Direction → Counter → Int
  | .clientToServer, .sent => n
  | .serverToClient, .received => n
  | _, _ => 0

variable {direction : Direction} {now : Reading}

@[simp] theorem Direction.credit_zero (c : Counter) : direction.credit 0 c = 0 := by
  cases direction <;> cases c <;> rfl

theorem Direction.credit_add (m n : Int) (c : Counter) :
    direction.credit (m + n) c = direction.credit m c + direction.credit n c := by
  cases direction <;> cases c <;> simp [credit]

/-- Bytes are credited whatever the clock shows. -/
theorem read_countDelivered (length : Nat) (s : Stats) (c : Counter) :
    (countDelivered direction now length s).2.read c = s.read c + direction.credit length c := by
  cases direction <;> cases second : Clock.second now <;> cases c <;>
    simp [countDelivered, Stats.count, second, Stats.countAt, Stats.read, Direction.credit]

/-! ### Chunks counted and not yet counted -/

/-- The chunks that were sent and not yet counted, in a stage. -/
def Stage.Awaits : Stage → List Bytes → Prop
  | .counting length, pending => ∃ chunk, pending = [chunk] ∧ chunk.length = length
  | _, pending => pending = []

/-- There is at most one such chunk. -/
theorem Stage.Awaits.length_le {stage : Stage} {pending : List Bytes}
    (awaits : stage.Awaits pending) : pending.length ≤ 1 := by
  cases stage with
  | counting length =>
      obtain ⟨chunk, rfl, -⟩ := awaits
      exact Nat.le_refl 1
  | reading | sending | closing | finished =>
      rw [awaits]
      exact Nat.zero_le 1

theorem Pump.awaits_meet (cause : Fault) (p : Pump) : (p.meet cause).stage.Awaits [] := by
  rcases p.stage_meet cause with stage | stage <;> simp [stage, Stage.Awaits]

theorem Pump.awaits_heard (found : Except Fault Bytes) (p : Pump) :
    (p.heard found).stage.Awaits [] := by
  rcases found with cause | (_ | ⟨b, more⟩)
  · exact p.awaits_meet cause
  · exact rfl
  · exact rfl

theorem Pump.awaits_counted (error : Option ClockError) (p : Pump) :
    (p.counted error).stage.Awaits [] := by
  cases error <;> exact rfl

theorem Pump.awaits_closed (fault : Option Fault) (p : Pump) :
    (p.closed fault).stage.Awaits [] := by
  cases fault with
  | none => exact rfl
  | some cause => simp [closed, stage_meetLate, Stage.Awaits]

namespace Flow

/-- A flow that has sent chunks behind those that were there before: `counted` are in the
statistics, `pending` are not yet. -/
structure Delivered (before counted pending : List Bytes) (f : Flow) : Prop where
  sent : f.sink.sent = before ++ counted ++ pending
  awaits : f.pump.stage.Awaits pending

variable {before counted pending : List Bytes} {f g : Flow} {s : Stats}

theorem Delivered.of_lane (same : f.lane = g.lane)
    (delivered : f.Delivered before counted pending) : g.Delivered before counted pending := by
  obtain ⟨sent, awaits⟩ := delivered
  have outlet : f.sink.sent = g.sink.sent :=
    congrArg (fun l => l.outlet.sent) same
  have pump : f.pump = g.pump := congrArg Lane.pump same
  exact ⟨outlet ▸ sent, pump ▸ awaits⟩

/-- A step sends a chunk, counts the one that is pending, or leaves both lists as they are. The
counters grow with the list of what is counted. -/
theorem Delivered.step (direction : Direction) (now : Reading)
    (delivered : f.Delivered before counted pending) (present : f.stats = some s) :
    ∃ counted' pending' s', (f.step direction now).Delivered before counted' pending' ∧
      (f.step direction now).stats = some s' ∧
      ∀ c, s'.read c = s.read c + direction.credit (volume counted' - volume counted) c := by
  obtain ⟨sent, awaits⟩ := delivered
  have same : ∀ c, s.read c =
      s.read c + direction.credit (volume counted - volume counted) c := by
    intro c
    simp
  cases stage : f.pump.stage with
  | reading =>
      rw [stage] at awaits
      subst awaits
      rw [step_of_reading stage]
      exact ⟨counted, [], s, ⟨sent, Pump.awaits_heard _ _⟩, present, same⟩
  | sending chunk =>
      rw [stage] at awaits
      subst awaits
      rw [step_of_sending stage, Socket.send]
      cases fault : f.sink.nextSendFault with
      | some cause => exact ⟨counted, [], s, ⟨sent, Pump.awaits_meet _ _⟩, present, same⟩
      | none =>
          refine ⟨counted, [chunk], s, ⟨?_, chunk, rfl, rfl⟩, present, same⟩
          simp [sent]
  | counting length =>
      rw [stage] at awaits
      obtain ⟨chunk, rfl, rfl⟩ := awaits
      rw [step_of_counting stage, present]
      refine ⟨counted ++ [chunk], [], _, ⟨?_, Pump.awaits_counted _ _⟩, rfl, ?_⟩
      · simp [sent]
      · intro c
        rw [read_countDelivered, volume_append, volume_singleton, Int.add_comm (volume counted),
          Int.add_sub_cancel]
  | closing =>
      rw [stage] at awaits
      subst awaits
      rw [step_of_closing stage]
      exact ⟨counted, [], s, ⟨sent, Pump.awaits_closed _ _⟩, present, same⟩
  | finished =>
      rw [step_of_finished stage]
      exact ⟨counted, pending, s, ⟨sent, awaits⟩, present, same⟩

theorem Delivered.steps (direction : Direction) (now : Reading) (n : Nat)
    (delivered : f.Delivered before counted pending) (present : f.stats = some s) :
    ∃ counted' pending' s', (f.steps direction now n).Delivered before counted' pending' ∧
      (f.steps direction now n).stats = some s' ∧
      ∀ c, s'.read c = s.read c + direction.credit (volume counted' - volume counted) c := by
  induction n generalizing f counted pending s with
  | zero =>
      refine ⟨counted, pending, s, delivered, present, ?_⟩
      intro c
      simp
  | succ n ih =>
      obtain ⟨counted', pending', s', delivered', present', grown⟩ :=
        delivered.step direction now present
      obtain ⟨counted'', pending'', s'', delivered'', present'', grown'⟩ := ih delivered' present'
      refine ⟨counted'', pending'', s'', delivered'', present'', ?_⟩
      intro c
      rw [grown', grown, Int.add_assoc, ← Direction.credit_add]
      congr 2
      omega

/-- When a pump that was fresh has finished, the chunks it has sent are all counted. -/
theorem run_delivers (direction : Direction) (now : Reading) (source sink : Socket) (s : Stats) :
    ∃ chunks s', (run direction now ⟨.fresh, source, sink, some s⟩).sink.sent =
        sink.sent ++ chunks ∧
      (run direction now ⟨.fresh, source, sink, some s⟩).stats = some s' ∧
      ∀ c, s'.read c = s.read c + direction.credit (volume chunks) c := by
  have fresh : Delivered sink.sent [] [] ⟨.fresh, source, sink, some s⟩ := ⟨by simp, rfl⟩
  obtain ⟨counted, pending, s', ⟨sent, awaits⟩, present, grown⟩ :=
    fresh.steps direction now (bound ⟨.fresh, source, sink, some s⟩) rfl
  have finished := @finished_run direction now ⟨.fresh, source, sink, some s⟩
  rw [run] at finished
  rw [finished] at awaits
  subst awaits
  refine ⟨counted, s', ?_, present, ?_⟩
  · rw [run, sent, List.append_nil]
  · simpa using grown

end Flow

/-! ### Relays -/

/-- The chunks that are on a dialled socket when the bytes of the client begin to follow them. -/
def preface (target : Target) (proxy : Proxy) : Except Fault Socket → List Bytes
  | .error _ => []
  | .ok socket =>
      ((connect target proxy.credential).run (socket.setLimit proxy.handshakeTimeout)).socket.sent

/-- The chunks sent on a dialled socket. -/
def Dial.sent (d : Dial) : List Bytes := d.socket.elim [] Socket.sent

theorem pumps_count (now : Reading) (s : Stats) (inbound outbound : Socket) :
    ∃ up down s', (pumps now (some s) inbound outbound).2.source.sent = outbound.sent ++ up ∧
      (pumps now (some s) inbound outbound).2.sink.sent = inbound.sent ++ down ∧
      (pumps now (some s) inbound outbound).2.stats = some s' ∧
      ∀ c, s'.read c = s.read c + Direction.clientToServer.credit (volume up) c +
        Direction.serverToClient.credit (volume down) c := by
  obtain ⟨up, s', sent, present, grown⟩ :=
    Flow.run_delivers .clientToServer now inbound (outbound.setLimit none) s
  have first : (pumps now (some s) inbound outbound).1 =
      Flow.run .clientToServer now ⟨.fresh, inbound, outbound.setLimit none, some s⟩ := rfl
  have second : (pumps now (some s) inbound outbound).2 =
      Flow.run .serverToClient now ⟨.fresh, (pumps now (some s) inbound outbound).1.sink,
        (pumps now (some s) inbound outbound).1.source, some s'⟩ := by
    rw [← present, ← first]
    rfl
  obtain ⟨down, s'', sent', present', grown'⟩ := Flow.run_delivers .serverToClient now
    (pumps now (some s) inbound outbound).1.sink (pumps now (some s) inbound outbound).1.source s'
  rw [← second] at sent' present'
  refine ⟨up, down, s'', ?_, ?_, present', ?_⟩
  · rw [second, Flow.sent_run_source, first]
    exact sent
  · rw [sent', first, Flow.sent_run_source]
  · intro c
    rw [grown', grown]

/-- A relay adds to the counters just the bytes that it has delivered on the two sockets, behind
what was there before; it does so whatever fails and whatever the clock shows. -/
theorem run_counts (target : Target) (proxy : Proxy) (now : Reading) (s : Stats)
    (inbound : Socket) (outbound : Except Fault Socket) :
    ∃ up down s', (run target proxy now (some s) inbound outbound).dial.sent =
        preface target proxy outbound ++ up ∧
      (run target proxy now (some s) inbound outbound).inbound.sent = inbound.sent ++ down ∧
      (run target proxy now (some s) inbound outbound).stats = some s' ∧
      ∀ c, s'.read c = s.read c + Direction.clientToServer.credit (volume up) c +
        Direction.serverToClient.credit (volume down) c := by
  rcases run_cases target proxy inbound outbound with
    ⟨cause, rfl, ran⟩ | ⟨socket, held, cause, rfl, rfl, -, ran⟩ |
      ⟨socket, held, bound, rfl, rfl, -, ran⟩
  · rw [ran]
    exact ⟨[], [], s, rfl, by simp, rfl, by simp⟩
  · rw [ran]
    exact ⟨[], [], s, by simp [Dial.sent, preface, Socket.close], by simp, rfl, by simp⟩
  · rw [ran]
    exact pumps_count now s inbound _

end Relay

end SocksTunnel
