import SocksTunnel.Proofs.Relay.Interleaving
import SocksTunnel.Proofs.Relay.SetUp

/-!
What the pumps do, call by call, and which faults a relay reports.

* `Copies`, `Carries` — the calls of a pump: chunks are read and sent until the source ends or a
  call fails, and then the sending side of the sink is closed, once.
* `Flow.run_carries` — a run makes just such calls; it counts the chunks that were sent, and keeps
  the first fault.
* `relay_reports_first_faults` — a relay fails if a call of either pump did, and names for each
  direction that failed the first fault there; this is known only when both have come to their end.
-/

namespace SocksTunnel.Relay

open SocksTunnel.Text SocksTunnel.Log SocksTunnel.Socks SocksTunnel.Traffic

/-! ### The calls of a pump -/

/-- A call that a pump makes, with what comes of it. -/
inductive Deed where
  | read (found : Except Fault Bytes)
  | sent (chunk : Bytes) (fault : Option Fault)
  | closed (fault : Option Fault)

namespace Deed

/-- The fault that a call meets. -/
def fault? : Deed → Option Fault
  | read (.error cause) => some cause
  | read (.ok _) => none
  | sent _ fault => fault
  | closed fault => fault

/-- The chunk that a call delivers. -/
def chunk? : Deed → Option Bytes
  | sent chunk none => some chunk
  | _ => none

end Deed

/-- The chunks that are delivered by calls. -/
def chunksOf (deeds : List Deed) : List Bytes := deeds.filterMap Deed.chunk?

/-- The first fault among calls. -/
def firstFault? (deeds : List Deed) : Option Fault := deeds.findSome? Deed.fault?

@[simp] theorem chunksOf_closed (deeds : List Deed) (fault : Option Fault) :
    chunksOf (deeds ++ [.closed fault]) = chunksOf deeds := by
  rw [chunksOf, List.filterMap_append]
  exact List.append_nil _

/-- A fault of the close counts if there was none before. -/
@[simp] theorem firstFault?_closed (deeds : List Deed) (fault : Option Fault) :
    firstFault? (deeds ++ [.closed fault]) = (firstFault? deeds).or fault := by
  rw [firstFault?, List.findSome?_append]
  cases fault <;> rfl

/-- Copying from one socket to another one: a chunk is read and sent, and again, until the source
ends or a read or a send fails. -/
inductive Copies : Socket → Socket → List Deed → Socket → Socket → Prop where
  | ended {source source' sink : Socket} (found : source.recv bufferSize = (.ok [], source')) :
      Copies source sink [.read (.ok [])] source' sink
  | unread {source source' sink : Socket} {cause : Fault}
      (failed : source.recv bufferSize = (.error cause, source')) :
      Copies source sink [.read (.error cause)] source' sink
  | unsent {source source' sink sink' : Socket} {b : UInt8} {more : Bytes} {cause : Fault}
      (found : source.recv bufferSize = (.ok (b :: more), source'))
      (failed : sink.send (b :: more) = (some cause, sink')) :
      Copies source sink [.read (.ok (b :: more)), .sent (b :: more) (some cause)] source' sink'
  | round {source source' source'' sink sink' sink'' : Socket} {b : UInt8} {more : Bytes}
      {deeds : List Deed} (found : source.recv bufferSize = (.ok (b :: more), source'))
      (sent : sink.send (b :: more) = (none, sink'))
      (rest : Copies source' sink' deeds source'' sink'') :
      Copies source sink (.read (.ok (b :: more)) :: .sent (b :: more) none :: deeds)
        source'' sink''

/-- All that a pump does: it copies, and at last it closes the sending side of its sink. -/
inductive Carries (source sink : Socket) : List Deed → Socket → Socket → Prop where
  | intro {source' sink' sink'' : Socket} {copying : List Deed} {fault : Option Fault}
      (copies : Copies source sink copying source' sink')
      (closes : sink'.halfClose = (fault, sink'')) :
      Carries source sink (copying ++ [.closed fault]) source' sink''

/-- A send adds its chunk if it delivers it. -/
theorem sent_send {sink sink' : Socket} {chunk : Bytes} {fault : Option Fault}
    (here : sink.send chunk = (fault, sink')) :
    sink'.sent = sink.sent ++ chunksOf [.sent chunk fault] ∧
      sink'.halfCloses = sink.halfCloses := by
  unfold Socket.send at here
  split at here
  · cases here
    exact ⟨(List.append_nil _).symm, rfl⟩
  · cases here
    exact ⟨rfl, rfl⟩

/-- What copying does to the sink. -/
theorem Copies.sink {source sink source' sink' : Socket} {deeds : List Deed}
    (copies : Copies source sink deeds source' sink') :
    sink'.sent = sink.sent ++ chunksOf deeds ∧ sink'.halfCloses = sink.halfCloses := by
  induction copies with
  | ended | unread => exact ⟨(List.append_nil _).symm, rfl⟩
  | unsent found failed => exact sent_send failed
  | round found sent rest ih =>
      obtain ⟨more, kept⟩ := sent_send sent
      obtain ⟨others, kept'⟩ := ih
      refine ⟨?_, kept'.trans kept⟩
      rw [others, more, List.append_assoc]
      rfl

/-- Where a fault ends the stream of the source, some call fails: the read that meets it, or a send
before that. -/
theorem Copies.fails_of_ending {source sink source' sink' : Socket} {deeds : List Deed}
    (copies : Copies source sink deeds source' sink') (faulty : source.inflow.ending ≠ none) :
    ∃ deed ∈ deeds, deed.fault? ≠ none := by
  have positive : 0 < bufferSize := Nat.zero_lt_succ 65535
  induction copies with
  | ended found =>
      rw [Socket.inflow_of_recv positive found] at faulty
      exact absurd rfl faulty
  | @unread source source' sink cause failed =>
      exact ⟨_, List.mem_cons_self, Option.some_ne_none cause⟩
  | @unsent source source' sink sink' b more cause found failed =>
      exact ⟨_, List.mem_cons_of_mem _ List.mem_cons_self, Option.some_ne_none cause⟩
  | round found sent rest ih =>
      rw [Socket.inflow_of_recv positive found] at faulty
      obtain ⟨deed, member, fails⟩ := ih faulty
      exact ⟨deed, List.mem_cons_of_mem _ (List.mem_cons_of_mem _ member), fails⟩

theorem Carries.fails_of_ending {source sink source' sink' : Socket} {deeds : List Deed}
    (carries : Carries source sink deeds source' sink') (faulty : source.inflow.ending ≠ none) :
    ∃ deed ∈ deeds, deed.fault? ≠ none := by
  obtain ⟨copies, -⟩ := carries
  obtain ⟨deed, member, fails⟩ := copies.fails_of_ending faulty
  exact ⟨deed, List.mem_append_left _ member, fails⟩

namespace Flow

variable {direction : Direction} {now : Reading} {second : Int}

theorem run_of_closing {f : Flow} (closing : f.pump.stage = .closing) (sink : f.sink.Orderly) :
    f.run direction now =
      { f with
        pump := { f.pump with stage := .finished, fault := f.pump.fault.or f.sink.halfClose.1 }
        sink := f.sink.halfClose.2 } := by
  have closed : f.pump.closed f.sink.halfClose.1 =
      { f.pump with stage := .finished, fault := f.pump.fault.or f.sink.halfClose.1 } := by
    cases fault : f.sink.halfClose.1 with
    | none => simp [Pump.closed]
    | some cause => simp [Pump.closed, Pump.meetLate, sink.halfClose.1 cause fault]
  rw [← run_step, step_of_closing closing, closed]
  exact run_of_finished rfl

/-- A run copies, with the first fault and the number of bytes kept, and goes on to the close. -/
theorem run_copies (direction : Direction) (finite : Clock.second now = .ok second) {f : Flow}
    (reading : f.pump.stage = .reading) (unfaulted : f.pump.fault = none)
    (source : f.source.Orderly) (sink : f.sink.Orderly) :
    ∃ deeds source' sink' stats', Copies f.source f.sink deeds source' sink' ∧ sink'.Orderly ∧
      f.run direction now = run direction now
        ⟨⟨.closing, f.pump.copied + (chunksOf deeds).flatten.length, firstFault? deeds,
          f.pump.broken⟩, source', sink', stats'⟩ := by
  induction size : f.source.inflow.bytes.length using Nat.strongRecOn generalizing f with
  | ind n ih =>
      obtain ⟨⟨stage, copied, fault, broken⟩, source₀, sink₀, stats⟩ := f
      obtain rfl : stage = .reading := reading
      obtain rfl : fault = none := unfaulted
      have positive : 0 < bufferSize := Nat.zero_lt_succ 65535
      rcases source₀.recv_cases positive with
        ⟨b, more, rest, found, -, flow⟩ | ⟨rest, found, flow⟩ | ⟨cause, rest, found, flow⟩
      · obtain ⟨-, source'⟩ := source.recv bufferSize
        obtain ⟨system, sink'⟩ := sink.send (b :: more)
        rw [← run_step, step_of_data rfl found, ← run_step]
        rcases sent : sink₀.send (b :: more) with ⟨_ | cause, sink₁⟩
        · rw [sent] at sink'
          rw [found] at source'
          obtain ⟨deeds, source₂, sink₂, stats₂, copies, orderly, ran⟩ :=
            ih (Inflow.of rest).bytes.length
              (by rw [← size, flow, Inflow.bytes_prepend, List.length_append, List.length_cons]
                  omega)
              (f := ⟨⟨.reading, copied + (b :: more).length, none, broken⟩,
                { source₀ with arrivals := rest, reads := source₀.reads ++ [bufferSize] }, sink₁,
                stats.map fun s => countedAt direction second s (b :: more)⟩)
              rfl rfl source' sink' rfl
          rw [step_of_sent rfl sent, ← run_step, step_of_second finite rfl]
          refine ⟨_, source₂, sink₂, stats₂, .round found sent copies, orderly, ran.trans ?_⟩
          have length : (chunksOf (.read (.ok (b :: more)) :: .sent (b :: more) none ::
              deeds)).flatten.length = (b :: more).length + (chunksOf deeds).flatten.length :=
            List.length_append
          rw [length, ← Nat.add_assoc]
          rfl
        · rw [sent] at system sink'
          rw [step_of_send_fault rfl sent]
          refine ⟨_, _, _, stats, .unsent found sent, sink', ?_⟩
          simp only [Pump.meet, system cause rfl, if_true]
          rfl
      · rw [← run_step, step_of_end rfl found]
        exact ⟨_, _, _, stats, .ended found, sink, rfl⟩
      · have system := (source.recv bufferSize).1 cause (by rw [found])
        rw [← run_step, step_of_recv_fault rfl found]
        refine ⟨_, _, _, stats, .unread found, sink, ?_⟩
        simp only [Pump.meet, system, if_true]
        rfl

/-- A run of a fresh pump makes the calls of a direction, counts what it delivers, and keeps the
first fault. -/
theorem run_carries (direction : Direction) (finite : Clock.second now = .ok second)
    {source sink : Socket} (stats : Option Stats) (orderly : source.Orderly)
    (orderly' : sink.Orderly) :
    ∃ deeds, Carries source sink deeds (run direction now ⟨.fresh, source, sink, stats⟩).source
        (run direction now ⟨.fresh, source, sink, stats⟩).sink ∧
      (run direction now ⟨.fresh, source, sink, stats⟩).pump =
        ⟨.finished, (chunksOf deeds).flatten.length, firstFault? deeds, none⟩ := by
  obtain ⟨copying, source', sink', stats', copies, orderly, ran⟩ :=
    run_copies direction finite (f := ⟨.fresh, source, sink, stats⟩) rfl rfl orderly orderly'
  rw [ran.trans (run_of_closing rfl orderly)]
  refine ⟨_, .intro copies rfl, ?_⟩
  simp [Pump.fresh, Socket.halfClose]

/-- A flow has made the calls of a direction, and come to its end: of each socket the half that it
uses is as after these calls, and the pump keeps what it delivered and the first fault. -/
structure Made (f : Flow) (deeds : List Deed) (g : Flow) : Prop where
  carries : ∃ source sink, Carries f.source f.sink deeds source sink ∧
    g.source.inlet = source.inlet ∧ g.sink.outlet = sink.outlet
  pump : g.pump = ⟨.finished, (chunksOf deeds).flatten.length, firstFault? deeds, none⟩

theorem Made.of_lane {f g h : Flow} {deeds : List Deed} (made : f.Made deeds g)
    (same : g.lane = h.lane) : f.Made deeds h := by
  obtain ⟨⟨source, sink, carries, inlet, outlet⟩, pump⟩ := made
  obtain ⟨pump', inlet', outlet'⟩ := Lane.mk.injEq .. ▸ same
  exact ⟨⟨source, sink, carries, inlet'.symm.trans inlet, outlet'.symm.trans outlet⟩,
    pump'.symm.trans pump⟩

/-- What a direction has done to its sink. -/
theorem Made.sink {f g : Flow} {deeds : List Deed} (made : f.Made deeds g) :
    g.sink.sent = f.sink.sent ++ chunksOf deeds ∧
      g.sink.halfCloses = f.sink.halfCloses + 1 := by
  obtain ⟨⟨source, sink, ⟨copies, closes⟩, -, outlet⟩, -⟩ := made
  obtain ⟨sent, kept⟩ := copies.sink
  obtain ⟨-, rfl⟩ := Prod.mk.injEq .. ▸ closes
  obtain ⟨-, -, sent', -, kept'⟩ := Socket.Outlet.mk.injEq .. ▸ outlet
  rw [chunksOf_closed]
  exact ⟨sent'.trans sent, kept'.trans (congrArg (· + 1) kept)⟩

end Flow

/-! ### What a relay reports -/

/-- The directions in which calls have failed, the one to the server first, each with its first
fault. -/
def failing (deeds : Direction → List Deed) : List (String × Fault) :=
  [.clientToServer, .serverToClient].filterMap fun direction =>
    (firstFault? (deeds direction)).map fun cause => (direction.label, cause)

/-- The outcome that calls call for. -/
def judge (deeds : Direction → List Deed) : Except Failure Summary :=
  match failing deeds with
  | [] => .ok ⟨(chunksOf (deeds .clientToServer)).flatten.length,
      (chunksOf (deeds .serverToClient)).flatten.length⟩
  | faults => .error (.relayIo faults)

/-- There is a failing direction just if a call has met a fault. -/
theorem failing_eq_nil_iff (deeds : Direction → List Deed) :
    failing deeds = [] ↔ ∀ direction, ∀ deed ∈ deeds direction, deed.fault? = none := by
  have faultless (direction : Direction) :
      firstFault? (deeds direction) = none ↔ ∀ deed ∈ deeds direction, deed.fault? = none :=
    List.findSome?_eq_none_iff
  simp only [← faultless, failing, List.filterMap_eq_nil_iff, Option.map_eq_none_iff]
  constructor
  · intro none direction
    cases direction with
    | clientToServer => exact none _ List.mem_cons_self
    | serverToClient => exact none _ (List.mem_cons_of_mem _ List.mem_cons_self)
  · intro none direction _
    exact none direction

/-- The relay fails just if a call has met a fault. -/
theorem judge_eq_error_iff (deeds : Direction → List Deed) :
    (∃ faults, judge deeds = .error (.relayIo faults)) ↔
      ∃ direction, ∃ deed ∈ deeds direction, deed.fault? ≠ none := by
  have clear := failing_eq_nil_iff deeds
  rw [judge]
  cases faults : failing deeds with
  | nil =>
      have faultless := clear.mp faults
      constructor
      · rintro ⟨-, ⟨⟩⟩
      · rintro ⟨direction, deed, member, faulty⟩
        exact absurd (faultless direction deed member) faulty
  | cons first others =>
      refine iff_of_true ⟨_, rfl⟩ ?_
      by_contra faultless
      push Not at faultless
      rw [clear.mpr faultless] at faults
      cases faults

theorem outcomeOf_of_pumps {deeds : Direction → List Deed} {up down : Pump}
    (pump : up = ⟨.finished, (chunksOf (deeds .clientToServer)).flatten.length,
      firstFault? (deeds .clientToServer), none⟩)
    (pump' : down = ⟨.finished, (chunksOf (deeds .serverToClient)).flatten.length,
      firstFault? (deeds .serverToClient), none⟩) : outcomeOf up down = judge deeds := by
  have faults : faultsOf up down = failing deeds := by
    rw [pump, pump']
    cases fault : firstFault? (deeds .clientToServer) <;>
      cases fault' : firstFault? (deeds .serverToClient) <;>
        simp [faultsOf, failing, fault, fault']
  have unbroken : down.broken = none := congrArg Pump.broken pump'
  have sent := congrArg Pump.copied pump
  have received := congrArg Pump.copied pump'
  rw [outcomeOf, unbroken, faults, sent, received]
  rfl

/-- Once both pumps have come to their end, each has made the calls that it makes alone. -/
theorem made_inSuccession {now : Reading} {second : Int} (finite : Clock.second now = .ok second)
    (stats : Option Stats) {inbound outbound : Socket} (orderly : inbound.Orderly)
    (orderly' : outbound.Orderly) (direction : Direction) :
    ∃ deeds, ((⟨.opened inbound outbound, stats⟩ : Exchange).flow direction).Made deeds
      (((⟨.opened inbound outbound, stats⟩ : Exchange).inSuccession now).flow direction) := by
  have lanes := Exchange.lane_inSuccession finite direction ⟨.opened inbound outbound, stats⟩
  cases direction with
  | clientToServer =>
      obtain ⟨deeds, carries, kept⟩ := Flow.run_carries .clientToServer finite stats orderly
        (orderly'.setLimit none)
      exact ⟨deeds, Flow.Made.of_lane ⟨⟨_, _, carries, rfl, rfl⟩, kept⟩ lanes.symm⟩
  | serverToClient =>
      obtain ⟨deeds, carries, kept⟩ := Flow.run_carries .serverToClient finite stats
        (orderly'.setLimit none) orderly
      exact ⟨deeds, Flow.Made.of_lane ⟨⟨_, _, carries, rfl, rfl⟩, kept⟩ lanes.symm⟩

/-- Let all faults be faults of the system, the handshake accepted, and the clock finite. Then each
direction makes the calls that it makes alone: it copies until the stream ends or a call fails, and
closes its sink for sending, once. Every order of the turns of the two pumps that brings both to
their end leads to the same state, and the report of the relay is the report on that. The relay
fails just if a call of either direction met a fault. It then names the directions in which one did,
the one to the server first, each with its first fault there; otherwise the summary has the numbers
of bytes that were sent on in each direction. In any case both sockets have been closed for sending
once, and the outbound one has been closed once. -/
theorem relay_reports_first_faults (target : Target) (proxy : Proxy) {now : Reading}
    (finite : now.IsFinite) (stats : Option Stats) {inbound outbound : Socket}
    (orderly : inbound.Orderly) (orderly' : outbound.Orderly) {held : Held BoundAddress}
    (holds : (connect target proxy.credential).run
      (outbound.setLimit proxy.handshakeTimeout) = held) {bound : BoundAddress}
    (accepted : held.outcome = .ok bound) {start : Exchange}
    (opened : start = ⟨.opened inbound held.socket, stats⟩) {report : Report}
    (ran : run target proxy now stats inbound (.ok outbound) = report) :
    ∃ (deeds : Direction → List Deed) (last : Exchange),
      (last.link.Finished ∧ last.report target proxy held.notes = report ∧
        ∀ schedule, (start.play now schedule).link.Finished → start.play now schedule = last) ∧
      (∀ direction, (start.flow direction).Made (deeds direction) (last.flow direction)) ∧
      ((∃ faults, report.outcome = .error (.relayIo faults)) ↔
        ∃ direction, ∃ deed ∈ deeds direction, deed.fault? ≠ none) ∧
      report.outcome = judge deeds ∧
      (report.inbound.sent = inbound.sent ++ chunksOf (deeds .serverToClient) ∧
        report.inbound.halfCloses = inbound.halfCloses + 1) ∧
      ∃ far, report.dial.socket = some far ∧
        far.sent = held.socket.sent ++ chunksOf (deeds .clientToServer) ∧
        far.halfCloses = outbound.halfCloses + 1 ∧ far.closes = outbound.closes + 1 := by
  obtain ⟨second, finite⟩ := Clock.second_of_isFinite finite
  have ready : held.socket.Orderly := by
    rw [← holds]
    exact (Dialogue.acted_acts _ _).orderly (orderly'.setLimit _)
  subst opened
  obtain ⟨deeds, made⟩ := Classical.skolem.mp (made_inSuccession finite stats orderly ready)
  have reported := run_eq_report target proxy now stats inbound holds accepted
  rw [ran] at reported
  have outcome : report.outcome = judge deeds := by
    rw [reported]
    exact outcomeOf_of_pumps (made .clientToServer).pump (made .serverToClient).pump
  refine ⟨deeds, _, ⟨Exchange.finished_inSuccession now _, reported.symm,
    fun schedule done => Exchange.play_eq_inSuccession finite done⟩, made, ?_, outcome, ?_, ?_⟩
  · rw [outcome]
    exact judge_eq_error_iff deeds
  · subst reported
    exact (made .serverToClient).sink
  · obtain ⟨-, closes, halfCloses, -⟩ := kept_handshake target proxy outbound
    rw [handshake, holds] at closes halfCloses
    obtain ⟨-, upkeep⟩ := used_pumps now stats inbound held.socket
    obtain ⟨-, closes'⟩ := Prod.mk.injEq .. ▸ upkeep
    subst reported
    obtain ⟨sent, halfCloses'⟩ := (made .clientToServer).sink
    refine ⟨_, rfl, sent, ?_, ?_⟩
    · exact halfCloses'.trans (congrArg (· + 1) halfCloses)
    · exact congrArg (· + 1) (closes'.trans closes)

/-- A client that sends one byte and then resets the connection: whether that byte can be sent on
or not, the relay fails, and the client has been closed for sending by then. -/
theorem relay_reports_first_faults_reset :
    ∃ report, run (.loopback 80) .loopback (.finite false 0 0) none
        (.fresh [.data [1], .fault ⟨.connectionReset, none, "reset"⟩] [] none)
        (.ok (.fresh [.data [5, 0, 5, 0, 0, 1, 127, 0, 0, 1, 0, 80]] [] none)) = report ∧
      (∃ faults, report.outcome = .error (.relayIo faults)) ∧ report.inbound.halfCloses = 1 := by
  have orderly : Socket.Orderly
      (.fresh [.data [1], .fault ⟨.connectionReset, none, "reset"⟩] [] none) :=
    Socket.orderly_fresh (by simp [Fault.isSystem, FaultKind.isSystem])
  have orderly' : Socket.Orderly
      (.fresh [.data [5, 0, 5, 0, 0, 1, 127, 0, 0, 1, 0, 80]] [] none) :=
    Socket.orderly_fresh (by simp)
  have accepted := Replies.outcome_run (.loopback 80) Proxy.loopback.credential
    (s := Socket.setLimit Proxy.loopback.handshakeTimeout
      (.fresh [.data [5, 0, 5, 0, 0, 1, 127, 0, 0, 1, 0, 80]] [] none)) (fun _ _ => rfl)
  obtain ⟨deeds, last, -, made, fails, -, ⟨-, halfCloses⟩, -⟩ :=
    relay_reports_first_faults (.loopback 80) .loopback ⟨false, 0, 0, rfl⟩ none orderly orderly'
      rfl accepted rfl rfl
  refine ⟨_, rfl, fails.mpr ⟨.clientToServer, ?_⟩, halfCloses⟩
  obtain ⟨source, sink, carries, -, -⟩ := (made .clientToServer).carries
  exact carries.fails_of_ending (Option.some_ne_none _)

end SocksTunnel.Relay
