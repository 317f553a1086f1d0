import SocksTunnel.Proofs.HostPort
import SocksTunnel.Proofs.Relay.Pump
import SocksTunnel.Proofs.Socks.Connect
import SocksTunnel.Relay.Run

/-!
A relay without faults is transparent: each side gets what the other side sends, all of it and
nothing else, and the proxy gets the frames of the handshake before it.

* `report_of_accepted` — after an accepted handshake the pumps run, the one toward the proxy first.
* `relay_transparent` — on sockets without faults nothing is lost, doubled or moved, wherever the
  stream of the proxy was cut between its answers and the payload.
-/

namespace SocksTunnel

open SocksTunnel.Text SocksTunnel.Socks SocksTunnel.Traffic

/-- A proxy on the local host, reached without a credential and without limits. -/
def Proxy.loopback : Proxy where
  address := "localhost:1080"
  endpoint := ⟨"localhost", 1080⟩
  credential := none
  connectTimeout := none
  handshakeTimeout := none
  parses := by
    have trimmed : trim "localhost:1080".toList = "localhost:1080".toList := by decide +kernel
    have split : HostPort.cut "localhost:1080".toList =
        .ok ("localhost".toList, ['1', '0', '8', '0']) := rfl
    have digits : ['1', '0', '8', '0'].all isPlainDigit = true := rfl
    rw [HostPort.parse_of_cut trimmed split (by decide), HostPort.readPort_of_plain (by decide)
      (List.all_eq_true.mp digits) (by decide) (by decide)]
    rfl

namespace Relay

/-- The two pumps after a handshake that has left the proxy at `outbound`: the one toward the proxy
runs first. -/
def pumps (now : Reading) (stats : Option Stats) (inbound outbound : Socket) : Flow × Flow :=
  let up := Flow.run .clientToServer now ⟨.fresh, inbound, outbound.setLimit none, stats⟩
  (up, Flow.run .serverToClient now ⟨.fresh, up.sink, up.source, up.stats⟩)

/-- After an accepted handshake the report is that of the pumps. -/
theorem report_of_accepted (target : Target) (proxy : Proxy) (now : Reading) (stats : Option Stats)
    (inbound : Socket) {outbound : Socket} {held : Held BoundAddress} {bound : BoundAddress}
    (holds : (connect target proxy.credential).run
      (outbound.setLimit proxy.handshakeTimeout) = held) (accepted : held.outcome = .ok bound) :
    run target proxy now stats inbound (.ok outbound) =
      { outcome := outcomeOf (pumps now stats inbound held.socket).1.pump
          (pumps now stats inbound held.socket).2.pump
        dial := ⟨proxy.endpoint, proxy.connectTimeout,
          some (pumps now stats inbound held.socket).2.source.close⟩
        inbound := (pumps now stats inbound held.socket).2.sink
        stats := (pumps now stats inbound held.socket).2.stats
        log := held.notes.map Log.Record.debug ++ [startRecord target] } := by
  rw [run]
  dsimp only
  rw [holds, accepted]
  rfl

/-- There are three ways for a relay to go: the dial fails, the handshake does, or the pumps run.
The clock and the statistics have a part in the third one only. -/
theorem run_cases (target : Target) (proxy : Proxy) (inbound : Socket)
    (outbound : Except Fault Socket) :
    (∃ cause, outbound = .error cause ∧ ∀ now stats,
      run target proxy now stats inbound outbound =
        ⟨.error (dialFailure proxy cause), ⟨proxy.endpoint, proxy.connectTimeout, none⟩, inbound,
          stats, []⟩) ∨
    (∃ socket held cause, outbound = .ok socket ∧
      (connect target proxy.credential).run (socket.setLimit proxy.handshakeTimeout) = held ∧
      held.outcome = .error cause ∧ ∀ now stats, run target proxy now stats inbound outbound =
        ⟨.error (handshakeFailure cause),
          ⟨proxy.endpoint, proxy.connectTimeout, some held.socket.close⟩, inbound, stats,
          held.notes.map Log.Record.debug⟩) ∨
    (∃ socket held bound, outbound = .ok socket ∧
      (connect target proxy.credential).run (socket.setLimit proxy.handshakeTimeout) = held ∧
      held.outcome = .ok bound ∧ ∀ now stats, run target proxy now stats inbound outbound =
        ⟨outcomeOf (pumps now stats inbound held.socket).1.pump
            (pumps now stats inbound held.socket).2.pump,
          ⟨proxy.endpoint, proxy.connectTimeout,
            some (pumps now stats inbound held.socket).2.source.close⟩,
          (pumps now stats inbound held.socket).2.sink,
          (pumps now stats inbound held.socket).2.stats,
          held.notes.map Log.Record.debug ++ [startRecord target]⟩) := by
  cases outbound with
  | error cause => exact .inl ⟨cause, rfl, fun now stats => rfl⟩
  | ok socket =>
      cases outcome : ((connect target proxy.credential).run
        (socket.setLimit proxy.handshakeTimeout)).outcome with
      | error cause =>
          refine .inr (.inl ⟨socket, _, cause, rfl, rfl, outcome, ?_⟩)
          intro now stats
          simp only [run, outcome]
      | ok bound =>
          refine .inr (.inr ⟨socket, _, bound, rfl, rfl, outcome, ?_⟩)
          intro now stats
          exact report_of_accepted target proxy now stats inbound rfl outcome

/-- Where nothing fails, the pumps carry both streams to their ends. -/
theorem pumps_of_faultless {now : Reading} {second : Int} (finite : Clock.second now = .ok second)
    (stats : Option Stats) {inbound outbound : Socket} (calm : inbound.Faultless)
    (calm' : outbound.Faultless) :
    ∃ up down, up.flatten = inbound.inflow.bytes ∧ down.flatten = outbound.inflow.bytes ∧
      (pumps now stats inbound outbound).1.pump = ⟨.finished, up.flatten.length, none, none⟩ ∧
      (pumps now stats inbound outbound).2.pump = ⟨.finished, down.flatten.length, none, none⟩ ∧
      (pumps now stats inbound outbound).2.sink.sent = inbound.sent ++ down ∧
      (pumps now stats inbound outbound).2.sink.halfCloses = inbound.halfCloses + 1 ∧
      (pumps now stats inbound outbound).2.source.sent = outbound.sent ++ up ∧
      (pumps now stats inbound outbound).2.source.halfCloses = outbound.halfCloses + 1 ∧
      (pumps now stats inbound outbound).2.source.closes = outbound.closes ∧
      (pumps now stats inbound outbound).2.stats = stats.map fun s =>
        down.foldl (countedAt .serverToClient second)
          (up.foldl (countedAt .clientToServer second) s) := by
  obtain ⟨up, rest, reads, whole, ran⟩ := Flow.run_fresh_of_faultless .clientToServer finite
    inbound (outbound.setLimit none) stats calm.ending calm'.sends calm'.closes
  -- The first pump changes neither what comes in for the second one nor how its sends will go.
  obtain ⟨down, rest', reads', whole', ran'⟩ := Flow.run_fresh_of_faultless .serverToClient finite
    { outbound.setLimit none with
      attempts := outbound.attempts + up.length
      sent := outbound.sent ++ up
      halfCloses := outbound.halfCloses + 1 }
    { inbound with arrivals := rest, reads := reads }
    (stats.map fun s => up.foldl (countedAt .clientToServer second) s)
    calm'.ending calm.sends calm.closes
  have first : (pumps now stats inbound outbound).1 = _ := ran
  have second : (pumps now stats inbound outbound).2 =
      Flow.run .serverToClient now ⟨.fresh, (pumps now stats inbound outbound).1.sink,
        (pumps now stats inbound outbound).1.source,
        (pumps now stats inbound outbound).1.stats⟩ := rfl
  rw [first] at second
  have done := second.trans ran'
  refine ⟨up, down, whole, whole', by rw [first], ?_⟩
  rw [done]
  refine ⟨rfl, rfl, rfl, rfl, rfl, rfl, ?_⟩
  simp [Function.comp_def]

/-- A clock whose reading is a finite number has a second. -/
theorem second_of_finite (negative : Bool) (mantissa : Nat) (exponent : Int) :
    ∃ second, Clock.second (.finite negative mantissa exponent) = .ok second := ⟨_, rfl⟩

/-- On sockets without faults, with a clock that is finite, a relay whose handshake is accepted
carries the inbound stream to the proxy behind the frames of the handshake, and the stream of the
proxy, without the answers at its front, to the inbound side; both up to their first end. The
summary and the statistics count both, each socket is closed for sending once, and the outbound one
is closed once. -/
theorem relay_transparent (target : Target) (proxy : Proxy) (negative : Bool) (mantissa : Nat)
    (exponent : Int) (stats : Option Stats) {inbound outbound : Socket} (calm : inbound.Faultless)
    (calm' : outbound.Faultless) {bound : BoundAddress}
    (accepted : ((connect target proxy.credential).run
      (outbound.setLimit proxy.handshakeTimeout)).outcome = .ok bound) {report : Report}
    (ran : run target proxy (.finite negative mantissa exponent) stats inbound (.ok outbound) =
      report) :
    ∃ replies payload up down far,
      (outbound.inflow.bytes = replies ++ payload ∧
        Replies.read proxy.credential replies = .good bound []) ∧
      report.outcome = .ok ⟨inbound.inflow.bytes.length, payload.length⟩ ∧
      (report.dial.socket = some far ∧
        far.sent = outbound.sent ++
          Replies.plan target proxy.credential outbound.inflow.bytes ++ up ∧
        up.flatten = inbound.inflow.bytes ∧ far.halfCloses = outbound.halfCloses + 1 ∧
        far.closes = outbound.closes + 1) ∧
      (report.inbound.sent = inbound.sent ++ down ∧ down.flatten = payload ∧
        report.inbound.halfCloses = inbound.halfCloses + 1) ∧
      report.stats.map (fun t => (t.sent, t.received)) =
        stats.map fun s =>
          (s.sent + (inbound.inflow.bytes.length : Int), s.received + (payload.length : Int)) := by
  obtain ⟨second, finite⟩ := second_of_finite negative mantissa exponent
  have free : (outbound.setLimit proxy.handshakeTimeout).SendsFreely := calm'.sends
  obtain ⟨replies, payload, rest, reads, attempts, split, answers, left, later, held⟩ :=
    Replies.run_of_accepted free accepted
  have calm'' : ((connect target proxy.credential).run
      (outbound.setLimit proxy.handshakeTimeout)).socket.Faultless := by
    rw [held]
    exact ⟨(congrArg Inflow.ending left).trans calm'.ending, free.later rfl later, calm'.closes⟩
  have flow : ((connect target proxy.credential).run
      (outbound.setLimit proxy.handshakeTimeout)).socket.inflow.bytes = payload := by
    rw [held]
    exact congrArg Inflow.bytes left
  obtain ⟨up, down, whole, whole', pump, pump', near, nearClosed, far, farClosed, closes,
    counted⟩ := pumps_of_faultless finite stats calm calm''
  rw [report_of_accepted target proxy _ stats inbound rfl accepted] at ran
  subst ran
  refine ⟨replies, payload, up, down, _, ⟨split, answers⟩, ?_, ⟨rfl, ?_, whole, ?_, ?_⟩,
    ⟨near, whole'.trans flow, nearClosed⟩, ?_⟩
  · rw [pump, pump', whole, whole', flow]
    rfl
  · rw [Socket.close, far, held]
    rfl
  · rw [Socket.close, farClosed, held]
    rfl
  · rw [Socket.close, closes, held]
    rfl
  · rw [counted, Option.map_map]
    refine congrArg (fun f => stats.map f) (funext fun s => ?_)
    obtain ⟨history, upward⟩ := foldl_countedAt .clientToServer second up s
    obtain ⟨history', downward⟩ := foldl_countedAt .serverToClient second down
      (up.foldl (countedAt .clientToServer second) s)
    rw [Function.comp, downward, upward, whole, whole', flow]
    simp [Direction.shares]

/-- Three bytes toward the proxy and two back, the first of them in one piece with the end of the
answers. -/
theorem relay_transparent_piggybacked :
    ∃ replies payload,
      [5, 0, 5, 0, 0, 1, 127, 0, 0, 1, 0, 80, 9, 8] = replies ++ payload ∧
      Replies.read none replies = .good ⟨ipv4Host [127, 0, 0, 1], 80⟩ [] ∧
      (run (.loopback 80) .loopback (.finite false 0 0) none
        (.fresh [.data [1], .data [2, 3]] [] none)
        (.ok (.fresh [.data [5, 0, 5, 0, 0], .data [1, 127, 0, 0, 1, 0, 80, 9], .data [8]] []
          none))).outcome = .ok ⟨3, payload.length⟩ := by
  have calm : Socket.Faultless (.fresh [.data [1], .data [2, 3]] [] none) :=
    ⟨rfl, fun _ _ => rfl, rfl⟩
  have calm' : Socket.Faultless (.fresh
      [.data [5, 0, 5, 0, 0], .data [1, 127, 0, 0, 1, 0, 80, 9], .data [8]] [] none) :=
    ⟨rfl, fun _ _ => rfl, rfl⟩
  have accepted := Replies.outcome_run (.loopback 80) Proxy.loopback.credential
    (s := Socket.setLimit Proxy.loopback.handshakeTimeout (.fresh
      [.data [5, 0, 5, 0, 0], .data [1, 127, 0, 0, 1, 0, 80, 9], .data [8]] [] none))
    (fun _ _ => rfl)
  obtain ⟨replies, payload, -, -, -, ⟨split, answers⟩, outcome, -⟩ :=
    relay_transparent (.loopback 80) .loopback false 0 0 none calm calm' accepted rfl
  exact ⟨replies, payload, split, answers, outcome⟩

end Relay

end SocksTunnel
