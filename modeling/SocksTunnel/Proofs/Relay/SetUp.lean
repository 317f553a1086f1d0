import SocksTunnel.Proofs.Relay.Lane
import SocksTunnel.Proofs.Relay.Transparent

/-!
The set-up of a relay: the dial and the handshake, before either pump makes a step.

* `Acted.upkeep`, `Acted.halfCloses` — the acts of a handshake neither close a socket nor set a
  limit, and close no sending side.
* `relay_waits_for_setUp` — where the set-up fails, nothing is done on the client's socket, nothing
  is counted, and the outbound socket is closed with nothing but frames of the handshake on it;
  where it succeeds, the limit of the handshake is lifted before the first byte is carried.
-/

namespace SocksTunnel

open SocksTunnel.Text SocksTunnel.Log SocksTunnel.Socks SocksTunnel.Traffic

namespace Socks

/-! ### What a handshake leaves alone -/

theorem Acted.upkeep {s t : Socket} {acts : List Act} (acted : Acted s acts t) :
    t.upkeep = s.upkeep := by
  induction acted with
  | nil => rfl
  | @send s s' t frame fault acts here after ih =>
      have kept := Socket.upkeep_send frame s
      rw [here] at kept
      exact ih.trans kept
  | @recv s s' t size found acts here after ih =>
      have kept := Socket.upkeep_recv size s
      rw [here] at kept
      exact ih.trans kept

theorem Acted.halfCloses {s t : Socket} {acts : List Act} (acted : Acted s acts t) :
    t.halfCloses = s.halfCloses := by
  induction acted with
  | nil => rfl
  | @send s s' t frame fault acts here after ih =>
      refine ih.trans ?_
      unfold Socket.send at here
      split at here
      · cases here
        rfl
      · cases here
        rfl
  | recv here after ih =>
      cases here
      exact ih

end Socks

namespace Relay

theorem Flow.used_run (direction : Direction) (now : Reading) (f : Flow) :
    f.source.Used (f.run direction now).source ∧ f.sink.Used (f.run direction now).sink :=
  Flow.used_steps direction now f.bound f

theorem Flow.upkeep_run (direction : Direction) (now : Reading) (f : Flow) :
    (f.run direction now).source.upkeep = f.source.upkeep ∧
      (f.run direction now).sink.upkeep = f.sink.upkeep :=
  Flow.upkeep_steps direction now f.bound f

/-! ### How a set-up ends -/

/-- The handshake that is held on a dialled socket, under the limit for it. -/
def handshake (target : Target) (proxy : Proxy) (socket : Socket) : Held BoundAddress :=
  (connect target proxy.credential).run (socket.setLimit proxy.handshakeTimeout)

/-- How a set-up fails, by what dialling the proxy gives. A dial that meets a fault of the system
finds the proxy unreachable. A handshake that meets one, or finds an answer bad, refusing or cut
short, has failed, and that is its cause. Any other fault is passed on as it is. -/
inductive SetUpFails (target : Target) (proxy : Proxy) : Except Fault Socket → Failure → Prop where
  | unreachable {cause : Fault} (system : cause.isSystem = true) :
      SetUpFails target proxy (.error cause) (.unreachable proxy.address cause)
  | undialled {cause : Fault} (other : cause.isSystem = false) :
      SetUpFails target proxy (.error cause) (.fault cause)
  | refused {socket : Socket} {error : HandshakeError}
      (ended : (handshake target proxy socket).outcome = .error (.error error)) :
      SetUpFails target proxy (.ok socket) (.handshakeFailed (.handshake error))
  | interrupted {socket : Socket} {cause : Fault}
      (ended : (handshake target proxy socket).outcome = .error (.fault cause))
      (system : cause.isSystem = true) :
      SetUpFails target proxy (.ok socket) (.handshakeFailed (.fault cause))
  | broken {socket : Socket} {cause : Fault}
      (ended : (handshake target proxy socket).outcome = .error (.fault cause))
      (other : cause.isSystem = false) :
      SetUpFails target proxy (.ok socket) (.fault cause)

/-- A dialled socket that was given up in its set-up: closed once, with first frames of the
handshake on it and nothing else, its sending side left open, and no limit set but that of the
handshake. -/
structure Abandoned (target : Target) (proxy : Proxy) (socket far : Socket) : Prop where
  frames : ∃ chunks, far.sent = socket.sent ++ chunks ∧
    chunks <+: Replies.plan target proxy.credential socket.inflow.bytes
  leftOpen : far.halfCloses = socket.halfCloses
  closed : far.closes = socket.closes + 1
  limited : far.limits = socket.limits ++ [proxy.handshakeTimeout]

/-- What a relay leaves behind when its set-up fails: the inbound socket and the statistics are
those it was given, no start is recorded, and the dial gives no socket or one that was abandoned. -/
structure Untouched (target : Target) (proxy : Proxy) (inbound : Socket)
    (outbound : Except Fault Socket) (stats : Option Stats) (report : Report) : Prop where
  inbound : report.inbound = inbound
  stats : report.stats = stats
  unstarted : ∀ other : Target, ⟨.info, none, "Start relay to " ++ other.text, none⟩ ∉ report.log
  undialled : ∀ cause, outbound = .error cause → report.dial.socket = none
  dialled : ∀ socket, outbound = .ok socket →
    ∃ far, report.dial.socket = some far ∧ Abandoned target proxy socket far

/-- How a dialled socket goes from the set-up to the relay. When it is `ready`, nothing has been
sent on it but frames of the handshake, nothing has been read but the answers to them, and the only
limit set is that of the handshake. Only then the limit is lifted, and whatever carries the payload
is done after that and before the one close. -/
structure Lifted (target : Target) (proxy : Proxy) (socket ready far : Socket)
    (bound : BoundAddress) : Prop where
  frames : ∃ chunks, ready.sent = socket.sent ++ chunks ∧
    chunks <+: Replies.plan target proxy.credential socket.inflow.bytes
  answers : ∃ heard, Replies.read proxy.credential heard = .good bound [] ∧
    socket.inflow = ready.inflow.prepend heard
  limited : ready.limits = socket.limits ++ [proxy.handshakeTimeout]
  carried : ∃ work, Socket.Call.close ∉ work ∧ far = ((ready.setLimit none).calls work).close
  limits : far.limits = socket.limits ++ [proxy.handshakeTimeout, none]
  closed : far.closes = socket.closes + 1

section

variable (target : Target) (proxy : Proxy)

/-- On a dialled socket the handshake only reads, and sends frames of its plan. -/
theorem kept_handshake (socket : Socket) :
    (handshake target proxy socket).socket.limits = socket.limits ++ [proxy.handshakeTimeout] ∧
      (handshake target proxy socket).socket.closes = socket.closes ∧
      (handshake target proxy socket).socket.halfCloses = socket.halfCloses ∧
      ∃ chunks, (handshake target proxy socket).socket.sent = socket.sent ++ chunks ∧
        chunks <+: Replies.plan target proxy.credential socket.inflow.bytes := by
  have acted := Dialogue.acted_acts (connect target proxy.credential)
    (socket.setLimit proxy.handshakeTimeout)
  obtain ⟨limits, closes⟩ := Prod.mk.injEq .. ▸ acted.upkeep
  exact ⟨limits, closes, acted.halfCloses, Replies.sent_connect target proxy.credential _⟩

theorem abandoned_handshake (socket : Socket) :
    Abandoned target proxy socket (handshake target proxy socket).socket.close := by
  obtain ⟨limits, closes, halfCloses, frames⟩ := kept_handshake target proxy socket
  exact ⟨frames, halfCloses, congrArg (· + 1) closes, limits⟩

/-- Either the set-up fails or the proxy has been dialled and has accepted the handshake. -/
theorem setUp_cases (outbound : Except Fault Socket) :
    (∃ failure, SetUpFails target proxy outbound failure) ∨
      ∃ socket bound, outbound = .ok socket ∧
        (handshake target proxy socket).outcome = .ok bound := by
  cases outbound with
  | error cause =>
      cases system : cause.isSystem with
      | true => exact .inl ⟨_, .unreachable system⟩
      | false => exact .inl ⟨_, .undialled system⟩
  | ok socket =>
      cases ended : (handshake target proxy socket).outcome with
      | ok bound => exact .inr ⟨socket, bound, rfl, ended⟩
      | error breakdown =>
          cases breakdown with
          | error error => exact .inl ⟨_, .refused ended⟩
          | fault cause =>
              cases system : cause.isSystem with
              | true => exact .inl ⟨_, .interrupted ended system⟩
              | false => exact .inl ⟨_, .broken ended system⟩

/-- The record of a start is no note of a handshake. -/
theorem startRecord_notMem_notes (other : Target) (notes : List String) :
    startRecord other ∉ notes.map Record.debug := by
  intro noted
  obtain ⟨message, -, same⟩ := List.mem_map.mp noted
  have level : Level.debug = Level.info := congrArg Record.level same
  cases level

variable (now : Reading) (stats : Option Stats) (inbound : Socket)

theorem run_of_handshake_error {socket : Socket} {breakdown : Breakdown}
    (ended : (handshake target proxy socket).outcome = .error breakdown) :
    run target proxy now stats inbound (.ok socket) =
      ⟨.error (handshakeFailure breakdown), ⟨proxy.endpoint, proxy.connectTimeout,
        some (handshake target proxy socket).socket.close⟩, inbound, stats,
        (handshake target proxy socket).notes.map Record.debug⟩ := by
  simp only [handshake] at ended
  simp only [run, ended, handshake]

/-- A relay whose dial went through and whose handshake broke off is untouched. -/
theorem untouched_of_handshake_error {socket : Socket} {breakdown : Breakdown}
    (ended : (handshake target proxy socket).outcome = .error breakdown) :
    Untouched target proxy inbound (.ok socket) stats
      (run target proxy now stats inbound (.ok socket)) := by
  rw [run_of_handshake_error target proxy now stats inbound ended]
  refine ⟨rfl, rfl, fun other => startRecord_notMem_notes other _, nofun, ?_⟩
  intro socket' same
  cases same
  exact ⟨_, rfl, abandoned_handshake target proxy socket⟩

theorem untouched_of_dial_error (cause : Fault) :
    Untouched target proxy inbound (.error cause) stats
      (run target proxy now stats inbound (.error cause)) :=
  ⟨rfl, rfl, fun _ => List.not_mem_nil, fun _ _ => rfl, nofun⟩

/-- A set-up that fails decides the outcome, and leaves the relay untouched. -/
theorem untouched_of_setUpFails {outbound : Except Fault Socket} {failure : Failure}
    (fails : SetUpFails target proxy outbound failure) :
    (run target proxy now stats inbound outbound).outcome = .error failure ∧
      Untouched target proxy inbound outbound stats
        (run target proxy now stats inbound outbound) := by
  cases fails with
  | unreachable system =>
      refine ⟨?_, untouched_of_dial_error target proxy now stats inbound _⟩
      simp [run, dialFailure, system]
  | undialled other =>
      refine ⟨?_, untouched_of_dial_error target proxy now stats inbound _⟩
      simp [run, dialFailure, other]
  | refused ended =>
      refine ⟨?_, untouched_of_handshake_error target proxy now stats inbound ended⟩
      rw [run_of_handshake_error target proxy now stats inbound ended]
      rfl
  | interrupted ended system =>
      refine ⟨?_, untouched_of_handshake_error target proxy now stats inbound ended⟩
      rw [run_of_handshake_error target proxy now stats inbound ended]
      simp [handshakeFailure, system]
  | broken ended other =>
      refine ⟨?_, untouched_of_handshake_error target proxy now stats inbound ended⟩
      rw [run_of_handshake_error target proxy now stats inbound ended]
      simp [handshakeFailure, other]

/-- The two pumps use the outbound socket after its limit was lifted. They neither close it nor set
another limit. -/
theorem used_pumps (outbound : Socket) :
    (outbound.setLimit none).Used (pumps now stats inbound outbound).2.source ∧
      (pumps now stats inbound outbound).2.source.upkeep = (outbound.setLimit none).upkeep := by
  obtain ⟨-, written⟩ := Flow.used_run .clientToServer now
    ⟨.fresh, inbound, outbound.setLimit none, stats⟩
  obtain ⟨-, kept⟩ := Flow.upkeep_run .clientToServer now
    ⟨.fresh, inbound, outbound.setLimit none, stats⟩
  obtain ⟨read, -⟩ := Flow.used_run .serverToClient now
    ⟨.fresh, (pumps now stats inbound outbound).1.sink,
      (pumps now stats inbound outbound).1.source, (pumps now stats inbound outbound).1.stats⟩
  obtain ⟨kept', -⟩ := Flow.upkeep_run .serverToClient now
    ⟨.fresh, (pumps now stats inbound outbound).1.sink,
      (pumps now stats inbound outbound).1.source, (pumps now stats inbound outbound).1.stats⟩
  exact ⟨written.trans read, kept'.trans kept⟩

/-- After an accepted handshake the limit is lifted, and a start is recorded. -/
theorem lifted_of_accepted {socket : Socket} {bound : BoundAddress}
    (accepted : (handshake target proxy socket).outcome = .ok bound) :
    ∃ ready far, (run target proxy now stats inbound (.ok socket)).dial.socket = some far ∧
      Lifted target proxy socket ready far bound ∧
      ⟨.info, none, "Start relay to " ++ target.text, none⟩ ∈
        (run target proxy now stats inbound (.ok socket)).log := by
  obtain ⟨good, left⟩ := Dialogue.verdict_of_ok accepted
  rw [Replies.verdict_connect] at good
  obtain ⟨limits, closes, -, frames⟩ := kept_handshake target proxy socket
  obtain ⟨⟨work, leftOpen, worked⟩, upkeep⟩ := used_pumps now stats inbound
    (handshake target proxy socket).socket
  obtain ⟨limits', closes'⟩ := Prod.mk.injEq .. ▸ upkeep
  rw [report_of_accepted target proxy now stats inbound rfl accepted]
  refine ⟨(handshake target proxy socket).socket, _, rfl, ?_,
    List.mem_append_right _ List.mem_cons_self⟩
  constructor
  · exact frames
  · exact ⟨_, good, left⟩
  · exact limits
  · exact ⟨work, leftOpen, congrArg Socket.close worked⟩
  · refine limits'.trans ?_
    rw [Socket.setLimit, limits, List.append_assoc]
    rfl
  · exact congrArg (· + 1) (closes'.trans closes)

/-- Either the set-up fails, in one of five ways, or the handshake is accepted. In the first case
the failure decides the outcome; nothing is read from the client, sent to it or closed for it, no
statistic changes and no start is recorded; a dial that fails opens no socket, and one that goes
through leaves a socket that has been closed once, with frames of the handshake on it only, the
limit of the handshake set and its sending side left open. In the second case that limit is lifted
before any byte is carried. -/
theorem relay_waits_for_setUp (outbound : Except Fault Socket) :
    ((∃ failure, SetUpFails target proxy outbound failure) ∨
      ∃ socket bound, outbound = .ok socket ∧
        (handshake target proxy socket).outcome = .ok bound) ∧
    (∀ failure, SetUpFails target proxy outbound failure →
      (run target proxy now stats inbound outbound).outcome = .error failure ∧
        Untouched target proxy inbound outbound stats
          (run target proxy now stats inbound outbound)) ∧
    ∀ socket bound, outbound = .ok socket → (handshake target proxy socket).outcome = .ok bound →
      ∃ ready far, (run target proxy now stats inbound outbound).dial.socket = some far ∧
        Lifted target proxy socket ready far bound ∧
        ⟨.info, none, "Start relay to " ++ target.text, none⟩ ∈
          (run target proxy now stats inbound outbound).log := by
  refine ⟨setUp_cases target proxy outbound, ?_, ?_⟩
  · intro failure fails
    exact untouched_of_setUpFails target proxy now stats inbound fails
  · intro socket bound dialled accepted
    cases dialled
    exact lifted_of_accepted target proxy now stats inbound accepted

/-- A proxy, heard in two pieces, that cannot reach the target. -/
theorem relay_waits_for_setUp_refused :
    Untouched (.loopback 80) .loopback (.fresh [.data [1]] [] none)
        (.ok (.fresh [.data [5, 0, 5], .data [5, 0, 1]] [] none)) (some (.empty 0))
        (run (.loopback 80) .loopback .nan (some (.empty 0)) (.fresh [.data [1]] [] none)
          (.ok (.fresh [.data [5, 0, 5], .data [5, 0, 1]] [] none))) := by
  have ended : (handshake (.loopback 80) .loopback
      (.fresh [.data [5, 0, 5], .data [5, 0, 1]] [] none)).outcome =
      .error (.error (.refused .connectionRefused)) :=
    Replies.outcome_run (.loopback 80) Proxy.loopback.credential
      (s := Socket.setLimit Proxy.loopback.handshakeTimeout
        (.fresh [.data [5, 0, 5], .data [5, 0, 1]] [] none)) (fun _ _ => rfl)
  obtain ⟨-, untouched, -⟩ := relay_waits_for_setUp (.loopback 80) .loopback .nan
    (some (.empty 0)) (.fresh [.data [1]] [] none)
    (.ok (.fresh [.data [5, 0, 5], .data [5, 0, 1]] [] none))
  exact (untouched _ (.refused ended)).2

end

end Relay

end SocksTunnel
