import SocksTunnel.Proofs.Relay.Clean
import SocksTunnel.Proofs.Server.Isolation

/-!
Relays that succeed, and the count of those that failed.

The count grows with each connection but for those whose relay returns a summary. So what a summary
says of the calls of a relay, the count says too; and what a summary does not say, a fault that is
none of the system in the direction to the server, cannot be read from the count either.

* `failed_handle` — a handler counts no failure just if its relay returns a summary.
* `success_means_clean` — what a summary and the count say of the calls of both directions.
* `exhausted_client_unreported` — a relay that succeeds, though nothing could be read from the
  client.
-/

namespace SocksTunnel

open SocksTunnel.Text SocksTunnel.Log SocksTunnel.Relay SocksTunnel.Traffic SocksTunnel.Socks

section

variable (target : Target) (proxy : Proxy)

/-- A handler counts no failure just if its relay returns a summary. -/
theorem failed_handle (now : Reading) (number : Nat) (stats : Stats) (incoming : Incoming) :
    (handle target proxy now number stats incoming).stats.read .failed = stats.read .failed ↔
      ∃ summary, (Relay.run target proxy now (some stats.started) incoming.inbound
        incoming.outbound).outcome = .ok summary := by
  obtain ⟨up, down, counted, -, -, present, grown⟩ :=
    Relay.run_counts target proxy now stats.started incoming.inbound incoming.outbound
  -- The chunks of a relay are credited to other counters.
  have kept : counted.read .failed = stats.read .failed := by
    rw [grown, Stats.read_started]
    simp [Direction.credit, Counter.atStart]
  simp only [handle, present, Option.getD_some]
  rw [Stats.read_ended, kept]
  cases (Relay.run target proxy now (some stats.started) incoming.inbound
    incoming.outbound).outcome with
  | ok summary => simp [isFailure, Counter.atEnd]
  | error failure =>
      simp only [isFailure, Counter.atEnd, if_true, reduceCtorEq, exists_false, iff_false]
      omega

/-- In a run of the server, a connection that is handled is not counted as failed just if its relay
succeeds, in the state that the entry is taken in. -/
theorem failed_serve {listen : String} {c : Circumstances} {i : Nat} {now : Option Reading}
    {incoming : Incoming} {report : EntryReport}
    (there : c.entries[i]? = some ⟨now, .accepted incoming⟩) (started : incoming.spawnFault = none)
    (listed : (serve listen target proxy c).entries[i]? = some report) :
    ∃ clock before, ((serve listen target proxy c).shown c)[i]? = some before ∧
      (c.Clocked → clock.IsFinite) ∧
      (report.stats.read .failed = before.read .failed ↔
        Succeeds target proxy clock (some before.started) incoming.inbound incoming.outbound) := by
  obtain ⟨before, taken, reached⟩ := reached_serve there listed
  refine ⟨now.getD before.now, before.stats, reached.shown, ?_, ?_⟩
  · intro clocked
    have begun : before.now.IsFinite := reached.finite clocked.start clocked.moves
    exact finite_getD begun (clocked.moves _ (List.mem_of_getElem? there))
  · rw [← outcome_ok_iff, ← failed_handle target proxy _ before.nextNumber, ← taken]
    simp only [takeEntry, started]

/-- Whatever fails on the two sockets, a relay returns a summary just if the dial and the handshake
went well, the direction to the client came to the end of its source, all sends and the close in it
went well, and none of the calls of the direction to the server met a fault of the system. In each
run of the server, a connection that is handled is not counted as failed just if that is so. If the
calls of the direction to the server meet no other faults, and each chunk in it can be counted, then
a summary means that both directions are clean. -/
theorem success_means_clean :
    (∀ (now : Reading) (stats : Option Stats) (inbound : Socket) (outbound : Except Fault Socket),
      (∃ summary, (Relay.run target proxy now stats inbound outbound).outcome = .ok summary) ↔
        Succeeds target proxy now stats inbound outbound) ∧
    (∀ (listen : String) (c : Circumstances) (i : Nat) (now : Option Reading) (incoming : Incoming)
      (report : EntryReport), c.entries[i]? = some ⟨now, .accepted incoming⟩ →
      incoming.spawnFault = none → (serve listen target proxy c).entries[i]? = some report →
      ∃ clock before, ((serve listen target proxy c).shown c)[i]? = some before ∧
        (c.Clocked → clock.IsFinite) ∧
        (report.stats.read .failed = before.read .failed ↔
          Succeeds target proxy clock (some before.started) incoming.inbound incoming.outbound)) ∧
    ∀ (now : Reading) (stats : Option Stats) (inbound socket : Socket) (summary : Summary),
      (Relay.run target proxy now stats inbound (.ok socket)).outcome = .ok summary →
      (∀ deed ∈ dealings now stats inbound (handshake target proxy socket).socket .clientToServer,
        ∀ cause, deed.fault? = some cause → cause.isSystem = true) →
      now.IsFinite ∨ stats = none →
      ∀ direction,
        Clean (dealings now stats inbound (handshake target proxy socket).socket direction) := by
  refine ⟨?_, ?_, ?_⟩
  · intro now stats inbound outbound
    exact outcome_ok_iff now stats inbound target proxy outbound
  · intro listen c i now incoming report there started listed
    exact failed_serve target proxy there started listed
  · intro now stats inbound socket summary returned system countable direction
    obtain ⟨-, down, up⟩ :=
      (outcome_ok_iff now stats inbound target proxy (.ok socket)).mp ⟨summary, returned⟩
    cases direction with
    | clientToServer => exact clean_up_of_orderly now stats inbound _ up system countable
    | serverToClient => exact down

end

/-! ### A relay that succeeds, and one that only seems to -/

/-- A proxy that accepts, with nothing behind its answers. -/
def Socket.answering : Socket := .fresh [.data [5, 0, 5, 0, 0, 1, 127, 0, 0, 1, 0, 80]] [] none

theorem Socket.faultless_answering : answering.Faultless := ⟨rfl, fun _ _ => rfl, rfl⟩

theorem Socket.accepted_answering :
    (handshake (.loopback 80) .loopback answering).outcome =
      .ok ⟨ipv4Host [127, 0, 0, 1], 80⟩ :=
  Replies.outcome_run (.loopback 80) Proxy.loopback.credential fun _ _ => rfl

theorem Circumstances.clocked_only (incoming : Incoming) : (only incoming).Clocked := by
  refine ⟨⟨false, 0, 0, rfl⟩, ?_⟩
  simp [only]

theorem listed_only (incoming : Incoming) (started : incoming.spawnFault = none) :
    ∃ report, (serve "localhost:1080" (.loopback 80) .loopback (.only incoming)).entries[0]? =
      some report :=
  listed_of_started (.loopback 80) .loopback (Circumstances.enters_only incoming) rfl
    (List.forall_mem_nil _) started

/-- A client that sends one byte, and a proxy that accepts: both directions are clean, and the
server counts no failure. -/
theorem success_means_clean_byte :
    (∀ direction, Clean (dealings (.finite false 0 0) none (.fresh [.data [1]] [] none)
      (handshake (.loopback 80) .loopback .answering).socket direction)) ∧
    ∃ report, (serve "localhost:1080" (.loopback 80) .loopback (.only
        ⟨⟨"127.0.0.1", 50000, []⟩, .fresh [.data [1]] [] none, .ok .answering, none⟩)).entries[0]? =
          some report ∧
      report.stats.read .failed = 0 := by
  have calm : Socket.Faultless (.fresh [.data [1]] [] none) := ⟨rfl, fun _ _ => rfl, rfl⟩
  have succeeds {now : Reading} (finite : now.IsFinite) (stats : Option Stats) :=
    succeeds_of_faultless finite stats calm Socket.faultless_answering Socket.accepted_answering
  obtain ⟨returns, counts, clean⟩ := success_means_clean (.loopback 80) .loopback
  constructor
  · obtain ⟨summary, returned⟩ := (returns _ _ _ _).mpr (succeeds ⟨false, 0, 0, rfl⟩ none)
    apply clean _ _ _ _ summary returned
    · intro deed member cause met
      have calm' : (handshake (.loopback 80) .loopback .answering).socket.Faultless :=
        faultless_handshake Socket.faultless_answering Socket.accepted_answering
      have up : Clean (dealings (.finite false 0 0) none (.fresh [.data [1]] [] none)
          (handshake (.loopback 80) .loopback .answering).socket .clientToServer) :=
        Flow.clean_of_faultless _ ⟨false, 0, 0, rfl⟩ none calm.ending calm'.sends calm'.closes
      rw [(went_up _ _ _ _).fault?_of_clean up deed member] at met
      cases met
    · exact .inr rfl
  · obtain ⟨report, listed⟩ := listed_only
      ⟨⟨"127.0.0.1", 50000, []⟩, .fresh [.data [1]] [] none, .ok .answering, none⟩ rfl
    obtain ⟨clock, before, shown, finite, counted⟩ := counts _ _ 0 _ _ _ rfl rfl listed
    obtain rfl : before = .empty 0 := (Option.some.inj shown).symm
    refine ⟨report, listed, counted.mpr ?_⟩
    exact succeeds (finite (Circumstances.clocked_only _)) _

/-- A client from which nothing can be read, for a fault that is none of the system. -/
def Socket.exhausted : Socket := .fresh [.fault ⟨.exhausted, none, "no more memory"⟩] [] none

/-- From the client comes a fault that is none of the system: neither data nor the end of its stream
was read, and nothing was closed toward the proxy. But the relay returns a summary, and the server
counts no failure. -/
theorem exhausted_client_unreported :
    (∃ summary, (Relay.run (.loopback 80) .loopback (.finite false 0 0) none .exhausted
      (.ok .answering)).outcome = .ok summary) ∧
    ¬ Clean (dealings (.finite false 0 0) none .exhausted
      (handshake (.loopback 80) .loopback .answering).socket .clientToServer) ∧
    ∃ report, (serve "localhost:1080" (.loopback 80) .loopback (.only
        ⟨⟨"127.0.0.1", 50000, []⟩, .exhausted, .ok .answering, none⟩)).entries[0]? = some report ∧
      report.stats.read .failed = 0 := by
  have succeeds {now : Reading} (finite : now.IsFinite) (stats : Option Stats) :
      Succeeds (.loopback 80) .loopback now stats .exhausted (.ok .answering) ∧
        ¬ Clean (dealings now stats .exhausted
          (handshake (.loopback 80) .loopback .answering).socket .clientToServer) :=
    succeeds_of_unreadable finite stats rfl rfl (fun _ _ => rfl) rfl Socket.faultless_answering
      Socket.accepted_answering
  obtain ⟨returned, unclean⟩ := succeeds ⟨false, 0, 0, rfl⟩ none
  obtain ⟨report, listed⟩ := listed_only
    ⟨⟨"127.0.0.1", 50000, []⟩, .exhausted, .ok .answering, none⟩ rfl
  obtain ⟨clock, before, shown, finite, counted⟩ :=
    failed_serve (.loopback 80) .loopback (i := 0) rfl rfl listed
  obtain rfl : before = .empty 0 := (Option.some.inj shown).symm
  refine ⟨?_, unclean, report, listed, counted.mpr ?_⟩
  · exact (outcome_ok_iff _ _ _ _ _ _).mpr returned
  · exact (succeeds (finite (Circumstances.clocked_only _)) _).1

end SocksTunnel
