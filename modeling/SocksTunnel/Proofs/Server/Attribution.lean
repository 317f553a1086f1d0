import SocksTunnel.Proofs.Server.Conservation
import SocksTunnel.Proofs.Server.Isolation

/-!
Which connection a record names. The handlers that are started are numbered, and each record of a
handler bears its number and its peer; all other records bear a hyphen for both.

* `concluded_handled` — the records of a handler end with the one that says how its relay ended; a
  handler that is left by another failure has none, and that failure is recorded outside of it.
* `records_attributed` — so it is in each run of the server, however it goes.
-/

namespace SocksTunnel

open SocksTunnel.Text SocksTunnel.Log SocksTunnel.Relay SocksTunnel.Traffic SocksTunnel.Socks

/-! ### Records and their connections -/

namespace Log.Record

/-- A record shows this connection and this peer. -/
def Bears (connection peer : String) (r : Record) : Prop :=
  r.connectionText = connection ∧ r.peerText = peer

/-- A record that belongs to no connection. -/
def Unattached (r : Record) : Prop := r.Bears "-" "-"

theorem bears_within (context : Context) (r : Record) :
    (r.within context).Bears (decimal context.connection) context.peer := ⟨rfl, rfl⟩

/-- Whether a record says that a relay has finished or failed: it is one of an error, or begins in
the words for a relay that has finished. -/
def concludes (r : Record) : Bool :=
  r.level == .error || r.level == .info && "Relay finished: ".toList.isPrefixOf r.message.toList

end Log.Record

/-- How the records of a handler end, those that it makes itself and those that are made after it.
One record of its own says how the relay ended, and it is the last one: that it has finished, with
texts that tell the bytes that went each way, or that it has failed, with the failure. If another
failure left the handler there is none, and a record behind those of the handler names the failure.
That comes of a relay that has finished only if its bytes are more than any machine can carry. -/
inductive Concluded (context : Context) (peer : Peer) :
    Except Failure Summary → List Record → List Record → Prop where
  | finished {summary : Summary} {front : List Record} {sent received : String}
      (told : Size.Tells summary.sent sent) (told' : Size.Tells summary.received received)
      (quiet : ∀ r ∈ front, r.concludes = false) :
      Concluded context peer (.ok summary)
        (front ++ [⟨.info, some context,
          "Relay finished: " ++ sent ++ " sent, " ++ received ++ " received", none⟩]) []
  | failed {failure : Failure} {front : List Record} (named : failure.isOf .relay = true)
      (quiet : ∀ r ∈ front, r.concludes = false) :
      Concluded context peer (.error failure)
        (front ++ [⟨.error, some context, "Relay for " ++
          (peer.ip ++ ":" ++ signedDecimal peer.port) ++ " failed: " ++ failure.message, none⟩]) []
  | left {failure : Failure} {own : List Record} (other : failure.isOf .relay = false)
      (quiet : ∀ r ∈ own, r.concludes = false) :
      Concluded context peer (.error failure) own
        [⟨.error, none, "Unhandled error for connection from " ++ peer.parts, some failure⟩]
  | unwritten {summary : Summary} {own : List Record}
      (many : Size.limit ≤ summary.sent ∨ Size.limit ≤ summary.received)
      (quiet : ∀ r ∈ own, r.concludes = false) :
      Concluded context peer (.ok summary) own
        [⟨.error, none, "Unhandled error for connection from " ++ peer.parts,
          some (.magnitude .quotient)⟩]

/-- The report on a connection whose handler was given a number, at a time and with the statistics
`before` it. The records of the handler bear the number and the peer, the first one is that of the
arrival, and they end as the outcome of the relay calls for. What is recorded after the handler
belongs to no connection. -/
structure Attributed (target : Target) (proxy : Proxy) (number : Nat) (clock : Reading)
    (before : Stats) (incoming : Incoming) (report : EntryReport) (own after : List Record) :
    Prop where
  split : report.log = own ++ after
  bears : ∀ r ∈ own,
    r.Bears (decimal number) (incoming.peer.ip ++ ":" ++ signedDecimal incoming.peer.port)
  first : own.head? = some ⟨.info,
    some ⟨number, incoming.peer.ip ++ ":" ++ signedDecimal incoming.peer.port⟩,
    "Receive new incoming connection from " ++
      (incoming.peer.ip ++ ":" ++ signedDecimal incoming.peer.port), none⟩
  concluded : ∃ relay,
    Relay.run target proxy clock (some before.started) incoming.inbound incoming.outbound = relay ∧
      report.dials = [relay.dial] ∧
      Concluded ⟨number, incoming.peer.ip ++ ":" ++ signedDecimal incoming.peer.port⟩
        incoming.peer relay.outcome own after
  unattached : ∀ r ∈ after, r.Unattached

section

variable (target : Target) (proxy : Proxy)

/-! ### Records of a handler -/

theorem concludes_arrivalRecord (peer : String) : (arrivalRecord peer).concludes = false := by
  simp only [Record.concludes, arrivalRecord, Record.info, String.toList_append]
  rfl

/-- No record of the relay itself says how it ended. -/
theorem Relay.concludes_run (now : Reading) (stats : Option Stats) (inbound : Socket)
    (outbound : Except Fault Socket) :
    ∀ r ∈ (Relay.run target proxy now stats inbound outbound).log, r.concludes = false := by
  have notes (messages : List String) :
      ∀ r ∈ messages.map Record.debug, r.concludes = false := by
    intro r noted
    obtain ⟨message, -, rfl⟩ := List.mem_map.mp noted
    rfl
  have start : (startRecord target).concludes = false := by
    simp only [Record.concludes, startRecord, Record.info, String.toList_append]
    rfl
  rcases run_cases target proxy inbound outbound with
    ⟨cause, -, ran⟩ | ⟨socket, held, cause, -, -, -, ran⟩ | ⟨socket, held, bound, -, -, -, ran⟩
  · rw [ran]
    exact List.forall_mem_nil _
  · rw [ran]
    exact notes held.notes
  · rw [ran]
    intro r member
    rcases List.mem_append.mp member with noted | last
    · exact notes held.notes r noted
    · rw [List.mem_singleton.mp last]
      exact start

/-- The records of a handler up to the last one. -/
def handlerLog (number : Nat) (peer : String) (relayed : List Record) : List Record :=
  (arrivalRecord peer :: relayed).map (Record.within ⟨number, peer⟩)

theorem concludes_handlerLog (number : Nat) (peer : String) {relayed : List Record}
    (quiet : ∀ r ∈ relayed, r.concludes = false) :
    ∀ r ∈ handlerLog number peer relayed, r.concludes = false := by
  intro r member
  obtain ⟨plain, made, rfl⟩ := List.mem_map.mp member
  rcases List.mem_cons.mp made with rfl | made
  · exact concludes_arrivalRecord peer
  · exact quiet plain made

/-- The records of a handler end as the outcome of its relay calls for. -/
theorem concluded_handled (now : Reading) (number : Nat) (stats : Stats) (incoming : Incoming) :
    Concluded ⟨number, incoming.peer.text⟩ incoming.peer
      (Relay.run target proxy now (some stats.started) incoming.inbound incoming.outbound).outcome
      (handle target proxy now number stats incoming).log
      ((handle target proxy now number stats incoming).failure.toList.map
        (unhandled incoming.peer)) := by
  have quiet := concludes_handlerLog number incoming.peer.text
    (Relay.concludes_run target proxy now (some stats.started) incoming.inbound incoming.outbound)
  simp only [handle]
  cases (Relay.run target proxy now (some stats.started) incoming.inbound
    incoming.outbound).outcome with
  | ok summary =>
      rw [conclude]
      rcases finishedText_cases summary with ⟨-, sent, received, told, told', text⟩ | ⟨many, text⟩
      · rw [text, finish, List.map_append]
        exact .finished told told' quiet
      · rw [text, finish, List.append_nil]
        exact .unwritten (by omega) quiet
  | error failure =>
      rw [conclude]
      cases named : failure.isOf .relay with
      | true =>
          rw [if_pos rfl, List.map_append]
          exact .failed named quiet
      | false =>
          rw [if_neg Bool.false_ne_true, List.append_nil]
          exact .left named quiet

theorem unattached_unhandled (peer : Peer) (failure : Failure) :
    (unhandled peer failure).Unattached := ⟨rfl, rfl⟩

/-- An entry whose handler is started leaves records that are attributed to the next number, and
does not end the loop. -/
theorem attributed_takeEntry {incoming : Incoming} {entry : Entry}
    (started : entry.started? = some incoming) (state : LoopState) :
    (takeEntry target proxy state entry).2.2 = none ∧
      ∃ own after, Attributed target proxy state.nextNumber (entry.now.getD state.now) state.stats
        incoming (takeEntry target proxy state entry).1 own after := by
  rcases takeEntry_cases target proxy state entry with ⟨now, cause, rfl, -, -⟩ |
    ⟨now, cause, rfl, -, -⟩ | ⟨now, incoming', cause, rfl, spawn, -⟩ |
    ⟨now, incoming', handled, rfl, spawn, rfl, taken⟩
  · cases started
  · cases started
  · simp [Entry.started?, spawn] at started
  · obtain rfl : incoming' = incoming := by simpa [Entry.started?, spawn] using started
    rw [taken]
    refine ⟨rfl, _, _, rfl, ?_, rfl, ⟨_, rfl, rfl, concluded_handled target proxy _ _ _ _⟩, ?_⟩
    · intro r member
      obtain ⟨plain, -, rfl⟩ := List.mem_map.mp member
      exact plain.bears_within _
    · intro r member
      obtain ⟨failure, -, rfl⟩ := List.mem_map.mp member
      exact unattached_unhandled _ failure

/-- An entry without a handler leaves records that belong to no connection. -/
theorem unattached_takeEntry {entry : Entry} (unstarted : entry.started? = none)
    (state : LoopState) : ∀ r ∈ (takeEntry target proxy state entry).1.log, r.Unattached := by
  rcases takeEntry_cases target proxy state entry with ⟨now, cause, rfl, -, taken⟩ |
    ⟨now, cause, rfl, -, taken⟩ | ⟨now, incoming, cause, rfl, -, taken⟩ |
    ⟨now, incoming, handled, rfl, spawn, -, -⟩
  · rw [taken]
    intro r member
    rw [List.mem_singleton.mp member]
    exact ⟨rfl, rfl⟩
  · rw [taken]
    exact List.forall_mem_nil _
  · rw [taken]
    intro r member
    rw [List.mem_singleton.mp member]
    exact unattached_unhandled _ _
  · simp [Entry.started?, spawn] at unstarted

/-! ### Runs of the server -/

/-- The records of the entry that ends the loop belong to no connection. -/
theorem unattached_lastLog (state : LoopState) (entries : List Entry) :
    ∀ r ∈ (takeEntries target proxy state entries).lastLog, r.Unattached := by
  induction entries generalizing state with
  | nil => exact List.forall_mem_nil _
  | cons entry rest ih =>
      rw [takeEntries]
      rcases taken : takeEntry target proxy state entry with ⟨report, state', _ | failure⟩
      · exact ih state'
      · cases started : entry.started? with
        | none =>
            have unattached := unattached_takeEntry target proxy started state
            rw [taken] at unattached
            exact unattached
        | some incoming =>
            have goesOn := (attributed_takeEntry target proxy started state).1
            rw [taken] at goesOn
            cases goesOn

/-- What a server records before its first entry and after its last one belongs to no connection. -/
theorem unattached_serve (listen : String) (c : Circumstances) :
    ∀ r ∈ (serve listen target proxy c).opening ++ (serve listen target proxy c).closing,
      r.Unattached := by
  rw [serve]
  split
  · exact List.forall_mem_nil _
  · split
    · exact List.forall_mem_nil _
    · exact List.forall_mem_nil _
    · intro r member
      rcases List.mem_append.mp member with opening | closing
      · rw [List.mem_singleton.mp opening]
        exact ⟨rfl, rfl⟩
      · rcases List.mem_append.mp closing with last | closed
        · exact unattached_lastLog target proxy _ _ r last
        · rw [List.mem_singleton.mp closed]
          exact ⟨rfl, rfl⟩

/-- However a run of the server goes, the first handler that is started gets the number one, and
each one after that the next number; an accept that fails and a handler that cannot be started use
up none. All records from the start of a handler to its end bear its number and its peer. The first
of them is that of the arrival. If the relay finishes or fails as a relay, the last one says so,
with texts that are read back as the bytes, or with the failure, and it is the only one that does;
if another failure leaves the handler, that is recorded outside. All other records of the run bear
no connection and no peer. -/
theorem records_attributed (listen : String) (c : Circumstances) :
    (∀ r ∈ (serve listen target proxy c).opening ++ (serve listen target proxy c).closing,
      r.Unattached) ∧
    ∀ (i : Nat) (entry : Entry) (report : EntryReport), c.entries[i]? = some entry →
      (serve listen target proxy c).entries[i]? = some report →
        (entry.started? = none → ∀ r ∈ report.log, r.Unattached) ∧
        ∀ incoming, entry.started? = some incoming → ∃ before own after,
          ((serve listen target proxy c).shown c)[i]? = some before ∧
          Attributed target proxy ((startedIn (c.entries.take i)).length + 1)
            (clockAt c.now c.entries i) before incoming report own after := by
  refine ⟨unattached_serve target proxy listen c, ?_⟩
  intro i entry report there shown
  obtain ⟨before, taken, reached⟩ := reached_serve there shown
  rw [← taken]
  constructor
  · intro unstarted
    exact unattached_takeEntry target proxy unstarted before
  · intro incoming started
    obtain ⟨-, own, after, attributed⟩ := attributed_takeEntry target proxy started before
    rw [reached.clockAt_eq there, reached.number, Nat.add_comm] at attributed
    exact ⟨before.stats, own, after, reached.shown, attributed⟩

end

/-- The relay of the connection that works sends one byte and receives none. -/
theorem Incoming.outcome_working (stats : Stats) :
    (Relay.run (.loopback 80) .loopback (.finite false 1 3) (some stats) Incoming.working.inbound
      Incoming.working.outbound).outcome = .ok ⟨1, 0⟩ := by
  have finite : Binary64.IsFinite (.finite false 1 3) := ⟨false, 1, 3, rfl⟩
  obtain ⟨outcome, -⟩ := run_blind (.loopback 80) .loopback finite finite (some stats)
    (some (.empty 0)) Incoming.working.inbound Incoming.working.outbound
  rw [outcome]
  decide +kernel

/-- The second handler that is started, after an accept that failed, a handler that was left by a
failure and one that could not be started. Its last record tells one byte sent and none received. -/
theorem records_attributed_second :
    ∃ report own after sent received,
      (serve "localhost:1080" (.loopback 80) .loopback .busy).entries[3]? = some report ∧
      report.log = own ++ after ∧ (∀ r ∈ own, r.Bears "2" "127.0.0.1:50001") ∧
      own.head? = some ⟨.info, some ⟨2, "127.0.0.1:50001"⟩,
        "Receive new incoming connection from 127.0.0.1:50001", none⟩ ∧
      own.getLast? = some ⟨.info, some ⟨2, "127.0.0.1:50001"⟩,
        "Relay finished: " ++ sent ++ " sent, " ++ received ++ " received", none⟩ ∧
      Size.Tells 1 sent ∧ Size.Tells 0 received := by
  have reached : 3 < (serve "localhost:1080" (.loopback 80) .loopback .busy).entries.length := by
    rw [Circumstances.entries_busy]
    decide +kernel
  obtain ⟨-, attributed⟩ :=
    records_attributed (.loopback 80) .loopback "localhost:1080" Circumstances.busy
  obtain ⟨-, started⟩ := attributed 3 Entry.working _ rfl (List.getElem?_eq_getElem reached)
  obtain ⟨before, own, after, -, shown⟩ := started .working rfl
  have number : decimal 2 = "2" := by simp [decimal, decimalDigits, digitChar]
  have peer : "127.0.0.1" ++ ":" ++ signedDecimal 50001 = "127.0.0.1:50001" := by
    simp [signedDecimal, decimal, decimalDigits, digitChar]
  have bears : ∀ r ∈ own, r.Bears "2" "127.0.0.1:50001" := by
    intro r member
    rw [← number, ← peer]
    exact shown.bears r member
  have first : own.head? = some ⟨.info, some ⟨2, "127.0.0.1" ++ ":" ++ signedDecimal 50001⟩,
      "Receive new incoming connection from " ++ ("127.0.0.1" ++ ":" ++ signedDecimal 50001),
      none⟩ := shown.first
  obtain ⟨relay, rfl, -, concluded⟩ := shown.concluded
  have last : Concluded ⟨2, "127.0.0.1" ++ ":" ++ signedDecimal 50001⟩ Incoming.working.peer
      (.ok ⟨1, 0⟩) own after := Incoming.outcome_working before.started ▸ concluded
  rw [peer] at first last
  cases last with
  | finished told told' quiet =>
      exact ⟨_, _, _, _, _, List.getElem?_eq_getElem reached, shown.split, bears, first,
        List.getLast?_concat .., told, told'⟩
  | unwritten many quiet =>
      rcases many with many | many
      · exact absurd (Size.lt_limit (by decide : 1 < 2 ^ 53)) (not_lt.mpr many)
      · exact absurd (Size.lt_limit (by decide : 0 < 2 ^ 53)) (not_lt.mpr many)

end SocksTunnel
