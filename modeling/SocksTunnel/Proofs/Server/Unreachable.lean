import SocksTunnel.Proofs.Relay.SetUp
import SocksTunnel.Proofs.Server.Loop

/-!
Connections whose proxy cannot be reached.

A dial looks the proxy up and connects to it. A fault of the system in either step is named as what
it is, a proxy that cannot be reached. But the name of a proxy is checked only for its shape, and to
look up a name that has no form on the wire fails in another way, which is not named.

* `unreached_takeEntry` — what is to be seen of a connection whose dial has failed.
* `unreachable_reported` — how it is reported, by the relay and in each run of the server.
* `unencodable_proxy_unreported` — a proxy that is accepted, and cannot be reached for its name.
-/

namespace SocksTunnel

open SocksTunnel.Text SocksTunnel.Log SocksTunnel.Relay SocksTunnel.Traffic SocksTunnel.Socks

/-- The last record of a connection whose dial has failed. A fault of the system is named in the
context of the connection, and any other one outside of it. -/
def dialRecord (proxy : Proxy) (number : Nat) (peer : Peer) (cause : Fault) : Record :=
  if cause.isSystem then
    ⟨.error, some ⟨number, peer.text⟩, "Relay for " ++ peer.text ++ " failed: " ++
      ("cannot reach proxy " ++ proxy.address ++ ": " ++ cause.message), none⟩
  else ⟨.error, none, "Unhandled error for connection from " ++ peer.parts, some (.fault cause)⟩

/-- What is to be seen of a connection whose dial has failed: its socket is given up as it came, the
dial has given no socket, the connection is counted as one that failed, and there are two records,
that of its arrival and that of its end. -/
structure Unreached (proxy : Proxy) (number : Nat) (incoming : Incoming) (cause : Fault)
    (before : Stats) (report : EntryReport) : Prop where
  inbound : report.inbound = some (giveUp incoming.inbound).2
  dials : report.dials = [⟨proxy.endpoint, proxy.connectTimeout, none⟩]
  stats : report.stats = before.started.ended true
  log : report.log = [⟨.info, some ⟨number, incoming.peer.text⟩,
      "Receive new incoming connection from " ++ incoming.peer.text, none⟩,
    dialRecord proxy number incoming.peer cause]

section

variable (target : Target) (proxy : Proxy)

/-- The outcome of a relay whose dial has failed. -/
theorem Relay.outcome_of_dial_error (now : Reading) (stats : Option Stats) (inbound : Socket)
    (cause : Fault) : (Relay.run target proxy now stats inbound (.error cause)).outcome =
      .error (if cause.isSystem then .unreachable proxy.address cause else .fault cause) := by
  cases system : cause.isSystem with
  | true =>
      obtain ⟨outcome, -⟩ := untouched_of_setUpFails target proxy now stats inbound
        (.unreachable system)
      exact outcome
  | false =>
      obtain ⟨outcome, -⟩ := untouched_of_setUpFails target proxy now stats inbound
        (.undialled system)
      exact outcome

/-- What is to be seen of a connection whose dial has failed. -/
theorem unreached_takeEntry {now : Option Reading} {incoming : Incoming} {cause : Fault}
    (started : incoming.spawnFault = none) (failed : incoming.outbound = .error cause)
    (state : LoopState) :
    Unreached proxy state.nextNumber incoming cause state.stats
      (takeEntry target proxy state ⟨now, .accepted incoming⟩).1 := by
  simp only [takeEntry, started, handle, failed, Relay.run, dialFailure]
  refine ⟨rfl, rfl, rfl, ?_⟩
  cases system : cause.isSystem with
  | true =>
      rw [dialRecord, system]
      rfl
  | false =>
      rw [dialRecord, system]
      rfl

/-- What is to be seen, in a run of the server, of a connection whose dial has failed. -/
theorem unreached_serve {listen : String} {c : Circumstances} (entered : c.Enters listen) {i : Nat}
    {now : Option Reading} {incoming : Incoming} {cause : Fault}
    (there : c.entries[i]? = some ⟨now, .accepted incoming⟩)
    (tame : ∀ earlier ∈ c.entries.take i, earlier.Tame) (started : incoming.spawnFault = none)
    (failed : incoming.outbound = .error cause) :
    ∃ before report, ((serve listen target proxy c).shown c)[i]? = some before ∧
      (serve listen target proxy c).entries[i]? = some report ∧
      Unreached proxy ((startedIn (c.entries.take i)).length + 1) incoming cause before report := by
  obtain ⟨report, listed⟩ := listed_of_started target proxy entered there tame started
  obtain ⟨before, taken, number, shown, -⟩ := reached_serve there listed
  have unreached : Unreached proxy before.nextNumber incoming cause before.stats
      (takeEntry target proxy before ⟨now, .accepted incoming⟩).1 :=
    unreached_takeEntry target proxy started failed before
  rw [taken, number, Nat.add_comm] at unreached
  exact ⟨before.stats, _, shown, listed, unreached⟩

/-- Whatever the proxy is, a dial that fails with a fault of the system makes the relay fail with a
proxy that cannot be reached, and the message names the proxy and the fault. In each run of the
server that comes to the connection, two records are left of it, both in its own context: that of
its arrival, and last the one that says so. Its client is sent nothing. Any other fault of the dial
comes out of the relay as it is, and is recorded as not expected, outside of that context. -/
theorem unreachable_reported (cause : Fault) :
    (∀ (now : Reading) (stats : Option Stats) (inbound : Socket),
      (cause.isSystem = true →
        ∃ failure, (Relay.run target proxy now stats inbound (.error cause)).outcome =
            .error failure ∧
          failure.kind? = some .proxyUnreachable ∧
          failure.message = "cannot reach proxy " ++ proxy.address ++ ": " ++ cause.message) ∧
      (cause.isSystem = false →
        (Relay.run target proxy now stats inbound (.error cause)).outcome =
          .error (.fault cause))) ∧
    ∀ (listen : String) (c : Circumstances) (i : Nat) (now : Option Reading) (incoming : Incoming),
      c.Enters listen → c.entries[i]? = some ⟨now, .accepted incoming⟩ →
      (∀ earlier ∈ c.entries.take i, earlier.Tame) →
      incoming.spawnFault = none → incoming.outbound = .error cause →
      ∃ before report, ((serve listen target proxy c).shown c)[i]? = some before ∧
        (serve listen target proxy c).entries[i]? = some report ∧
        Unreached proxy ((startedIn (c.entries.take i)).length + 1) incoming cause before
          report := by
  constructor
  · intro now stats inbound
    rw [Relay.outcome_of_dial_error]
    constructor
    · intro system
      rw [if_pos system]
      exact ⟨_, rfl, rfl, rfl⟩
    · intro other
      rw [if_neg (Bool.eq_false_iff.mp other)]
  · intro listen c i now incoming entered there tame started failed
    exact unreached_serve target proxy entered there tame started failed

end

/-! ### Two proxies that cannot be reached -/

/-- A first connection, whose dial fails. -/
def Incoming.cutOff (cause : Fault) : Incoming :=
  ⟨⟨"127.0.0.1", 50000, []⟩, .fresh [.data [1]] [] none, .error cause, none⟩

/-- A proxy that refuses the connection is named. -/
theorem unreachable_reported_refused :
    ∃ report, (serve "localhost:1080" (.loopback 80) .loopback
        (.only (.cutOff ⟨.connectionRefused, some 111, "Connection refused"⟩))).entries[0]? =
          some report ∧
      report.log.getLast? = some ⟨.error, some ⟨1, "127.0.0.1:50000"⟩,
        "Relay for " ++ "127.0.0.1:50000" ++ " failed: " ++
          ("cannot reach proxy localhost:1080: " ++ "[Errno 111] Connection refused"), none⟩ := by
  obtain ⟨-, served⟩ := unreachable_reported (.loopback 80) .loopback
    ⟨.connectionRefused, some 111, "Connection refused"⟩
  obtain ⟨before, report, -, shown, unreached⟩ := served _ _ 0 none (.cutOff _)
    (Circumstances.enters_only _) rfl (List.forall_mem_nil _) rfl rfl
  refine ⟨report, shown, ?_⟩
  have peer : Peer.text ⟨"127.0.0.1", 50000, []⟩ = "127.0.0.1:50000" := by
    simp [Peer.text, signedDecimal, decimal, decimalDigits, digitChar]
  have reason : Fault.message ⟨.connectionRefused, some 111, "Connection refused"⟩ =
      "[Errno 111] Connection refused" := by
    simp [Fault.message, signedDecimal, decimal, decimalDigits, digitChar]
  rw [unreached.log, ← peer, ← reason]
  rfl

/-- What it means to look up a name without a form on the wire: the codec fails, which is no fault
of the system. -/
def lookUpFault (error : Domain.LabelError) : Fault :=
  ⟨.encoding, none, "encoding with 'idna' codec failed (UnicodeError: " ++ error.message ++ ")"⟩

/-- A proxy whose name has an empty label. -/
def Proxy.doubleDotted : Proxy where
  address := "a..b:1080"
  endpoint := ⟨"a..b", 1080⟩
  credential := none
  connectTimeout := defaultTimeout
  handshakeTimeout := defaultTimeout
  parses := by
    have trimmed : trim "a..b:1080".toList = "a..b:1080".toList := by decide +kernel
    have split : HostPort.cut "a..b:1080".toList =
        .ok ("a..b".toList, ['1', '0', '8', '0']) := rfl
    have digits : ['1', '0', '8', '0'].all isPlainDigit = true := rfl
    rw [HostPort.parse_of_cut trimmed split (by decide), HostPort.readPort_of_plain (by decide)
      (List.all_eq_true.mp digits) (by decide) (by decide)]
    rfl

/-- A proxy is made again from its own settings. -/
theorem Proxy.make_self (p : Proxy) :
    make p.address p.credential p.connectTimeout p.handshakeTimeout = .ok p := by
  obtain ⟨address, endpoint, credential, connectTimeout, handshakeTimeout, parses⟩ := p
  unfold make
  split
  · rename_i e failed
    rw [parses] at failed
    cases failed
  · rename_i endpoint' parsed
    obtain rfl : endpoint = endpoint' := Except.ok.inj (parses.symm.trans parsed)
    rfl

/-- The proxy is accepted, and its name cannot be looked up. The relay does not fail with a proxy
that cannot be reached, nor with any failure of a relay, and the last record of the connection is
one of an error that was not expected, in no context. -/
theorem unencodable_proxy_unreported :
    Proxy.make "a..b:1080" none Proxy.defaultTimeout Proxy.defaultTimeout = .ok .doubleDotted ∧
    Domain.labelledBytes Proxy.doubleDotted.endpoint.host.toList = .error .length ∧
    (∃ failure, (Relay.run (.loopback 80) .doubleDotted (.finite false 0 0) none
        (.fresh [.data [1]] [] none) (.error (lookUpFault .length))).outcome = .error failure ∧
      failure.isOf .relay = false) ∧
    ∃ report, (serve "localhost:1080" (.loopback 80) .doubleDotted
        (.only (.cutOff (lookUpFault .length)))).entries[0]? = some report ∧
      report.log.getLast? = some ⟨.error, none, "Unhandled error for connection from " ++
        Peer.parts ⟨"127.0.0.1", 50000, []⟩, some (.fault (lookUpFault .length))⟩ ∧
      ∀ r ∈ report.log, r.level = .error → r.context = none := by
  have outcome := Relay.outcome_of_dial_error (.loopback 80) .doubleDotted (.finite false 0 0) none
    (.fresh [.data [1]] [] none) (lookUpFault .length)
  have there : (Circumstances.only (.cutOff (lookUpFault .length))).entries[0]? = some _ := rfl
  obtain ⟨before, report, -, shown, unreached⟩ := unreached_serve (.loopback 80) .doubleDotted
    (Circumstances.enters_only _) there (List.forall_mem_nil _) rfl rfl
  refine ⟨Proxy.make_self .doubleDotted, by decide +kernel, ⟨_, outcome, rfl⟩, report, shown,
    ?_, ?_⟩
  · rw [unreached.log]
    rfl
  · rw [unreached.log]
    simp [dialRecord, lookUpFault, Fault.isSystem, FaultKind.isSystem]

end SocksTunnel
