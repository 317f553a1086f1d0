import SocksTunnel.Proofs.Server.Loop
import SocksTunnel.Proofs.Socks.Rewording

/-!
The password of the proxy stays in the login. Two runs of a server with two passwords for one user
name go the same way; nothing but the login of each handshake that asks for one tells them apart.

* `Socket.Echoes` — a socket on which the same is done as on another one, after other chunks were
  sent; each call keeps this and gives the same on both.
* `Flow.Echoes.run` — so do pumps, and `run_conceals` says it of a relay.
* `serve_conceals_password` — outcome, records, statistics and sockets of two runs are the same, up
  to the logins, which agree as far as the user name goes.
-/

namespace SocksTunnel

open SocksTunnel.Text SocksTunnel.Log SocksTunnel.Relay SocksTunnel.Traffic SocksTunnel.Socks

namespace Socket

/-- The one socket is the other one, but that it has sent `y` where that one has sent `x`. -/
def Echoes (x y : List Bytes) (s t : Socket) : Prop :=
  ∃ more, s.sent = x ++ more ∧ t = s.resent (y ++ more)

namespace Echoes

variable {x y : List Bytes} {s t : Socket}

theorem refl (s : Socket) : Echoes [] [] s s := ⟨s.sent, rfl, rfl⟩

theorem eq_of_nil (echoes : Echoes [] [] s t) : t = s := by
  obtain ⟨more, sent, rfl⟩ := echoes
  rw [List.nil_append] at sent ⊢
  rw [← sent, resent_sent]

theorem arrivals (echoes : Echoes x y s t) : t.arrivals = s.arrivals := by
  obtain ⟨more, -, rfl⟩ := echoes
  rfl

theorem recv (echoes : Echoes x y s t) (size : Nat) :
    (t.recv size).1 = (s.recv size).1 ∧ Echoes x y (s.recv size).2 (t.recv size).2 := by
  obtain ⟨more, sent, rfl⟩ := echoes
  exact ⟨rfl, more, sent, rfl⟩

theorem send (echoes : Echoes x y s t) (bytes : Bytes) :
    (t.send bytes).1 = (s.send bytes).1 ∧ Echoes x y (s.send bytes).2 (t.send bytes).2 := by
  obtain ⟨more, sent, rfl⟩ := echoes
  have same := send_resent bytes bytes (y ++ more) s
  unfold Socket.send at same ⊢
  cases fault : s.nextSendFault with
  | some cause =>
      rw [fault] at same
      rw [same]
      exact ⟨rfl, more, sent, rfl⟩
  | none =>
      rw [fault] at same
      rw [same]
      refine ⟨rfl, more ++ [bytes], ?_, ?_⟩
      · simp [sent]
      · simp [resent]

theorem halfClose (echoes : Echoes x y s t) :
    t.halfClose.1 = s.halfClose.1 ∧ Echoes x y s.halfClose.2 t.halfClose.2 := by
  obtain ⟨more, sent, rfl⟩ := echoes
  exact ⟨rfl, more, sent, rfl⟩

theorem setLimit (echoes : Echoes x y s t) (limit : Timeout) :
    Echoes x y (s.setLimit limit) (t.setLimit limit) := by
  obtain ⟨more, sent, rfl⟩ := echoes
  exact ⟨more, sent, rfl⟩

theorem close (echoes : Echoes x y s t) : Echoes x y s.close t.close := by
  obtain ⟨more, sent, rfl⟩ := echoes
  exact ⟨more, sent, rfl⟩

end Echoes

end Socket

/-! ### Pumps -/

namespace Relay

/-- Flows with the same pump and the same statistics, on sockets that echo each other. -/
structure Flow.Echoes (x y x' y' : List Bytes) (f g : Flow) : Prop where
  pump : g.pump = f.pump
  source : f.source.Echoes x y g.source
  sink : f.sink.Echoes x' y' g.sink
  stats : g.stats = f.stats

namespace Flow.Echoes

variable {x y x' y' : List Bytes} {f g : Flow}

theorem step (direction : Direction) (now : Reading) (echoes : f.Echoes x y x' y' g) :
    (f.step direction now).Echoes x y x' y' (g.step direction now) := by
  obtain ⟨pump, source, sink, stats⟩ := echoes
  cases stage : f.pump.stage with
  | reading =>
      obtain ⟨found, source'⟩ := source.recv bufferSize
      rw [step_of_reading stage, step_of_reading (pump ▸ stage)]
      exact ⟨by simp only [pump, found], source', sink, stats⟩
  | sending chunk =>
      obtain ⟨fault, sink'⟩ := sink.send chunk
      rw [step_of_sending stage, step_of_sending (pump ▸ stage)]
      exact ⟨by simp only [pump, fault], source, sink', stats⟩
  | counting length =>
      rw [step_of_counting stage, step_of_counting (pump ▸ stage)]
      exact ⟨by simp only [pump, stats], source, sink, by simp only [stats]⟩
  | closing =>
      obtain ⟨fault, sink'⟩ := sink.halfClose
      rw [step_of_closing stage, step_of_closing (pump ▸ stage)]
      exact ⟨by simp only [pump, fault], source, sink', stats⟩
  | finished =>
      rw [step_of_finished stage, step_of_finished (pump ▸ stage)]
      exact ⟨pump, source, sink, stats⟩

theorem steps (direction : Direction) (now : Reading) (n : Nat) (echoes : f.Echoes x y x' y' g) :
    (f.steps direction now n).Echoes x y x' y' (g.steps direction now n) := by
  induction n generalizing f g with
  | zero => exact echoes
  | succ n ih => exact ih (echoes.step direction now)

theorem run (direction : Direction) (now : Reading) (echoes : f.Echoes x y x' y' g) :
    (f.run direction now).Echoes x y x' y' (g.run direction now) := by
  have bounds : g.bound = f.bound := by
    rw [bound, bound, echoes.pump, echoes.source.arrivals]
  rw [Flow.run, Flow.run, bounds]
  exact echoes.steps direction now f.bound

end Flow.Echoes

/-- Pumps on an outbound socket on which other chunks have been sent before do the same. -/
theorem pumps_echo (now : Reading) (stats : Option Stats) (inbound : Socket) {x y : List Bytes}
    {outbound outbound' : Socket} (echoes : outbound.Echoes x y outbound') :
    (pumps now stats inbound outbound).1.Echoes [] [] x y (pumps now stats inbound outbound').1 ∧
      (pumps now stats inbound outbound).2.Echoes x y [] []
        (pumps now stats inbound outbound').2 := by
  have start : Flow.Echoes [] [] x y ⟨.fresh, inbound, outbound.setLimit none, stats⟩
      ⟨.fresh, inbound, outbound'.setLimit none, stats⟩ :=
    ⟨rfl, .refl inbound, echoes.setLimit none, rfl⟩
  have first := start.run .clientToServer now
  have next : Flow.Echoes x y [] []
      ⟨.fresh, (pumps now stats inbound outbound).1.sink,
        (pumps now stats inbound outbound).1.source, (pumps now stats inbound outbound).1.stats⟩
      ⟨.fresh, (pumps now stats inbound outbound').1.sink,
        (pumps now stats inbound outbound').1.source,
        (pumps now stats inbound outbound').1.stats⟩ := ⟨rfl, first.sink, first.source, first.stats⟩
  exact ⟨first, next.run .serverToClient now⟩

end Relay

/-! ### Relays -/

/-- Two proxies that differ in the password of their credential only. -/
structure Proxy.DifferInPassword (c c' : Credential) (p p' : Proxy) : Prop where
  address : p'.address = p.address
  credential : p.credential = some c
  credential' : p'.credential = some c'
  username : c'.username = c.username
  connectTimeout : p'.connectTimeout = p.connectTimeout
  handshakeTimeout : p'.handshakeTimeout = p.handshakeTimeout

/-- The parts of a login up to the end of the user name, which do not show the password. -/
def Credential.introduction (c : Credential) : Bytes :=
  [1, UInt8.ofNat c.usernameBytes.length] ++ c.usernameBytes

/-- A login ends with the password and its length. -/
theorem loginBytes_eq (c : Credential) : Replies.loginBytes c =
    c.introduction ++ UInt8.ofNat c.passwordBytes.length :: c.passwordBytes := rfl

namespace Proxy.DifferInPassword

variable {c c' : Credential} {p p' : Proxy}

theorem introduction (differ : DifferInPassword c c' p p') : c'.introduction = c.introduction := by
  simp only [Credential.introduction, Credential.usernameBytes, differ.username]

theorem endpoint (differ : DifferInPassword c c' p p') : p'.endpoint = p.endpoint := by
  have parses := p'.parses
  rw [differ.address, p.parses] at parses
  exact (Except.ok.inj parses).symm

/-- What is shown of a proxy does not show the password. -/
theorem description (differ : DifferInPassword c c' p p') : p'.description = p.description := by
  have shown : c'.description = c.description := by
    unfold Credential.description
    rw [differ.username]
  unfold Proxy.description
  rw [differ.address, differ.credential, differ.credential', differ.connectTimeout,
    differ.handshakeTimeout]
  dsimp only
  rw [shown]

end Proxy.DifferInPassword

namespace Relay

/-- Two dials of one proxy that gave `outbound`. The same was done on both sockets, if there are
any, and the same was sent on them but for the login. -/
structure Dial.Conceals (c c' : Credential) (outbound : Except Fault Socket) (d d' : Dial) :
    Prop where
  endpoint : d'.endpoint = d.endpoint
  limit : d'.limit = d.limit
  socket : (d.socket = none ∧ d'.socket = none) ∨
    ∃ socket far said said', outbound = .ok socket ∧ d.socket = some far ∧
      far.sent = socket.sent ++ said ∧ d'.socket = some (far.resent (socket.sent ++ said')) ∧
      Relogged c c' socket.inflow.bytes said said'

section

variable {c c' : Credential} {p p' : Proxy}

/-- Two relays with two passwords go the same way, up to the login. -/
theorem run_conceals (target : Target) (differ : p.DifferInPassword c c' p') (now : Reading)
    (stats : Option Stats) (inbound : Socket) (outbound : Except Fault Socket) :
    (run target p' now stats inbound outbound).outcome =
        (run target p now stats inbound outbound).outcome ∧
      (run target p' now stats inbound outbound).inbound =
        (run target p now stats inbound outbound).inbound ∧
      (run target p' now stats inbound outbound).stats =
        (run target p now stats inbound outbound).stats ∧
      (run target p' now stats inbound outbound).log =
        (run target p now stats inbound outbound).log ∧
      Dial.Conceals c c' outbound (run target p now stats inbound outbound).dial
        (run target p' now stats inbound outbound).dial := by
  have endpoint := differ.endpoint
  rcases run_cases target p inbound outbound with
    ⟨cause, rfl, ran⟩ | ⟨socket, held, cause, rfl, rfl, ended, ran⟩ |
      ⟨socket, held, bound, rfl, rfl, ended, ran⟩
  · rw [ran]
    simp only [run, dialFailure, differ.address, endpoint, differ.connectTimeout, true_and]
    exact ⟨rfl, rfl, .inl ⟨rfl, rfl⟩⟩
  · obtain ⟨said, said', relogged, sent, held'⟩ := connect_conceals target differ.username
      (socket.setLimit p.handshakeTimeout)
    rw [differ.credential] at ended ran
    rw [ran]
    simp only [run, differ.credential', differ.handshakeTimeout, endpoint, differ.connectTimeout,
      held', ended, true_and]
    exact ⟨rfl, rfl, .inr ⟨socket, _, said, said', rfl, rfl, sent, rfl, relogged⟩⟩
  · obtain ⟨said, said', relogged, sent, held'⟩ := connect_conceals target differ.username
      (socket.setLimit p.handshakeTimeout)
    rw [differ.credential] at ended ran
    have echoes : Socket.Echoes (socket.sent ++ said) (socket.sent ++ said')
        ((connect target (some c)).run (socket.setLimit p.handshakeTimeout)).socket
        ((connect target (some c')).run (socket.setLimit p.handshakeTimeout)).socket := by
      refine ⟨[], by rw [List.append_nil]; exact sent, ?_⟩
      rw [held', List.append_nil]
      rfl
    obtain ⟨up, down⟩ := pumps_echo now stats inbound echoes
    have accepted : ((connect target p'.credential).run
        (socket.setLimit p'.handshakeTimeout)).outcome = .ok bound := by
      rw [differ.credential', differ.handshakeTimeout, held']
      exact ended
    rw [ran, report_of_accepted target p' now stats inbound rfl accepted]
    rw [differ.credential', differ.handshakeTimeout, endpoint, differ.connectTimeout]
    obtain ⟨more, grown, far⟩ := down.source.close
    refine ⟨by rw [up.pump, down.pump], down.sink.eq_of_nil, down.stats, by rw [held'], rfl, rfl,
      .inr ⟨socket, _, said ++ more, said' ++ more, rfl, rfl, ?_, ?_, relogged.append more⟩⟩
    · rw [grown, List.append_assoc]
    · rw [far, List.append_assoc]

end

end Relay

/-! ### Runs of the server -/

/-- Two reports on an entry that show the same, but for the logins on the sockets dialled for it. -/
structure EntryReport.Conceals (c c' : Credential) (entry : Entry) (report report' : EntryReport) :
    Prop where
  inbound : report'.inbound = report.inbound
  stats : report'.stats = report.stats
  log : report'.log = report.log
  dials : List.Forall₂ (fun d d' => ∃ incoming, entry.event = .accepted incoming ∧
    Dial.Conceals c c' incoming.outbound d d') report.dials report'.dials

/-- The reports of two runs on the first entries of a list conceal the password, entry by entry. -/
inductive Concealing (c c' : Credential) :
    List Entry → List EntryReport → List EntryReport → Prop where
  | done {entries : List Entry} : Concealing c c' entries [] []
  | next {entry : Entry} {entries : List Entry} {report report' : EntryReport}
      {reports reports' : List EntryReport} (here : report.Conceals c c' entry report')
      (after : Concealing c c' entries reports reports') :
      Concealing c c' (entry :: entries) (report :: reports) (report' :: reports')

section

variable {c c' : Credential} {p p' : Proxy} (target : Target)

theorem handle_conceals (differ : p.DifferInPassword c c' p') (now : Reading) (number : Nat)
    (stats : Stats) (incoming : Incoming) :
    ∃ dial, handle target p' now number stats incoming =
        { handle target p now number stats incoming with dial := dial } ∧
      Dial.Conceals c c' incoming.outbound (handle target p now number stats incoming).dial
        dial := by
  obtain ⟨outcome, inbound, stats', log, dial⟩ := run_conceals target differ now
    (some stats.started) incoming.inbound incoming.outbound
  refine ⟨_, ?_, dial⟩
  simp only [handle, outcome, inbound, stats', log]

/-- One turn of the loop conceals the password, and goes on in the same state. -/
theorem takeEntry_conceals (differ : p.DifferInPassword c c' p') (state : LoopState)
    (entry : Entry) :
    (takeEntry target p state entry).1.Conceals c c' entry (takeEntry target p' state entry).1 ∧
      (takeEntry target p' state entry).2 = (takeEntry target p state entry).2 := by
  obtain ⟨now, cause | incoming⟩ := entry
  · simp only [takeEntry]
    split
    · exact ⟨⟨rfl, rfl, rfl, .nil⟩, trivial⟩
    · exact ⟨⟨rfl, rfl, rfl, .nil⟩, trivial⟩
  · cases spawn : incoming.spawnFault with
    | some cause =>
        simp only [takeEntry, spawn]
        exact ⟨⟨rfl, rfl, rfl, .nil⟩, trivial⟩
    | none =>
        obtain ⟨dial, handled, conceals⟩ := handle_conceals target differ (now.getD state.now)
          state.nextNumber state.stats incoming
        simp only [takeEntry, spawn, handled]
        exact ⟨⟨rfl, rfl, rfl, .cons ⟨incoming, rfl, conceals⟩ .nil⟩, trivial⟩

theorem takeEntries_conceal (differ : p.DifferInPassword c c' p') (state : LoopState)
    (entries : List Entry) :
    (takeEntries target p' state entries).failure = (takeEntries target p state entries).failure ∧
      (takeEntries target p' state entries).lastLog =
        (takeEntries target p state entries).lastLog ∧
      Concealing c c' entries (takeEntries target p state entries).entries
        (takeEntries target p' state entries).entries := by
  induction entries generalizing state with
  | nil => exact ⟨rfl, rfl, .done⟩
  | cons entry rest ih =>
      obtain ⟨here, same⟩ := takeEntry_conceals target differ state entry
      rcases taken : takeEntry target p state entry with ⟨report, state', _ | failure⟩
      · rcases taken' : takeEntry target p' state entry with ⟨report', next⟩
        rw [taken, taken'] at here same
        cases same
        obtain ⟨failure, lastLog, others⟩ := ih state'
        rw [takeEntries, takeEntries, taken, taken']
        exact ⟨failure, lastLog, .next here others⟩
      · rcases taken' : takeEntry target p' state entry with ⟨report', next⟩
        rw [taken, taken'] at here same
        cases same
        rw [takeEntries, takeEntries, taken, taken']
        exact ⟨rfl, here.log, .done⟩

/-- Whatever is listened on, comes in and fails: two runs of a server whose proxies differ in the
password only have the same outcome, the same listener and the same records; entry by entry the
same is counted and done on the inbound socket, and the dials, what they show and all that is done
on what they open are the same, but for the login. That one frame is sent only to a proxy that has
selected the method for it, and agrees up to the end of the user name. What is shown of the two
proxies is the same as well. -/
theorem serve_conceals_password (listen : String) (differ : p.DifferInPassword c c' p')
    (around : Circumstances) :
    (serve listen target p' around).outcome = (serve listen target p around).outcome ∧
      (serve listen target p' around).listener = (serve listen target p around).listener ∧
      (serve listen target p' around).opening = (serve listen target p around).opening ∧
      (serve listen target p' around).ready = (serve listen target p around).ready ∧
      (serve listen target p' around).closing = (serve listen target p around).closing ∧
      Concealing c c' around.entries (serve listen target p around).entries
        (serve listen target p' around).entries ∧
      (Replies.loginBytes c =
          c.introduction ++ UInt8.ofNat c.passwordBytes.length :: c.passwordBytes ∧
        Replies.loginBytes c' =
          c.introduction ++ UInt8.ofNat c'.passwordBytes.length :: c'.passwordBytes) ∧
      p'.description = p.description := by
  obtain ⟨failure, lastLog, entries⟩ :=
    takeEntries_conceal target differ ⟨around.now, 1, around.stats⟩ around.entries
  have login := loginBytes_eq c'
  rw [differ.introduction] at login
  have common := And.intro (loginBytes_eq c) login
  cases parsed : HostPort.parse listen with
  | error e =>
      simp only [serve, parsed]
      exact ⟨trivial, trivial, trivial, trivial, trivial, .done, common, differ.description⟩
  | ok asked =>
      cases binds : around.binding.fault with
      | some cause =>
          simp only [serve, parsed, binds]
          exact ⟨trivial, trivial, trivial, trivial, trivial, .done, common, differ.description⟩
      | none =>
          cases listens : around.listenFault with
          | some cause =>
              simp only [serve, parsed, binds, listens]
              exact ⟨trivial, trivial, trivial, trivial, trivial, .done, common,
                differ.description⟩
          | none =>
              simp only [serve, parsed, binds, listens, failure, lastLog, listeningRecord,
                differ.address]
              exact ⟨trivial, trivial, trivial, trivial, trivial, entries, common,
                differ.description⟩

/-- Two credentials of one user. -/
def Credential.short : Credential := ⟨"user", "x", by decide, by decide⟩

def Credential.long : Credential := ⟨"user", "secret", by decide, by decide⟩

/-- A client whose proxy asks for a login, accepts it, and refuses the request. -/
def Entry.asked : Entry :=
  ⟨none, .accepted ⟨⟨"127.0.0.1", 50000, []⟩, .fresh [.data [1]] [] none,
    .ok (.fresh [.data [5, 2, 1, 0], .data [5, 5]] [] none), none⟩⟩

theorem serve_conceals_password_asked :
    Concealing .short .long [Entry.asked]
      (serve "localhost:1080" (.loopback 80) { Proxy.loopback with credential := some .short }
        { Circumstances.troubled with entries := [Entry.asked] }).entries
      (serve "localhost:1080" (.loopback 80) { Proxy.loopback with credential := some .long }
        { Circumstances.troubled with entries := [Entry.asked] }).entries := by
  have differ : Proxy.DifferInPassword .short .long
      { Proxy.loopback with credential := some .short }
      { Proxy.loopback with credential := some .long } := ⟨rfl, rfl, rfl, rfl, rfl, rfl⟩
  obtain ⟨-, -, -, -, -, entries, -⟩ := serve_conceals_password (.loopback 80) "localhost:1080"
    differ { Circumstances.troubled with entries := [Entry.asked] }
  exact entries

end

end SocksTunnel
