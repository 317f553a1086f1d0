import SocksTunnel.Proofs.Server.Floor
import SocksTunnel.Proofs.Server.Loop

/-!
The statistics of a run. Each handler of the server goes one of the ways that a session on the
floor can go, so what holds wherever the floor gets to holds of the server.

* `Floor.reaches_play` — the turns of the two pumps are steps of the floor, in whatever order.
* `relay_reaches`, `Takes.reaches` — the floor reaches what a relay leaves, and what a run of the
  loop leaves; all sessions have ended there, and all their chunks are counted.
* `statistics_conserved` — at every moment the counters show what the handlers have done; after a
  run no connection is active, and the bytes are those that were delivered.
-/

namespace SocksTunnel

open SocksTunnel.Text SocksTunnel.Relay SocksTunnel.Traffic SocksTunnel.Socks

section Handlers

variable (target : Target) (proxy : Proxy)

/-! ### A handler on the floor -/

/-- The turns of an exchange are steps of the session that it belongs to. -/
theorem Floor.reaches_play (now : Reading) (sessions : List Session) (incoming : Incoming)
    (schedule : List Direction) {x : Exchange} {s : Stats} (present : x.stats = some s) :
    ∃ s', (x.play now schedule).stats = some s' ∧
      Floor.Reaches target proxy ⟨sessions ++ [⟨incoming, some x.link, none⟩], s⟩
        ⟨sessions ++ [⟨incoming, some (x.play now schedule).link, none⟩], s'⟩ := by
  induction schedule generalizing x s with
  | nil => exact ⟨s, present, .refl⟩
  | cons direction rest ih =>
      obtain ⟨s', present'⟩ : ∃ s', (x.turn now direction).stats = some s' :=
        (x.flow direction).exists_stats_step direction now present
      obtain ⟨s'', present'', reaches⟩ := ih present'
      have turn : (⟨x.link, some s⟩ : Exchange).turn now direction =
          ⟨(x.turn now direction).link, some s'⟩ := by
        rw [← present, ← present']
      have step : Session.Step target proxy ⟨incoming, some x.link, none⟩ s
          ⟨incoming, some (x.turn now direction).link, none⟩ s' :=
        .turned rfl (.inl rfl) turn
      exact ⟨s'', present'', .head (.moved sessions [] step) reaches⟩

/-- Once both pumps have come to their ends the relay returns. -/
theorem Floor.reaches_returned (sessions : List Session) (incoming : Incoming) (s : Stats)
    {link : Link} (finished : link.Finished) :
    Floor.Reaches target proxy ⟨sessions ++ [⟨incoming, some link, none⟩], s⟩
      ⟨sessions ++ [⟨incoming, some link, some (outcomeOf link.up link.down)⟩],
        s.ended (isFailure (outcomeOf link.up link.down))⟩ := by
  have returned : Session.Step target proxy ⟨incoming, some link, none⟩ s
      ⟨incoming, some link, some (outcomeOf link.up link.down)⟩
      (s.ended (isFailure (outcomeOf link.up link.down))) :=
    .returned rfl rfl (finished .serverToClient) (fun _ => finished .clientToServer)
  exact .single (.moved sessions [] returned)

/-- A session that has come to its end with all chunks counted: those that were delivered on the
two sockets behind what was on them when the pumps began. -/
structure Session.Closed (incoming : Incoming) (far near : List Bytes) (s : Session) : Prop where
  owns : s.incoming = incoming
  ended : s.outcome.isSome
  counted : ∀ direction, s.uncounted target proxy direction = []
  up : s.delivered target proxy .clientToServer =
    far.drop (preface target proxy incoming.outbound).length
  down : s.delivered target proxy .serverToClient = near.drop incoming.inbound.sent.length

/-- A session that ended before its pumps began. -/
theorem Session.closed_of_unlinked (incoming : Incoming) (outcome : Except Failure Summary)
    {far : List Bytes} (nothing : far.length ≤ (preface target proxy incoming.outbound).length) :
    Session.Closed target proxy incoming far incoming.inbound.sent
      ⟨incoming, none, some outcome⟩ where
  owns := rfl
  ended := rfl
  counted := fun _ => rfl
  up := (List.drop_eq_nil_of_le nothing).symm
  down := (List.drop_eq_nil_of_le (Nat.le_refl _)).symm

/-- A session whose two pumps have come to their ends. -/
theorem Session.closed_of_finished (incoming : Incoming) (outcome : Except Failure Summary)
    {link : Link} (finished : link.Finished) :
    Session.Closed target proxy incoming link.outbound.sent link.inbound.sent
      ⟨incoming, some link, some outcome⟩ where
  owns := rfl
  ended := rfl
  counted := by
    intro direction
    simp [Session.uncounted, finished direction]
  up := rfl
  down := rfl

/-- What a relay does is what a session on the floor can do. -/
theorem relay_reaches (now : Reading) (sessions : List Session) (stats : Stats)
    (incoming : Incoming) {report : Report}
    (ran : Relay.run target proxy now (some stats) incoming.inbound incoming.outbound = report) :
    ∃ session s', report.stats = some s' ∧
      Floor.Reaches target proxy ⟨sessions ++ [⟨incoming, none, none⟩], stats⟩
        ⟨sessions ++ [session], s'.ended (isFailure report.outcome)⟩ ∧
      session.Closed target proxy incoming report.dial.sent report.inbound.sent := by
  rcases run_cases target proxy incoming.inbound incoming.outbound with
    ⟨cause, dialled, way⟩ | ⟨socket, held, cause, dialled, holds, failed, way⟩ |
      ⟨socket, held, bound, dialled, holds, accepted, way⟩
  · rw [way] at ran
    subst ran
    have failed : prepared target proxy incoming.outbound = .error (dialFailure proxy cause) := by
      rw [dialled]
      rfl
    refine ⟨_, stats, rfl, .single (.moved sessions [] (.refused rfl rfl failed)), ?_⟩
    apply Session.closed_of_unlinked
    exact Nat.zero_le _
  · rw [way] at ran
    subst ran
    have failed : prepared target proxy incoming.outbound = .error (handshakeFailure cause) := by
      rw [dialled, prepared]
      simp only [holds, failed]
    refine ⟨_, stats, rfl, .single (.moved sessions [] (.refused rfl rfl failed)), ?_⟩
    apply Session.closed_of_unlinked
    rw [dialled, preface, holds]
    exact Nat.le_refl _
  · rw [dialled, run_eq_report target proxy now (some stats) incoming.inbound holds accepted] at ran
    subst ran
    have ready : prepared target proxy incoming.outbound = .ok held.socket := by
      rw [dialled, prepared]
      simp only [holds, accepted]
    -- The order in which the relay lets its pumps run is one of the schedules.
    let start : Exchange := ⟨.opened incoming.inbound held.socket, some stats⟩
    have finished := start.finished_inSuccession now
    obtain ⟨schedule, played⟩ := start.exists_play_inSuccession now
    obtain ⟨s', present, pumped⟩ := Floor.reaches_play target proxy now sessions incoming schedule
      (x := start) rfl
    rw [played] at present pumped
    have opened : Session.Step target proxy ⟨incoming, none, none⟩ stats
        ⟨incoming, some start.link, none⟩ stats := .opened rfl rfl ready
    have returned := Floor.reaches_returned target proxy sessions incoming s' finished
    refine ⟨_, s', present, .head (.moved sessions [] opened) (pumped.trans returned), ?_⟩
    exact Session.closed_of_finished target proxy incoming _ finished

end Handlers

/-! ### Entries on the floor -/

theorem sent_giveUp (inbound : Socket) : (giveUp inbound).2.sent = inbound.sent := by
  rcases half : inbound.halfClose with ⟨fault, s⟩
  have sent : s.sent = inbound.sent := congrArg (fun r => r.2.sent) half.symm
  rw [giveUp, half]
  cases fault with
  | none => exact sent
  | some cause =>
      dsimp only
      split
      · exact sent
      · exact sent

section Entries

variable (target : Target) (proxy : Proxy)

/-- The chunks that the relay of an entry has delivered in a direction: those on the socket that the
report shows, behind what was on it before the pumps began. -/
def relayed (direction : Direction) (entry : Entry) (report : EntryReport) : List Bytes :=
  match entry.event with
  | .refused _ => []
  | .accepted incoming =>
      match direction with
      | .clientToServer =>
          (report.dials.flatMap Dial.sent).drop (preface target proxy incoming.outbound).length
      | .serverToClient =>
          (report.inbound.elim [] Socket.sent).drop incoming.inbound.sent.length

/-- Sessions that account for entries and the reports on them: one for each handler, ended, with
all bytes that were relayed delivered and counted. -/
structure Accounts (taken : List (Entry × EntryReport)) (sessions : List Session) : Prop where
  incoming : sessions.map Session.incoming = taken.filterMap fun t => t.1.started?
  ended : ∀ s ∈ sessions, s.outcome.isSome
  counted : ∀ s ∈ sessions, ∀ direction, s.uncounted target proxy direction = []
  delivered : ∀ direction,
    (sessions.map fun s => volume (s.delivered target proxy direction)).sum =
      (taken.map fun t => volume (relayed target proxy direction t.1 t.2)).sum

theorem accounts_nil : Accounts target proxy [] [] where
  incoming := rfl
  ended := by simp
  counted := by simp
  delivered := fun _ => rfl

/-- An entry without a handler relays nothing. -/
theorem accounts_of_unstarted {entry : Entry} {report : EntryReport}
    (unstarted : entry.started? = none)
    (nothing : ∀ direction, relayed target proxy direction entry report = []) :
    Accounts target proxy [(entry, report)] [] where
  incoming := by simp [unstarted]
  ended := by simp
  counted := by simp
  delivered := by simp [nothing]

variable {target proxy}

/-- A session that has ended accounts for the entry that it came from. -/
theorem accounts_of_closed {now : Option Reading} {incoming : Incoming} {report : EntryReport}
    {session : Session} {far near : List Bytes} (started : incoming.spawnFault = none)
    (closed : session.Closed target proxy incoming far near)
    (dials : report.dials.flatMap Dial.sent = far)
    (inbound : report.inbound.elim [] Socket.sent = near) :
    Accounts target proxy [(⟨now, .accepted incoming⟩, report)] [session] where
  incoming := by simp [Entry.started?, started, closed.owns]
  ended := by simpa using closed.ended
  counted := by simpa using closed.counted
  delivered := by
    intro direction
    cases direction with
    | clientToServer => simp [relayed, dials, closed.up]
    | serverToClient => simp [relayed, inbound, closed.down]

theorem Accounts.append {taken taken' : List (Entry × EntryReport)}
    {sessions sessions' : List Session}
    (first : Accounts target proxy taken sessions)
    (next : Accounts target proxy taken' sessions') :
    Accounts target proxy (taken ++ taken') (sessions ++ sessions') where
  incoming := by rw [List.map_append, List.filterMap_append, first.incoming, next.incoming]
  ended := by
    intro s there
    rcases List.mem_append.mp there with front | back
    · exact first.ended s front
    · exact next.ended s back
  counted := by
    intro s there
    rcases List.mem_append.mp there with front | back
    · exact first.counted s front
    · exact next.counted s back
  delivered := by
    intro direction
    rw [List.map_append, List.sum_append, List.map_append, List.sum_append, first.delivered,
      next.delivered]

variable (target proxy)

/-- What an entry does to the statistics is what its handler, if there is one, does on the floor. -/
theorem takeEntry_reaches (sessions : List Session) (state : LoopState) (entry : Entry) :
    ∃ more, Floor.Reaches target proxy ⟨sessions, state.stats⟩
        ⟨sessions ++ more, (takeEntry target proxy state entry).2.1.stats⟩ ∧
      Accounts target proxy [(entry, (takeEntry target proxy state entry).1)] more := by
  obtain ⟨now, cause | incoming⟩ := entry
  · refine ⟨[], ?_, accounts_of_unstarted target proxy rfl (fun _ => rfl)⟩
    rw [List.append_nil, takeEntry]
    dsimp only
    split <;> exact .refl
  · cases spawn : incoming.spawnFault with
    | some cause =>
        have unstarted : Entry.started? ⟨now, .accepted incoming⟩ = none := by
          simp [Entry.started?, spawn]
        refine ⟨[], ?_, accounts_of_unstarted target proxy unstarted ?_⟩
        · simp only [takeEntry, spawn, List.append_nil]
          exact .refl
        · intro direction
          cases direction <;> simp [relayed, takeEntry, spawn, sent_giveUp]
    | none =>
        obtain ⟨session, s', present, reaches, closed⟩ := relay_reaches target proxy
          (now.getD state.now) sessions state.stats.started incoming rfl
        refine ⟨[session], ?_, ?_⟩
        · simp only [takeEntry, spawn, handle, present, Option.getD_some]
          exact .head (.arrived _ incoming) reaches
        · apply accounts_of_closed spawn closed
          · simp only [takeEntry, spawn, handle, List.flatMap_singleton]
          · simp only [takeEntry, spawn, handle, Option.elim_some, sent_giveUp]

end Entries

/-! ### Runs on the floor -/

section Runs

variable {target : Target} {proxy : Proxy} {state last : LoopState} {entries : List Entry}
  {reports : List EntryReport}

theorem Takes.reaches (takes : Takes target proxy state entries reports last)
    (sessions : List Session) :
    ∃ more, Floor.Reaches target proxy ⟨sessions, state.stats⟩ ⟨sessions ++ more, last.stats⟩ ∧
      Accounts target proxy (entries.zip reports) more := by
  -- The sessions of the entries before stay on the floor, as they were left.
  induction takes generalizing sessions with
  | done =>
      refine ⟨[], ?_, accounts_nil target proxy⟩
      rw [List.append_nil]
  | @next state state' last entry report entries reports here after ih =>
      obtain ⟨first, step, accounts⟩ := takeEntry_reaches target proxy sessions state entry
      rw [here] at step accounts
      obtain ⟨others, steps, accounts'⟩ := ih (sessions ++ first)
      rw [List.append_assoc] at steps
      exact ⟨first ++ others, step.trans steps, accounts.append accounts'⟩

/-- The statistics that a run of the loop leaves are the last ones that it shows. -/
theorem Takes.shown (takes : Takes target proxy state entries reports last) :
    (state.stats :: reports.map EntryReport.stats).getLast? = some last.stats := by
  induction takes with
  | done => rfl
  | @next state state' last entry report entries reports here after ih =>
      obtain ⟨stats, -⟩ := state_takeEntry target proxy state entry
      rw [here] at stats
      rw [stats] at ih
      rw [List.map_cons, List.getLast?_cons_cons]
      exact ih

/-- Where all sessions have ended, with all chunks counted, the counters show just what the entries
have come to. -/
theorem Accounts.totals {taken : List (Entry × EntryReport)} {sessions : List Session}
    {final : Stats} (accounts : Accounts target proxy taken sessions)
    (conserved : Floor.Conserved target proxy ⟨sessions, final⟩) :
    final.active = 0 ∧ final.total = (taken.filterMap fun t => t.1.started?).length ∧
      final.sent = (taken.map fun t => volume (relayed target proxy .clientToServer t.1 t.2)).sum ∧
      final.received =
        (taken.map fun t => volume (relayed target proxy .serverToClient t.1 t.2)).sum := by
  have nobody : (sessions.countP fun s => s.outcome.isNone) = 0 := by
    rw [List.countP_eq_zero]
    intro s there working
    have ended := accounts.ended s there
    rw [Option.isNone_iff_eq_none.mp working] at ended
    cases ended
  have everybody : (sessions.countP fun s => s.outcome.isSome) = sessions.length :=
    List.countP_eq_length.mpr accounts.ended
  have number : sessions.length = (taken.filterMap fun t => t.1.started?).length := by
    rw [← accounts.incoming, List.length_map]
  have nothing (direction : Direction) :
      (sessions.map fun s => volume (s.uncounted target proxy direction)).sum = 0 := by
    apply List.sum_eq_zero
    intro n there
    obtain ⟨s, member, rfl⟩ := List.mem_map.mp there
    rw [accounts.counted s member]
    rfl
  have active := conserved.active
  have total := conserved.total
  have sent := conserved.sent
  have received := conserved.received
  rw [nobody] at active
  rw [everybody, number, active] at total
  rw [nothing, accounts.delivered, Int.sub_zero] at sent received
  exact ⟨active, total.trans (Int.zero_add _), sent, received⟩

end Runs

/-- A list has no more partners in a zip than the other list is long. -/
theorem zip_take_length {α β : Type} (as : List α) (bs : List β) :
    (as.take bs.length).zip bs = as.zip bs := by
  induction bs generalizing as with
  | nil => simp
  | cons b bs ih =>
      cases as with
      | nil => rfl
      | cons a as =>
          rw [List.length_cons, List.take_succ_cons, List.zip_cons_cons, List.zip_cons_cons, ih]

/-- Wherever the floor gets to from statistics that are empty, the active connections are the
handlers between their start and their end, all connections are these and those that have ended, the
failed ones are those whose relay has not returned, and the bytes in each direction are those of the
chunks delivered behind the handshake, less at most one chunk for each pump, which is sent and not
yet counted. A run of the server is one of the ways that the floor can go: when it ends no
connection is active, and the bytes are those of all chunks that were delivered. -/
theorem statistics_conserved (target : Target) (proxy : Proxy) (begun : Int) :
    (∀ floor, Floor.Reaches target proxy ⟨[], .empty begun⟩ floor →
      floor.Conserved target proxy) ∧
    ∀ listen c, c.stats = .empty begun → ∃ final sessions,
      ((serve listen target proxy c).shown c).getLast? = some final ∧
      Floor.Reaches target proxy ⟨[], .empty begun⟩ ⟨sessions, final⟩ ∧
      Accounts target proxy (c.entries.zip (serve listen target proxy c).entries) sessions ∧
      final.active = 0 ∧
      final.total = ((c.entries.zip (serve listen target proxy c).entries).filterMap fun t =>
        t.1.started?).length ∧
      final.sent = ((c.entries.zip (serve listen target proxy c).entries).map fun t =>
        volume (relayed target proxy .clientToServer t.1 t.2)).sum ∧
      final.received = ((c.entries.zip (serve listen target proxy c).entries).map fun t =>
        volume (relayed target proxy .serverToClient t.1 t.2)).sum := by
  have everywhere (floor : Floor) (reaches : Floor.Reaches target proxy ⟨[], .empty begun⟩ floor) :
      floor.Conserved target proxy := ((Floor.balanced_empty begun).reaches reaches).conserved
  refine ⟨everywhere, ?_⟩
  intro listen c fresh
  obtain ⟨last, takes⟩ := takes_serve target proxy listen c
  obtain ⟨sessions, reaches, accounts⟩ := takes.reaches []
  have shown := takes.shown
  rw [zip_take_length] at accounts
  simp only [fresh] at reaches
  exact ⟨last.stats, sessions, shown, reaches, accounts,
    accounts.totals (everywhere _ reaches)⟩

/-- A connection that the proxy does not take. -/
def Incoming.refused : Incoming where
  peer := ⟨"127.0.0.1", 50000, []⟩
  inbound := .fresh [] [] none
  outbound := .error ⟨.connectionRefused, none, "refused"⟩
  spawnFault := none

/-- Two handlers, after the dial of the first one has failed; and a server that has relayed a byte
after three failures, with the floor that it comes to. -/
theorem statistics_conserved_busy :
    Floor.Conserved (.loopback 80) .loopback
        ⟨[⟨.refused, none, some (.error (dialFailure .loopback ⟨.connectionRefused, none,
            "refused"⟩))⟩, ⟨.refused, none, none⟩],
          (Stats.empty 0).started.started.ended true⟩ ∧
      ∃ final sessions, ((serve "localhost:1080" (.loopback 80) .loopback .busy).shown
          .busy).getLast? = some final ∧
        Floor.Conserved (.loopback 80) .loopback ⟨sessions, final⟩ ∧
        final.active = 0 ∧ final.total = 2 ∧ final.sent = 1 := by
  obtain ⟨everywhere, runs⟩ := statistics_conserved (.loopback 80) .loopback 0
  constructor
  · apply everywhere
    have one : Floor.Reaches (.loopback 80) .loopback ⟨[], .empty 0⟩
        ⟨[⟨.refused, none, none⟩], (Stats.empty 0).started⟩ := .single (.arrived _ .refused)
    have two : Floor.Reaches (.loopback 80) .loopback ⟨[], .empty 0⟩
        ⟨[⟨.refused, none, none⟩, ⟨.refused, none, none⟩], (Stats.empty 0).started.started⟩ :=
      one.tail (.arrived _ .refused)
    exact two.tail (.moved [] _ (.refused rfl rfl rfl))
  · obtain ⟨final, sessions, shown, reaches, -, active, total, sent, -⟩ :=
      runs "localhost:1080" .busy rfl
    rw [Circumstances.entries_busy] at total sent
    refine ⟨final, sessions, shown, everywhere _ reaches, active, total.trans ?_, sent.trans ?_⟩
    · decide +kernel
    · decide +kernel

end SocksTunnel
