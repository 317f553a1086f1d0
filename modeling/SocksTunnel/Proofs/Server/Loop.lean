import Mathlib.Data.List.Forall2
import SocksTunnel.Proofs.Relay.Delivery
import SocksTunnel.Proofs.Size
import SocksTunnel.Server

/-!
The accept loop, entry by entry.

* `takeEntry_cases` — the four ways for one turn of the loop to go.
* `takes_takeEntries` — the loop takes its entries in order, each in the state that the one before
  it has left.
* `Takes.reached`, `reached_serve` — the state that an entry of a run is taken in.
* `errors_handled` — the records of errors that a handled connection leaves are just the one that
  its outcome calls for.
* `settled_of_tame`, `serve_survives` — where only an accept or a half close by the server could
  still end the loop, and neither does, every entry is taken, whatever its connection does; each
  inbound socket ends half closed and closed, once.
-/

namespace SocksTunnel

open SocksTunnel.Text SocksTunnel.Log SocksTunnel.Relay SocksTunnel.Traffic SocksTunnel.Socks

/-! ### Runs of the loop -/

/-- The loop is entered: the listening address parses and the socket is set up. -/
structure Circumstances.Enters (listen : String) (c : Circumstances) : Prop where
  parses : ∃ asked, HostPort.parse listen = .ok asked
  binds : c.binding.fault = none
  listens : c.listenFault = none

/-- The loop takes entries one after the other, each in the state that is left by the one before,
and reports on them. -/
inductive Takes (target : Target) (proxy : Proxy) :
    LoopState → List Entry → List EntryReport → LoopState → Prop where
  | done {state : LoopState} : Takes target proxy state [] [] state
  | next {state state' last : LoopState} {entry : Entry} {report : EntryReport}
      {entries : List Entry} {reports : List EntryReport}
      (here : takeEntry target proxy state entry = (report, state', none))
      (after : Takes target proxy state' entries reports last) :
      Takes target proxy state (entry :: entries) (report :: reports) last

/-- The statistics to be seen in a run: those at its start, and those after each entry. -/
def ServerReport.shown (c : Circumstances) (report : ServerReport) : List Stats :=
  c.stats :: report.entries.map EntryReport.stats

section Runs

variable (target : Target) (proxy : Proxy)

/-- There are four ways for a turn to go: an accept fails, with a fault of the system or with
another one, which ends the loop; a handler cannot be started, and the connection is given up; or
the connection is handled. -/
theorem takeEntry_cases (state : LoopState) (entry : Entry) :
    (∃ now cause, entry = ⟨now, .refused cause⟩ ∧ cause.isSystem = true ∧
      takeEntry target proxy state entry =
        (⟨none, [], state.stats, [refusalRecord cause]⟩,
          { state with now := now.getD state.now }, none)) ∨
    (∃ now cause, entry = ⟨now, .refused cause⟩ ∧ cause.isSystem = false ∧
      takeEntry target proxy state entry =
        (⟨none, [], state.stats, []⟩, { state with now := now.getD state.now },
          some (.fault cause))) ∨
    (∃ now incoming cause, entry = ⟨now, .accepted incoming⟩ ∧
      incoming.spawnFault = some cause ∧
      takeEntry target proxy state entry =
        (⟨some (giveUp incoming.inbound).2, [], state.stats,
            [unhandled incoming.peer (.fault cause)]⟩,
          { state with now := now.getD state.now },
          (giveUp incoming.inbound).1.map .fault)) ∨
    (∃ now incoming handled, entry = ⟨now, .accepted incoming⟩ ∧ incoming.spawnFault = none ∧
      handle target proxy (now.getD state.now) state.nextNumber state.stats incoming = handled ∧
      takeEntry target proxy state entry =
        (⟨some (giveUp handled.inbound).2, [handled.dial], handled.stats,
            handled.log ++ handled.failure.toList.map (unhandled incoming.peer)⟩,
          ⟨now.getD state.now, state.nextNumber + 1, handled.stats⟩, none)) := by
  obtain ⟨now, cause | incoming⟩ := entry
  · cases system : cause.isSystem with
    | true => exact .inl ⟨now, cause, rfl, system, by simp only [takeEntry, system, if_true]⟩
    | false =>
        refine .inr (.inl ⟨now, cause, rfl, system, ?_⟩)
        simp only [takeEntry, system, Bool.false_eq_true, if_false]
  · cases spawn : incoming.spawnFault with
    | some cause =>
        refine .inr (.inr (.inl ⟨now, incoming, cause, rfl, spawn, ?_⟩))
        simp only [takeEntry, spawn]
    | none =>
        refine .inr (.inr (.inr ⟨now, incoming, _, rfl, spawn, rfl, ?_⟩))
        simp only [takeEntry, spawn]

/-- What an entry leaves in the state: the statistics that its report shows, and the clock, moved
if the entry moves it. -/
theorem state_takeEntry (state : LoopState) (entry : Entry) :
    (takeEntry target proxy state entry).2.1.stats = (takeEntry target proxy state entry).1.stats ∧
      (takeEntry target proxy state entry).2.1.now = entry.now.getD state.now := by
  rcases takeEntry_cases target proxy state entry with ⟨now, cause, rfl, -, taken⟩ |
    ⟨now, cause, rfl, -, taken⟩ | ⟨now, incoming, cause, rfl, -, taken⟩ |
    ⟨now, incoming, handled, rfl, -, -, taken⟩
  all_goals
    rw [taken]
    exact ⟨rfl, rfl⟩

/-- Whatever the entries are, those that are reported on have been taken in order. -/
theorem takes_takeEntries (state : LoopState) (entries : List Entry) :
    ∃ last, Takes target proxy state
      (entries.take (takeEntries target proxy state entries).entries.length)
      (takeEntries target proxy state entries).entries last := by
  induction entries generalizing state with
  | nil => exact ⟨state, .done⟩
  | cons entry rest ih =>
      rw [takeEntries]
      rcases taken : takeEntry target proxy state entry with ⟨report, state', _ | failure⟩
      · obtain ⟨last, takes⟩ := ih state'
        exact ⟨last, .next taken takes⟩
      · exact ⟨state, .done⟩

/-- A server that enters its loop reports what the loop does. -/
theorem serve_of_enters {listen : String} {c : Circumstances} (entered : c.Enters listen) :
    ∃ listener address, serve listen target proxy c =
      { outcome := match (takeEntries target proxy ⟨c.now, 1, c.stats⟩ c.entries).failure.or
            (if c.interrupted then some .interrupted else none) with
          | some failure => .error failure
          | none => .ok ()
        listener := some listener
        opening := [listeningRecord address target proxy]
        ready := some address
        entries := (takeEntries target proxy ⟨c.now, 1, c.stats⟩ c.entries).entries
        closing := (takeEntries target proxy ⟨c.now, 1, c.stats⟩ c.entries).lastLog ++
          [closedRecord] } := by
  obtain ⟨⟨asked, parses⟩, binds, listens⟩ := entered
  refine ⟨⟨Family.ofHost asked.host, asked, some backlogSize, 1⟩, c.binding.name asked, ?_⟩
  obtain ⟨now, stats, ⟨fault, name⟩, listenFault, entries, interrupted⟩ := c
  cases binds
  cases listens
  rewrite [serve, parses]
  rfl

/-- Whether it enters its loop or not, a server reports on entries that were taken in order. -/
theorem takes_serve (listen : String) (c : Circumstances) :
    ∃ last, Takes target proxy ⟨c.now, 1, c.stats⟩
      (c.entries.take (serve listen target proxy c).entries.length)
      (serve listen target proxy c).entries last := by
  rw [serve]
  split
  · exact ⟨_, .done⟩
  · split
    · exact ⟨_, .done⟩
    · exact ⟨_, .done⟩
    · exact takes_takeEntries target proxy ⟨c.now, 1, c.stats⟩ c.entries

end Runs

/-! ### Where an entry stands in a run -/

/-- The connection of an entry, if a handler was started for it. -/
def Entry.started? (entry : Entry) : Option Incoming :=
  match entry.event with
  | .refused _ => none
  | .accepted incoming => if incoming.spawnFault.isNone then some incoming else none

/-- The handlers that are started for entries. -/
def startedIn (entries : List Entry) : List Incoming := entries.filterMap Entry.started?

/-- What the clock shows while the entry at `i` is taken: the last reading up to there. -/
def clockAt (now : Reading) (entries : List Entry) (i : Nat) : Reading :=
  ((entries.take (i + 1)).filterMap Entry.now).getLastD now

/-- A clock stays finite if it moves to finite readings only. -/
theorem finite_getD {now : Reading} (finite : now.IsFinite) {moved : Option Reading}
    (clocked : ∀ reading, moved = some reading → reading.IsFinite) :
    (moved.getD now).IsFinite := by
  cases moved with
  | none => exact finite
  | some reading => exact clocked reading rfl

/-- The state `before` in which the entry at `i` is taken, in a run from `state`: its number counts
the handlers that were started for the entries in front, its statistics are those that are shown
before the entry, and its clock shows the last reading in front of the entry. -/
structure Reached (state : LoopState) (entries : List Entry) (reports : List EntryReport) (i : Nat)
    (before : LoopState) : Prop where
  number : before.nextNumber = state.nextNumber + (startedIn (entries.take i)).length
  shown : (state.stats :: reports.map EntryReport.stats)[i]? = some before.stats
  clock : before.now = ((entries.take i).filterMap Entry.now).getLastD state.now

section Place

variable (target : Target) (proxy : Proxy)

/-- A number is used up just by an entry whose handler is started. -/
theorem nextNumber_takeEntry (state : LoopState) (entry : Entry) :
    (takeEntry target proxy state entry).2.1.nextNumber =
      state.nextNumber + entry.started?.toList.length := by
  rcases takeEntry_cases target proxy state entry with ⟨now, cause, rfl, -, taken⟩ |
    ⟨now, cause, rfl, -, taken⟩ | ⟨now, incoming, cause, rfl, spawn, taken⟩ |
    ⟨now, incoming, handled, rfl, spawn, -, taken⟩
  · rw [taken]
    rfl
  · rw [taken]
    rfl
  · simp [taken, Entry.started?, spawn]
  · simp [taken, Entry.started?, spawn]

variable {target proxy}

/-- Each entry of a run is taken in a state that is reached in it. -/
theorem Takes.reached {state last : LoopState} {entries : List Entry} {reports : List EntryReport}
    (takes : Takes target proxy state entries reports last) {i : Nat} {entry : Entry}
    (there : entries[i]? = some entry) :
    ∃ before report after, takeEntry target proxy before entry = (report, after, none) ∧
      reports[i]? = some report ∧ Reached state entries reports i before := by
  induction takes generalizing i with
  | done => cases there
  | @next state state' last first firstReport entries reports here after ih =>
      cases i with
      | zero =>
          cases there
          exact ⟨state, firstReport, state', here, rfl, rfl, rfl, rfl⟩
      | succ i =>
          have gone := nextNumber_takeEntry target proxy state first
          obtain ⟨stats, clock⟩ := state_takeEntry target proxy state first
          rw [here] at gone stats clock
          obtain ⟨before, report, later, taken, listed, number, shown, moved⟩ := ih there
          refine ⟨before, report, later, taken, listed, ?_, ?_, ?_⟩
          · rw [number, gone, List.take_succ_cons, startedIn, startedIn, List.filterMap_cons]
            cases first.started? with
            | none => rfl
            | some incoming => simp; omega
          · rw [stats] at shown
            exact shown
          · rw [moved, clock, List.take_succ_cons]
            cases moves : first.now with
            | none => rw [List.filterMap_cons_none moves, Option.getD_none]
            | some reading =>
                rw [List.filterMap_cons_some moves, List.getLastD_cons, Option.getD_some]

/-- An entry that a run of the server reports on is taken in a state that is reached in it. -/
theorem reached_serve {listen : String} {c : Circumstances} {i : Nat} {entry : Entry}
    {report : EntryReport} (there : c.entries[i]? = some entry)
    (shown : (serve listen target proxy c).entries[i]? = some report) :
    ∃ before, (takeEntry target proxy before entry).1 = report ∧
      Reached ⟨c.now, 1, c.stats⟩ c.entries (serve listen target proxy c).entries i before := by
  obtain ⟨last, takes⟩ := takes_serve target proxy listen c
  obtain ⟨within, -⟩ := List.getElem?_eq_some_iff.mp shown
  have there' : (c.entries.take (serve listen target proxy c).entries.length)[i]? = some entry := by
    rw [List.getElem?_take_of_lt within]
    exact there
  obtain ⟨before, report', after, taken, listed, place⟩ := takes.reached there'
  obtain rfl : report' = report := Option.some.inj (listed.symm.trans shown)
  obtain ⟨number, stats, clock⟩ := place
  rw [List.take_take, Nat.min_eq_left (Nat.le_of_lt within)] at number clock
  exact ⟨before, congrArg Prod.fst taken, number, stats, clock⟩

/-- The clock is finite there if it was so at the start and has moved to finite readings only. -/
theorem Reached.finite {state before : LoopState} {entries : List Entry}
    {reports : List EntryReport} {i : Nat} (reached : Reached state entries reports i before)
    (begun : state.now.IsFinite)
    (moves : ∀ entry ∈ entries, ∀ now, entry.now = some now → now.IsFinite) :
    before.now.IsFinite := by
  rw [reached.clock, List.getLastD_eq_getLast?]
  apply finite_getD begun
  intro reading last
  obtain ⟨entry, member, moved⟩ := List.mem_filterMap.mp (List.mem_of_getLast? last)
  exact moves entry (List.mem_of_mem_take member) reading moved

/-- An entry that moves the clock is taken at its own reading. -/
theorem Reached.clockAt_eq {state before : LoopState} {entries : List Entry}
    {reports : List EntryReport} {i : Nat} (reached : Reached state entries reports i before)
    {entry : Entry} (there : entries[i]? = some entry) :
    entry.now.getD before.now = clockAt state.now entries i := by
  rw [clockAt, List.take_add_one, there, Option.toList_some, List.filterMap_append,
    reached.clock]
  cases moves : entry.now with
  | none => simp [moves]
  | some reading => simp [moves]

end Place

/-! ### What a handler does on its socket -/

section Runs

variable (target : Target) (proxy : Proxy)

/-- A relay leaves the inbound socket open. -/
theorem Relay.used_run (now : Reading) (stats : Option Stats) (inbound : Socket)
    (outbound : Except Fault Socket) :
    inbound.Used (Relay.run target proxy now stats inbound outbound).inbound := by
  rcases run_cases target proxy inbound outbound with
    ⟨cause, rfl, ran⟩ | ⟨socket, held, cause, rfl, -, -, ran⟩ |
      ⟨socket, held, bound, rfl, -, -, ran⟩
  · rw [ran]
    exact .refl inbound
  · rw [ran]
    exact .refl inbound
  · rw [ran]
    obtain ⟨read, -⟩ := Flow.used_steps .clientToServer now _
      ⟨.fresh, inbound, held.socket.setLimit none, stats⟩
    obtain ⟨-, written⟩ := Flow.used_steps .serverToClient now _ _
    exact read.trans written

/-- The server gives a connection up by a half close and a close, if nothing but a fault of the
system comes of the half close. -/
theorem giveUp_of_system {inbound : Socket}
    (system : ∀ cause, inbound.closeFault = some cause → cause.isSystem = true) :
    giveUp inbound = (none, inbound.calls [.halfClose, .close]) := by
  cases fault : inbound.closeFault with
  | none =>
      have half : inbound.halfClose = (none, inbound.call .halfClose) := Prod.ext fault rfl
      rw [giveUp, half]
      rfl
  | some cause =>
      have half : inbound.halfClose = (some cause, inbound.call .halfClose) := Prod.ext fault rfl
      rw [giveUp, half]
      simp only [system cause fault, if_true]
      rfl

end Runs

/-! ### Records of errors -/

/-- The records of errors among records. -/
def errorsOf (log : List Record) : List Record := log.filter fun r => r.level = .error

theorem errorsOf_append (log log' : List Record) :
    errorsOf (log ++ log') = errorsOf log ++ errorsOf log' := List.filter_append ..

theorem errorsOf_map_within (context : Context) (log : List Record) :
    errorsOf (log.map (Record.within context)) = (errorsOf log).map (Record.within context) := by
  rw [errorsOf, List.filter_map]
  rfl

/-- A relay that has finished is told of with the bytes that went each way, unless there are too
many of them. -/
theorem finishedText_cases (summary : Summary) :
    ((summary.sent < Size.limit ∧ summary.received < Size.limit) ∧ ∃ sent received,
      Size.Tells summary.sent sent ∧ Size.Tells summary.received received ∧
      finishedText summary =
        .ok ("Relay finished: " ++ sent ++ " sent, " ++ received ++ " received")) ∨
    (¬(summary.sent < Size.limit ∧ summary.received < Size.limit) ∧
      finishedText summary = .error .quotient) := by
  rw [finishedText]
  rcases Size.ofInt_cases summary.sent with ⟨few, sent, told⟩ | ⟨many, unwritten⟩
  · rcases Size.ofInt_cases summary.received with ⟨few', received, told'⟩ | ⟨many, unwritten⟩
    · rw [told, told']
      exact .inl ⟨⟨few, few'⟩, sent, received, Size.tells_ofInt told, Size.tells_ofInt told', rfl⟩
    · rw [told, unwritten]
      exact .inr ⟨fun both => absurd both.2 (not_lt.mpr many), rfl⟩
  · rw [unwritten]
    exact .inr ⟨fun both => absurd both.1 (not_lt.mpr many), rfl⟩

/-- The record of an error that the outcome of a relay calls for. There is none for a success, but
if its bytes are too many to be written. A failure of the relay is named as such, in the context of
the connection; any other one is recorded as not expected. -/
def complaint (number : Nat) (peer : Peer) : Except Failure Summary → List Record
  | .ok summary =>
      if summary.sent < Size.limit ∧ summary.received < Size.limit then []
      else [⟨.error, none, "Unhandled error for connection from " ++ peer.parts,
        some (.magnitude .quotient)⟩]
  | .error failure =>
      if failure.isOf .relay then
        [⟨.error, some ⟨number, peer.text⟩,
          "Relay for " ++ peer.text ++ " failed: " ++ failure.message, none⟩]
      else [⟨.error, none, "Unhandled error for connection from " ++ peer.parts, some failure⟩]

section Errors

variable (target : Target) (proxy : Proxy)

/-- The relay itself records no errors. -/
theorem Relay.errorsOf_run (now : Reading) (stats : Option Stats) (inbound : Socket)
    (outbound : Except Fault Socket) :
    errorsOf (Relay.run target proxy now stats inbound outbound).log = [] := by
  have notes (messages : List String) : errorsOf (messages.map Record.debug) = [] := by
    simp [errorsOf, Record.debug]
  rcases run_cases target proxy inbound outbound with
    ⟨cause, -, ran⟩ | ⟨socket, held, cause, -, -, -, ran⟩ | ⟨socket, held, bound, -, -, -, ran⟩
  · rw [ran]
    rfl
  · rw [ran]
    exact notes held.notes
  · rw [ran, errorsOf_append, notes held.notes]
    rfl

/-- The records of errors of a handled connection are those that its outcome calls for. -/
theorem errors_handled (now : Reading) (number : Nat) (stats : Stats) (incoming : Incoming) :
    errorsOf ((handle target proxy now number stats incoming).log ++
        (handle target proxy now number stats incoming).failure.toList.map
          (unhandled incoming.peer)) =
      complaint number incoming.peer (Relay.run target proxy now (some stats.started)
        incoming.inbound incoming.outbound).outcome := by
  have quiet := Relay.errorsOf_run target proxy now (some stats.started) incoming.inbound
    incoming.outbound
  have arrival : errorsOf [arrivalRecord incoming.peer.text] = [] := rfl
  simp only [handle]
  rw [errorsOf_append, errorsOf_map_within, ← List.singleton_append, errorsOf_append,
    errorsOf_append, quiet, arrival]
  cases (Relay.run target proxy now (some stats.started) incoming.inbound
    incoming.outbound).outcome with
  | ok summary =>
      rw [conclude, complaint]
      rcases finishedText_cases summary with ⟨few, sent, received, -, -, told⟩ | ⟨many, unwritten⟩
      · rw [told, if_pos few]
        rfl
      · rw [unwritten, if_neg many]
        rfl
  | error failure =>
      rw [conclude, complaint]
      by_cases named : failure.isOf .relay = true
      · rw [if_pos named, if_pos named]
        rfl
      · rw [if_neg named, if_neg named]
        rfl

end Errors

/-! ### Every entry is settled -/

/-- Nothing in an entry can end the loop: an accept that fails, and a half close of the inbound
socket that fails, fail with a fault of the system. -/
def Entry.Tame (entry : Entry) : Prop :=
  match entry.event with
  | .refused cause => cause.isSystem = true
  | .accepted incoming =>
      ∀ cause, incoming.inbound.closeFault = some cause → cause.isSystem = true

/-- How an entry shows in its report. An accept that failed gives the record of that. A connection
whose handler could not be started is half closed and closed, and recorded. A handler calls its
socket as its relay does, and leaves the record that the outcome calls for; the half close and the
close by the server come after all of that. -/
inductive Settled (target : Target) (proxy : Proxy) : Entry → EntryReport → Prop where
  | refused {now : Option Reading} {cause : Fault} {stats : Stats} :
      Settled target proxy ⟨now, .refused cause⟩
        ⟨none, [], stats,
          [⟨.error, none, "Receiving incoming connection in failure: " ++ cause.message, none⟩]⟩
  | unstarted {now : Option Reading} {incoming : Incoming} {cause : Fault} {stats : Stats}
      (failed : incoming.spawnFault = some cause) :
      Settled target proxy ⟨now, .accepted incoming⟩
        ⟨some (incoming.inbound.calls [.halfClose, .close]), [], stats,
          [⟨.error, none, "Unhandled error for connection from " ++ incoming.peer.parts,
            some (.fault cause)⟩]⟩
  | handled {now : Option Reading} {incoming : Incoming} {clock : Reading} {number : Nat}
      {before stats : Stats} {log : List Record} {work : List Socket.Call} {relay : Report}
      (started : incoming.spawnFault = none)
      (ran : Relay.run target proxy clock (some before) incoming.inbound incoming.outbound = relay)
      (leftOpen : Socket.Call.close ∉ work) (worked : relay.inbound = incoming.inbound.calls work)
      (errors : errorsOf log = complaint number incoming.peer relay.outcome) :
      Settled target proxy ⟨now, .accepted incoming⟩
        ⟨some (incoming.inbound.calls (work ++ [.halfClose, .close])), [relay.dial], stats, log⟩

section Loop

variable (target : Target) (proxy : Proxy)

/-- A tame entry is settled, and the loop goes on. -/
theorem settled_of_tame {entry : Entry} (tame : entry.Tame) (state : LoopState) :
    ∃ report state', takeEntry target proxy state entry = (report, state', none) ∧
      Settled target proxy entry report := by
  rcases takeEntry_cases target proxy state entry with ⟨now, cause, rfl, -, taken⟩ |
    ⟨now, cause, rfl, other, -⟩ | ⟨now, incoming, cause, rfl, spawn, taken⟩ |
    ⟨now, incoming, handled, rfl, spawn, ran, taken⟩
  · exact ⟨_, _, taken, .refused⟩
  · have system : cause.isSystem = true := tame
    rw [other] at system
    cases system
  · have system : ∀ cause, incoming.inbound.closeFault = some cause → cause.isSystem = true := tame
    rw [giveUp_of_system system] at taken
    exact ⟨_, _, taken, .unstarted spawn⟩
  · have system : ∀ cause, incoming.inbound.closeFault = some cause → cause.isSystem = true := tame
    obtain ⟨work, leftOpen, worked⟩ := Relay.used_run target proxy (now.getD state.now)
      (some state.stats.started) incoming.inbound incoming.outbound
    have final : giveUp handled.inbound =
        (none, incoming.inbound.calls (work ++ [.halfClose, .close])) := by
      rw [← ran, Socket.calls_append, ← worked]
      apply giveUp_of_system
      intro cause fault
      apply system cause
      rw [← Socket.Used.closeFault ⟨work, leftOpen, worked⟩]
      exact fault
    have errors := errors_handled target proxy (now.getD state.now) state.nextNumber state.stats
      incoming
    rw [ran] at errors
    rw [final] at taken
    subst ran
    exact ⟨_, _, taken, .handled spawn rfl leftOpen worked errors⟩

/-- The loop takes tame entries to the last one. -/
theorem takeEntries_of_tame {entries : List Entry} (tame : ∀ entry ∈ entries, entry.Tame)
    (state : LoopState) :
    (takeEntries target proxy state entries).failure = none ∧
      (takeEntries target proxy state entries).lastLog = [] ∧
      List.Forall₂ (Settled target proxy) entries
        (takeEntries target proxy state entries).entries := by
  induction entries generalizing state with
  | nil => exact ⟨rfl, rfl, .nil⟩
  | cons entry rest ih =>
      obtain ⟨head, tail⟩ := List.forall_mem_cons.mp tame
      obtain ⟨report, state', taken, settled⟩ := settled_of_tame target proxy head state
      obtain ⟨goesOn, silent, others⟩ := ih tail state'
      rw [takeEntries, taken]
      exact ⟨goesOn, silent, .cons settled others⟩

/-- The loop comes to an entry if no entry in front of it can end the loop, and reports on it if it
does not end the loop itself. -/
theorem lt_length_of_tame {entries : List Entry} {i : Nat} {entry : Entry}
    (there : entries[i]? = some entry) (tame : ∀ earlier ∈ entries.take i, earlier.Tame)
    (goesOn : ∀ state, (takeEntry target proxy state entry).2.2 = none) (state : LoopState) :
    i < (takeEntries target proxy state entries).entries.length := by
  induction entries generalizing i state with
  | nil => cases there
  | cons first rest ih =>
      cases i with
      | zero =>
          cases there
          have goes := goesOn state
          rw [takeEntries]
          rcases taken : takeEntry target proxy state entry with ⟨report, state', _ | failure⟩
          · exact Nat.zero_lt_succ _
          · rw [taken] at goes
            cases goes
      | succ i =>
          rw [List.take_succ_cons] at tame
          obtain ⟨here, later⟩ := List.forall_mem_cons.mp tame
          obtain ⟨report, state', taken, -⟩ := settled_of_tame target proxy here state
          rw [takeEntries, taken]
          exact Nat.succ_lt_succ (ih there later state')

/-- The server reports on a connection whose handler is started, if no entry in front of it can end
the loop. -/
theorem listed_of_started {listen : String} {c : Circumstances} (entered : c.Enters listen)
    {i : Nat} {now : Option Reading} {incoming : Incoming}
    (there : c.entries[i]? = some ⟨now, .accepted incoming⟩)
    (tame : ∀ earlier ∈ c.entries.take i, earlier.Tame) (started : incoming.spawnFault = none) :
    ∃ report, (serve listen target proxy c).entries[i]? = some report := by
  have goesOn (state : LoopState) :
      (takeEntry target proxy state ⟨now, .accepted incoming⟩).2.2 = none := by
    simp only [takeEntry, started]
  obtain ⟨listener, address, served⟩ := serve_of_enters target proxy entered
  rw [served]
  exact ⟨_, List.getElem?_eq_getElem
    (lt_length_of_tame target proxy there tame goesOn ⟨c.now, 1, c.stats⟩)⟩

theorem takes_of_tame {entries : List Entry} (tame : ∀ entry ∈ entries, entry.Tame)
    (state : LoopState) :
    ∃ last, Takes target proxy state entries (takeEntries target proxy state entries).entries
      last := by
  obtain ⟨-, -, settled⟩ := takeEntries_of_tame target proxy tame state
  obtain ⟨last, takes⟩ := takes_takeEntries target proxy state entries
  rw [← settled.length_eq, List.take_length] at takes
  exact ⟨last, takes⟩

end Loop

/-- Let the loop be entered, and let no accept and no half close of an inbound socket fail with
anything but a fault of the system. Then whatever the connections do, every entry is taken, in
order, in the state that the one before it has left, and settled: each accept that failed is
recorded once, each connection is closed once, after a half close that follows all that its handler
did, and its records of errors are the one that its outcome calls for. The loop ends after the last
entry, and the server returns, unless it is interrupted then. -/
theorem serve_survives (target : Target) (proxy : Proxy) {listen : String} {c : Circumstances}
    (entered : c.Enters listen) (tame : ∀ entry ∈ c.entries, entry.Tame) :
    (∃ last, Takes target proxy ⟨c.now, 1, c.stats⟩ c.entries
      (serve listen target proxy c).entries last) ∧
    List.Forall₂ (Settled target proxy) c.entries (serve listen target proxy c).entries ∧
    errorsOf (serve listen target proxy c).opening = [] ∧
    (serve listen target proxy c).closing = [⟨.info, none, "Listener closed", none⟩] ∧
    (serve listen target proxy c).outcome =
      if c.interrupted then .error .interrupted else .ok () := by
  obtain ⟨goesOn, silent, settled⟩ :=
    takeEntries_of_tame target proxy tame ⟨c.now, 1, c.stats⟩
  obtain ⟨listener, address, served⟩ := serve_of_enters target proxy entered
  rw [served]
  refine ⟨takes_of_tame target proxy tame ⟨c.now, 1, c.stats⟩, settled, rfl, ?_, ?_⟩
  · rw [silent]
    rfl
  · rw [goesOn]
    cases c.interrupted <;> rfl

/-- A server with one connection. -/
def Circumstances.only (incoming : Incoming) : Circumstances where
  now := .finite false 0 0
  stats := .empty 0
  binding := .usual none
  listenFault := none
  entries := [⟨none, .accepted incoming⟩]
  interrupted := false

theorem Circumstances.enters_only (incoming : Incoming) :
    (Circumstances.only incoming).Enters "localhost:1080" :=
  ⟨⟨_, Proxy.loopback.parses⟩, rfl, rfl⟩

/-- A server that meets an accept that fails, a dial that fails as nothing expects it to, and a
handler that cannot be started, on a socket that cannot be half closed either. -/
def Circumstances.troubled : Circumstances where
  now := .finite false 0 0
  stats := .empty 0
  binding := .usual none
  listenFault := none
  entries :=
    [⟨none, .refused ⟨.connectionAborted, none, "aborted"⟩⟩,
      ⟨none, .accepted ⟨⟨"127.0.0.1", 50000, []⟩, .fresh [] [] none,
        .error ⟨.encoding, none, "label too long"⟩, none⟩⟩,
      ⟨none, .accepted ⟨⟨"127.0.0.1", 50001, []⟩,
        .fresh [] [] (some ⟨.brokenPipe, none, "gone"⟩), .error ⟨.system, none, "unused"⟩,
        some ⟨.exhausted, none, "no more threads"⟩⟩⟩]
  interrupted := false

theorem serve_survives_troubled :
    List.Forall₂ (Settled (.loopback 80) .loopback) Circumstances.troubled.entries
        (serve "localhost:1080" (.loopback 80) .loopback .troubled).entries ∧
      (serve "localhost:1080" (.loopback 80) .loopback .troubled).outcome = .ok () := by
  have entered : Circumstances.troubled.Enters "localhost:1080" :=
    ⟨⟨_, Proxy.loopback.parses⟩, rfl, rfl⟩
  have tame : ∀ entry ∈ Circumstances.troubled.entries, entry.Tame := by
    simp [Circumstances.troubled, Entry.Tame, Socket.fresh, Fault.isSystem, FaultKind.isSystem]
  obtain ⟨-, settled, -, -, outcome⟩ := serve_survives (.loopback 80) .loopback entered tame
  exact ⟨settled, outcome⟩

/-- A connection that works, with one byte for the target. -/
def Incoming.working : Incoming where
  peer := ⟨"127.0.0.1", 50001, []⟩
  inbound := .fresh [.data [1]] [] none
  outbound := .ok (.fresh [.data [5, 0, 5, 0, 0, 1, 127, 0, 0, 1, 0, 80]] [] none)
  spawnFault := none

/-- It comes some time after the last one. -/
def Entry.working : Entry := ⟨some (.finite false 1 3), .accepted .working⟩

/-- A server in which it follows three failures. -/
def Circumstances.busy : Circumstances :=
  { Circumstances.troubled with entries := Circumstances.troubled.entries ++ [Entry.working] }

theorem Circumstances.enters_busy : Circumstances.busy.Enters "localhost:1080" :=
  ⟨⟨_, Proxy.loopback.parses⟩, rfl, rfl⟩

/-- What the server reports is what its loop does; no listening address has to be read for that. -/
theorem Circumstances.entries_busy :
    (serve "localhost:1080" (.loopback 80) .loopback .busy).entries =
      (takeEntries (.loopback 80) .loopback ⟨Circumstances.busy.now, 1, Circumstances.busy.stats⟩
        Circumstances.busy.entries).entries := by
  obtain ⟨listener, address, served⟩ :=
    serve_of_enters (.loopback 80) .loopback Circumstances.enters_busy
  rw [served]

end SocksTunnel
