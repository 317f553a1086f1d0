import SocksTunnel.Proofs.Relay.Delivery
import SocksTunnel.Proofs.Server.Loop

/-!
Connections do not affect each other. What the accept loop carries from one entry to the next is
the clock, the number of the next connection and the statistics; of these a connection shows its
number, in the context of its records, and the counters, from which it goes on.

* `Relay.run_blind` — while the clock is finite, neither its reading nor the statistics have a part
  in how a relay goes; `Relay.run_grows` — and the counters grow by the same, whatever they were.
* `takeEntry_mirrors` — so an entry gives the same report in any two states, but for that.
* `Takes.of_getElem` — the state that an entry of a run is taken in.
* `serve_isolates` — each entry of a run gives the report that it gives alone.
-/

namespace SocksTunnel

open SocksTunnel.Text SocksTunnel.Log SocksTunnel.Relay SocksTunnel.Traffic SocksTunnel.Socks

/-! ### What a relay takes no notice of -/

namespace Relay

/-- Flows that differ in the statistics only. -/
structure Flow.Alike (f g : Flow) : Prop where
  pump : f.pump = g.pump
  source : f.source = g.source
  sink : f.sink = g.sink

section Blind

variable {now now' : Reading}

theorem Flow.Alike.run (direction : Direction) (finite : now.IsFinite) (finite' : now'.IsFinite)
    {f g : Flow} (alike : f.Alike g) :
    (f.run direction now).Alike (g.run direction now') := by
  obtain ⟨second, finite⟩ := Clock.second_of_isFinite finite
  obtain ⟨second', finite'⟩ := Clock.second_of_isFinite finite'
  obtain ⟨pump, source, sink⟩ := alike
  have bounds : f.bound = g.bound := by rw [bound, bound, pump, source]
  have start : f.lane = g.lane := by rw [lane, lane, pump, source, sink]
  have lanes : (f.steps direction now g.bound).lane = (g.steps direction now' g.bound).lane :=
    lane_steps finite finite' g.bound start
  obtain ⟨pump', inlet, outlet⟩ := Lane.mk.injEq .. ▸ lanes
  obtain ⟨upkeep, upkeep'⟩ := upkeep_steps direction now g.bound f
  obtain ⟨upkeep'', upkeep'''⟩ := upkeep_steps direction now' g.bound g
  rw [Flow.run, Flow.run, bounds]
  refine ⟨pump', Socket.eq_of_halves inlet ?_ ?_, Socket.eq_of_halves ?_ outlet ?_⟩
  · rw [outlet_steps_source, outlet_steps_source, source]
  · rw [upkeep, upkeep'', source]
  · rw [inlet_steps_sink, inlet_steps_sink, sink]
  · rw [upkeep', upkeep''', sink]

theorem pumps_blind (finite : now.IsFinite) (finite' : now'.IsFinite) (stats stats' : Option Stats)
    (inbound outbound : Socket) :
    (pumps now stats inbound outbound).1.Alike (pumps now' stats' inbound outbound).1 ∧
      (pumps now stats inbound outbound).2.Alike (pumps now' stats' inbound outbound).2 := by
  have start : Flow.Alike ⟨.fresh, inbound, outbound.setLimit none, stats⟩
      ⟨.fresh, inbound, outbound.setLimit none, stats'⟩ := ⟨rfl, rfl, rfl⟩
  have first := start.run .clientToServer finite finite'
  have next : Flow.Alike
      ⟨.fresh, (pumps now stats inbound outbound).1.sink,
        (pumps now stats inbound outbound).1.source, (pumps now stats inbound outbound).1.stats⟩
      ⟨.fresh, (pumps now' stats' inbound outbound).1.sink,
        (pumps now' stats' inbound outbound).1.source,
        (pumps now' stats' inbound outbound).1.stats⟩ := ⟨rfl, first.sink, first.source⟩
  exact ⟨first, next.run .serverToClient finite finite'⟩

variable (target : Target) (proxy : Proxy)

/-- A relay goes the same way, whatever a finite clock shows and whatever was counted before. -/
theorem run_blind (finite : now.IsFinite) (finite' : now'.IsFinite) (stats stats' : Option Stats)
    (inbound : Socket) (outbound : Except Fault Socket) :
    (run target proxy now stats inbound outbound).outcome =
        (run target proxy now' stats' inbound outbound).outcome ∧
      (run target proxy now stats inbound outbound).dial =
        (run target proxy now' stats' inbound outbound).dial ∧
      (run target proxy now stats inbound outbound).inbound =
        (run target proxy now' stats' inbound outbound).inbound ∧
      (run target proxy now stats inbound outbound).log =
        (run target proxy now' stats' inbound outbound).log := by
  rcases run_cases target proxy inbound outbound with
    ⟨cause, -, ran⟩ | ⟨socket, held, cause, -, -, -, ran⟩ | ⟨socket, held, bound, -, -, -, ran⟩
  · rw [ran, ran]
    exact ⟨rfl, rfl, rfl, rfl⟩
  · rw [ran, ran]
    exact ⟨rfl, rfl, rfl, rfl⟩
  · obtain ⟨up, down⟩ := pumps_blind finite finite' stats stats' inbound held.socket
    rw [ran, ran, up.pump, down.pump, down.source, down.sink]
    exact ⟨rfl, rfl, rfl, rfl⟩

/-- The counters grow by the same, whatever they show before. -/
theorem run_grows (finite : now.IsFinite) (finite' : now'.IsFinite) (s s' : Stats)
    (inbound : Socket) (outbound : Except Fault Socket) :
    ∃ t t', (run target proxy now (some s) inbound outbound).stats = some t ∧
      (run target proxy now' (some s') inbound outbound).stats = some t' ∧
      ∀ k, t.read k - s.read k = t'.read k - s'.read k := by
  obtain ⟨-, dial, near, -⟩ :=
    run_blind target proxy finite finite' (some s) (some s') inbound outbound
  obtain ⟨up, down, t, sent, received, present, grown⟩ :=
    run_counts target proxy now s inbound outbound
  obtain ⟨up', down', t', sent', received', present', grown'⟩ :=
    run_counts target proxy now' s' inbound outbound
  -- What both have delivered is the same, and each has counted just that.
  have sameUp : up = up' := List.append_cancel_left (sent.symm.trans (dial ▸ sent'))
  have sameDown : down = down' := List.append_cancel_left (received.symm.trans (near ▸ received'))
  refine ⟨t, t', present, present', ?_⟩
  intro k
  rw [grown, grown', sameUp, sameDown]
  omega

end Blind

end Relay

/-! ### Entries in two states -/

/-- A record with another number for its connection. -/
def Log.Record.renumbered (number : Nat) (r : Record) : Record :=
  { r with context := r.context.map fun c => { c with connection := number } }

/-- A report shows what another one shows, but that its records carry a number of their own, and
that its counters have grown by as much from where they were before. -/
structure EntryReport.Mirrors (number : Nat) (before' before : Stats) (report' report : EntryReport) :
    Prop where
  inbound : report'.inbound = report.inbound
  dials : report'.dials = report.dials
  log : report'.log = report.log.map (Record.renumbered number)
  counters : ∀ k, report'.stats.read k - before'.read k = report.stats.read k - before.read k

section Entries

variable (target : Target) (proxy : Proxy)

theorem handle_mirrors {now now' : Reading} (finite : now.IsFinite) (finite' : now'.IsFinite)
    (number number' : Nat) (stats stats' : Stats) (incoming : Incoming) :
    (handle target proxy now' number' stats' incoming).failure =
        (handle target proxy now number stats incoming).failure ∧
      (handle target proxy now' number' stats' incoming).inbound =
        (handle target proxy now number stats incoming).inbound ∧
      (handle target proxy now' number' stats' incoming).dial =
        (handle target proxy now number stats incoming).dial ∧
      (handle target proxy now' number' stats' incoming).log =
        (handle target proxy now number stats incoming).log.map (Record.renumbered number') ∧
      ∀ k, (handle target proxy now' number' stats' incoming).stats.read k - stats'.read k =
        (handle target proxy now number stats incoming).stats.read k - stats.read k := by
  obtain ⟨outcome, dial, near, log⟩ := run_blind target proxy finite' finite
    (some stats'.started) (some stats.started) incoming.inbound incoming.outbound
  obtain ⟨t', t, present', present, grown⟩ := run_grows target proxy finite' finite
    stats'.started stats.started incoming.inbound incoming.outbound
  simp only [handle, outcome, dial, near, log, present, present', Option.getD_some, true_and]
  constructor
  · rw [List.map_map]
    rfl
  · intro k
    have increment := grown k
    simp only [Stats.read_started] at increment
    rw [Stats.read_ended, Stats.read_ended]
    omega

/-- An entry gives the same report in any two states whose clocks are finite, and ends the loop in
both or in neither. -/
theorem takeEntry_mirrors (state state' : LoopState) (finite : state.now.IsFinite)
    (finite' : state'.now.IsFinite) {entry : Entry}
    (clocked : ∀ now, entry.now = some now → now.IsFinite) :
    EntryReport.Mirrors state'.nextNumber state'.stats state.stats
        (takeEntry target proxy state' entry).1 (takeEntry target proxy state entry).1 ∧
      (takeEntry target proxy state' entry).2.2 = (takeEntry target proxy state entry).2.2 := by
  obtain ⟨now, cause | incoming⟩ := entry
  · simp only [takeEntry]
    split
    · exact ⟨⟨rfl, rfl, rfl, by simp⟩, rfl⟩
    · exact ⟨⟨rfl, rfl, rfl, by simp⟩, rfl⟩
  · cases spawn : incoming.spawnFault with
    | some cause =>
        simp only [takeEntry, spawn, and_true]
        exact ⟨rfl, rfl, rfl, by simp⟩
    | none =>
        obtain ⟨failure, inbound, dial, log, counters⟩ := handle_mirrors target proxy
          (finite_getD finite clocked) (finite_getD finite' clocked) state.nextNumber
          state'.nextNumber state.stats state'.stats incoming
        simp only [takeEntry, spawn, and_true]
        refine ⟨?_, ?_, ?_, counters⟩
        · rw [inbound]
        · rw [dial]
        · rw [log, failure, List.map_append, List.map_map]
          rfl

end Entries

/-! ### Where an entry stands in a run -/

/-- The clock is finite at the start and whenever it moves. -/
structure Circumstances.Clocked (c : Circumstances) : Prop where
  start : c.now.IsFinite
  moves : ∀ entry ∈ c.entries, ∀ now, entry.now = some now → now.IsFinite

section Place

variable {target : Target} {proxy : Proxy}

/-- The state that an entry of a run is taken in has the statistics that are shown before it and a
clock that is finite, if the clock always is. -/
theorem Takes.of_getElem {state last : LoopState} {entries : List Entry}
    {reports : List EntryReport}
    (takes : Takes target proxy state entries reports last) (finite : state.now.IsFinite)
    (clocked : ∀ entry ∈ entries, ∀ now, entry.now = some now → now.IsFinite) {i : Nat}
    {entry : Entry} (there : entries[i]? = some entry) :
    ∃ before report after, takeEntry target proxy before entry = (report, after, none) ∧
      before.now.IsFinite ∧ reports[i]? = some report ∧
      (state.stats :: reports.map EntryReport.stats)[i]? = some before.stats := by
  obtain ⟨before, report, after, taken, listed, reached⟩ := takes.reached there
  exact ⟨before, report, after, taken, reached.finite finite clocked, listed, reached.shown⟩

end Place

/-! ### Runs of the server -/

/-- Let no accept and no half close of an inbound socket fail with anything but a fault of the
system, and let the clock be finite. Then each entry of a run gives the report that it gives when
it is served alone, wherever the clock and the counters start there: the same is done on its inbound
socket, it dials in the same way and does the same on what it gets, its records are the same, with
the number of a first connection, and all counters grow by the same. What the other entries are,
how they fail and how the clock moves makes no difference. -/
theorem serve_isolates (target : Target) (proxy : Proxy) {listen listen' : String}
    {c alone : Circumstances} (entered : c.Enters listen) (tame : ∀ entry ∈ c.entries, entry.Tame)
    (clocked : c.Clocked) {i : Nat} {entry : Entry} (there : c.entries[i]? = some entry)
    (entered' : alone.Enters listen') (lone : alone.entries = [entry])
    (finite : alone.now.IsFinite) :
    ∃ before report report', ((serve listen target proxy c).shown c)[i]? = some before ∧
      (serve listen target proxy c).entries[i]? = some report ∧
      (serve listen' target proxy alone).entries = [report'] ∧
      report'.Mirrors 1 alone.stats before report := by
  obtain ⟨last, takes⟩ := takes_of_tame target proxy tame ⟨c.now, 1, c.stats⟩
  obtain ⟨before, report, after, taken, finite', listed, shown⟩ :=
    takes.of_getElem clocked.start clocked.moves there
  have member : entry ∈ c.entries := List.mem_of_getElem? there
  obtain ⟨mirrors, ends⟩ := takeEntry_mirrors target proxy before ⟨alone.now, 1, alone.stats⟩
    finite' finite (clocked.moves entry member)
  obtain ⟨listener, address, served⟩ := serve_of_enters target proxy entered
  obtain ⟨listener', address', served'⟩ := serve_of_enters target proxy entered'
  rw [taken] at mirrors ends
  -- The run that serves the entry alone does not fail in it either.
  have only : (takeEntries target proxy ⟨alone.now, 1, alone.stats⟩ [entry]).entries =
      [(takeEntry target proxy ⟨alone.now, 1, alone.stats⟩ entry).1] := by
    rcases took : takeEntry target proxy ⟨alone.now, 1, alone.stats⟩ entry with
      ⟨report', state', _ | failure⟩
    · rw [takeEntries, took]
      rfl
    · rw [took] at ends
      cases ends
  refine ⟨before.stats, report, _, ?_, ?_, ?_, mirrors⟩
  · rw [served]
    exact shown
  · rw [served]
    exact listed
  · rw [served', lone]
    exact only

/-- A connection that works, after the failures of others. -/
theorem serve_isolates_working :
    ∃ before report report', ((serve "localhost:1080" (.loopback 80) .loopback .busy).shown
        .busy)[3]? = some before ∧
      (serve "localhost:1080" (.loopback 80) .loopback .busy).entries[3]? = some report ∧
      (serve "localhost:1080" (.loopback 80) .loopback
        { Circumstances.busy with entries := [Entry.working] }).entries = [report'] ∧
      report'.Mirrors 1 (.empty 0) before report := by
  have entered' : Circumstances.Enters "localhost:1080"
      { Circumstances.busy with entries := [Entry.working] } :=
    ⟨⟨_, Proxy.loopback.parses⟩, rfl, rfl⟩
  have tame : ∀ entry ∈ Circumstances.busy.entries, entry.Tame := by
    simp [Circumstances.busy, Circumstances.troubled, Entry.working, Incoming.working, Entry.Tame,
      Socket.fresh, Fault.isSystem, FaultKind.isSystem]
  have finite : Circumstances.busy.now.IsFinite := ⟨false, 0, 0, rfl⟩
  have clocked : Circumstances.busy.Clocked := by
    refine ⟨finite, ?_⟩
    simp [Circumstances.busy, Circumstances.troubled, Entry.working, Binary64.IsFinite]
  exact serve_isolates (.loopback 80) .loopback Circumstances.enters_busy tame clocked rfl entered'
    rfl finite

end SocksTunnel
