import Mathlib.Data.List.Perm.Basic
import SocksTunnel.Proofs.Relay.Lane
import SocksTunnel.Proofs.Relay.Transparent

/-!
The two pumps of a relay at work at the same time: they share both sockets and the statistics, and
take their steps in turns, in any order.

* `Exchange.lane_play` — at every moment each pump is where it would be had it worked alone.
* `Exchange.turn_comm`, `Exchange.play_eq_of_perm` — turns of the two directions can change places,
  so an order of turns counts only by how many of them each direction has.
* `relay_blind_to_schedule` — every complete interleaving ends where the relay that lets one pump
  run after the other ends.
-/

namespace SocksTunnel

open SocksTunnel.Text SocksTunnel.Socks SocksTunnel.Traffic

namespace Traffic

/-- Bytes that are added at the same second twice are added up. -/
theorem History.add_add (bytes bytes' second : Int) (h : History) :
    (h.add bytes second).add bytes' second = h.add (bytes + bytes') second := by
  cases h with
  | nil => simp [History.add]
  | cons newest older =>
      by_cases here : newest.second = second
      · simp [History.add, here, Int.add_assoc]
      · simp [History.add, here, History.capacity]

theorem Stats.countAt_comm (sent received sent' received' second : Int) (s : Stats) :
    (s.countAt sent received second).countAt sent' received' second =
      (s.countAt sent' received' second).countAt sent received second := by
  simp [Stats.countAt, History.add_add, Int.add_comm, Int.add_left_comm]

end Traffic

namespace Relay

theorem Stage.tally_comm (direction direction' : Direction) (second : Int) (stage stage' : Stage)
    (s : Stats) :
    stage'.tally direction' second (stage.tally direction second s) =
      stage.tally direction second (stage'.tally direction' second s) := by
  cases stage <;> cases stage' <;> simp only [Stage.tally, id, Stats.countAt_comm]

/-! ### Two pumps on two sockets -/

def Direction.other : Direction → Direction
  | .clientToServer => .serverToClient
  | .serverToClient => .clientToServer

@[simp] theorem Direction.other_other (direction : Direction) :
    direction.other.other = direction := by
  cases direction <;> rfl

theorem Direction.eq_or_eq_other (direction direction' : Direction) :
    direction' = direction ∨ direction' = direction.other := by
  cases direction <;> cases direction' <;> simp [Direction.other]

/-- The two pumps of a relay and the sockets that they work between. -/
structure Link where
  up : Pump
  down : Pump
  inbound : Socket
  outbound : Socket

namespace Link

variable {direction : Direction}

/-- The link after a handshake that has left the proxy at `outbound`. -/
def opened (inbound outbound : Socket) : Link := ⟨.fresh, .fresh, inbound, outbound.setLimit none⟩

def pump (l : Link) : Direction → Pump
  | .clientToServer => l.up
  | .serverToClient => l.down

/-- The socket that a direction reads from. -/
def source (l : Link) : Direction → Socket
  | .clientToServer => l.inbound
  | .serverToClient => l.outbound

/-- The socket that a direction sends to. -/
def sink (l : Link) : Direction → Socket
  | .clientToServer => l.outbound
  | .serverToClient => l.inbound

/-- One direction of a link, with statistics. -/
def flow (l : Link) (stats : Option Stats) (direction : Direction) : Flow :=
  ⟨l.pump direction, l.source direction, l.sink direction, stats⟩

/-- A link after its flow in a direction has come to `f`. -/
def put (l : Link) (f : Flow) : Direction → Link
  | .clientToServer => ⟨f.pump, l.down, f.source, f.sink⟩
  | .serverToClient => ⟨l.up, f.pump, f.sink, f.source⟩

theorem flow_put (l : Link) (f : Flow) : (l.put f direction).flow f.stats direction = f := by
  cases direction <;> rfl

theorem put_put (l : Link) (f g : Flow) :
    (l.put f direction).put g direction = l.put g direction := by
  cases direction <;> rfl

theorem put_flow (l : Link) (stats : Option Stats) :
    l.put (l.flow stats direction) direction = l := by
  cases direction <;> rfl

/-- Both pumps have come to their end. -/
def Finished (l : Link) : Prop := ∀ direction, (l.pump direction).stage = .finished

/-- Links with the same lanes, and sockets on which the same else was done, are the same. -/
theorem eq_of_lanes {l m : Link} (stats stats' : Option Stats)
    (lanes : ∀ direction, (l.flow stats direction).lane = (m.flow stats' direction).lane)
    (upkeep : ∀ direction, (l.source direction).upkeep = (m.source direction).upkeep) : l = m := by
  obtain ⟨up, inlet, outlet⟩ := Flow.Lane.mk.injEq .. ▸ lanes .clientToServer
  obtain ⟨down, inlet', outlet'⟩ := Flow.Lane.mk.injEq .. ▸ lanes .serverToClient
  have inbound : l.inbound = m.inbound :=
    Socket.eq_of_halves inlet outlet' (upkeep .clientToServer)
  have outbound : l.outbound = m.outbound :=
    Socket.eq_of_halves inlet' outlet (upkeep .serverToClient)
  cases l
  cases m
  simp only [flow, pump] at up down inbound outbound
  simp [up, down, inbound, outbound]

end Link

/-! ### Turns -/

/-- A link with the statistics that both pumps update, if there are any. -/
structure Exchange where
  link : Link
  stats : Option Stats

namespace Exchange

variable {now : Reading} {second : Int} {direction : Direction}

/-- One direction of an exchange. -/
def flow (x : Exchange) (direction : Direction) : Flow := x.link.flow x.stats direction

/-- An exchange after its flow in a direction has come to `f`. -/
def put (x : Exchange) (f : Flow) (direction : Direction) : Exchange :=
  ⟨x.link.put f direction, f.stats⟩

/-- One step of the pump of a direction. -/
def turn (now : Reading) (x : Exchange) (direction : Direction) : Exchange :=
  x.put ((x.flow direction).step direction now) direction

/-- Turns in the order of a schedule. -/
def play (now : Reading) (x : Exchange) (schedule : List Direction) : Exchange :=
  schedule.foldl (turn now) x

@[simp] theorem flow_put (x : Exchange) (f : Flow) : (x.put f direction).flow direction = f :=
  x.link.flow_put f

/-- What one direction has come to, the other one finds at its far ends. -/
theorem lane_put_other (x : Exchange) (f : Flow) :
    ((x.put f direction).flow direction.other).lane =
      ⟨x.link.pump direction.other, f.sink.inlet, f.source.outlet⟩ := by
  cases direction <;> rfl

theorem lane_other (x : Exchange) :
    (x.flow direction.other).lane = ⟨x.link.pump direction.other,
      (x.flow direction).sink.inlet, (x.flow direction).source.outlet⟩ := by
  cases direction <;> rfl

theorem put_put (x : Exchange) (f g : Flow) :
    (x.put f direction).put g direction = x.put g direction :=
  congrArg (fun l => (⟨l, g.stats⟩ : Exchange)) (x.link.put_put f g)

theorem put_flow (x : Exchange) : x.put (x.flow direction) direction = x :=
  congrArg (fun l => (⟨l, x.stats⟩ : Exchange)) (x.link.put_flow x.stats)

theorem flow_turn (x : Exchange) :
    (x.turn now direction).flow direction = (x.flow direction).step direction now :=
  x.flow_put _

section Frame

variable (now : Reading) (direction : Direction) (x : Exchange)

/-- A turn of one direction leaves the lane of the other one alone. -/
theorem lane_turn_other :
    ((x.turn now direction).flow direction.other).lane = (x.flow direction.other).lane := by
  rw [turn, lane_put_other, lane_other, Flow.inlet_step_sink, Flow.outlet_step_source]

theorem pump_turn_other :
    (x.turn now direction).link.pump direction.other = x.link.pump direction.other :=
  congrArg Flow.Lane.pump (lane_turn_other now direction x)

theorem upkeep_turn (direction' : Direction) :
    ((x.turn now direction).link.source direction').upkeep =
      (x.link.source direction').upkeep := by
  obtain ⟨source, sink⟩ := Flow.upkeep_step direction now (x.flow direction)
  cases direction with
  | clientToServer => cases direction' with
    | clientToServer => exact source
    | serverToClient => exact sink
  | serverToClient => cases direction' with
    | clientToServer => exact sink
    | serverToClient => exact source

end Frame

theorem stats_turn (finite : Clock.second now = .ok second) (direction : Direction)
    (x : Exchange) :
    (x.turn now direction).stats =
      x.stats.map ((x.link.pump direction).stage.tally direction second) :=
  Flow.stats_step finite (x.flow direction)

/-- After a turn of each direction a lane is where its own turn has brought it. -/
theorem lane_turn_turn (finite : Clock.second now = .ok second) (direction : Direction)
    (x : Exchange) :
    (((x.turn now direction).turn now direction.other).flow direction).lane =
      (((x.turn now direction.other).turn now direction).flow direction).lane := by
  have before := lane_turn_other now direction.other x
  have after := lane_turn_other now direction.other (x.turn now direction)
  rw [Direction.other_other] at before after
  rw [after, flow_turn, flow_turn]
  exact Flow.lane_step finite finite before.symm

/-- Turns of the two directions can change places. -/
theorem turn_turn_other (finite : Clock.second now = .ok second) (direction : Direction)
    (x : Exchange) :
    (x.turn now direction).turn now direction.other =
      (x.turn now direction.other).turn now direction := by
  have links : ((x.turn now direction).turn now direction.other).link =
      ((x.turn now direction.other).turn now direction).link := by
    apply Link.eq_of_lanes _ _
    · intro direction'
      rcases direction.eq_or_eq_other direction' with own | other
      · rw [own]
        exact lane_turn_turn finite direction x
      · have swapped := lane_turn_turn finite direction.other x
        rw [Direction.other_other] at swapped
        rw [other]
        exact swapped.symm
    · intro direction'
      simp only [upkeep_turn]
  have counts : ((x.turn now direction).turn now direction.other).stats =
      ((x.turn now direction.other).turn now direction).stats := by
    have other := pump_turn_other now direction.other x
    rw [Direction.other_other] at other
    simp only [stats_turn finite, pump_turn_other, other, Option.map_map]
    congr 1
    funext s
    exact Stage.tally_comm ..
  exact (Exchange.mk.injEq ..).mpr ⟨links, counts⟩

theorem turn_comm (finite : Clock.second now = .ok second) (x : Exchange)
    (direction direction' : Direction) :
    (x.turn now direction).turn now direction' = (x.turn now direction').turn now direction := by
  rcases direction.eq_or_eq_other direction' with own | other
  · rw [own]
  · rw [other]
    exact turn_turn_other finite direction x

/-! ### Schedules -/

/-- At every moment of every schedule each pump, with what it has read and sent, is where it would
be after as many steps had it worked alone. -/
theorem lane_play (finite : Clock.second now = .ok second) (direction : Direction)
    (schedule : List Direction) (x : Exchange) :
    ((x.play now schedule).flow direction).lane =
      ((x.flow direction).steps direction now (schedule.count direction)).lane := by
  induction schedule generalizing x with
  | nil => rfl
  | cons first rest ih =>
      have next := ih (x.turn now first)
      rcases first.eq_or_eq_other direction with own | other
      · rw [own] at next ⊢
        rw [List.count_cons_self, Flow.steps, ← flow_turn]
        exact next
      · have different : first ≠ direction := by
          rw [other]
          cases first <;> simp [Direction.other]
        rw [List.count_cons_of_ne different]
        refine next.trans (Flow.lane_steps finite finite _ ?_)
        rw [other]
        exact lane_turn_other now first x

/-- A schedule counts only by how many turns each direction has in it. -/
theorem play_eq_of_perm (finite : Clock.second now = .ok second)
    {schedule schedule' : List Direction} (perm : schedule.Perm schedule') (x : Exchange) :
    x.play now schedule = x.play now schedule' := by
  have comm : RightCommutative (turn now) := ⟨fun x first next => turn_comm finite x first next⟩
  exact perm.foldl_eq x

theorem play_append (schedule schedule' : List Direction) (x : Exchange) :
    x.play now (schedule ++ schedule') = (x.play now schedule).play now schedule' :=
  List.foldl_append

theorem play_replicate (n : Nat) (x : Exchange) :
    x.play now (List.replicate n direction) =
      x.put ((x.flow direction).steps direction now n) direction := by
  induction n generalizing x with
  | zero => exact x.put_flow.symm
  | succ n ih =>
      have next := ih (x.turn now direction)
      rw [flow_turn, turn, put_put] at next
      exact next

theorem perm_replicate (schedule : List Direction) :
    schedule.Perm (List.replicate (schedule.count .clientToServer) .clientToServer ++
      List.replicate (schedule.count .serverToClient) .serverToClient) := by
  rw [List.perm_iff_count]
  intro direction
  cases direction <;> simp [List.count_replicate]

/-- An exchange after the pump toward the proxy has run to its end, and then the other one. -/
def inSuccession (now : Reading) (x : Exchange) : Exchange :=
  let y := x.put ((x.flow .clientToServer).run .clientToServer now) .clientToServer
  y.put ((y.flow .serverToClient).run .serverToClient now) .serverToClient

/-- Every schedule that brings both pumps to their end leads to the same state. -/
theorem play_eq_inSuccession (finite : Clock.second now = .ok second)
    {schedule : List Direction} {x : Exchange} (done : (x.play now schedule).link.Finished) :
    x.play now schedule = x.inSuccession now := by
  have up := congrArg Flow.Lane.pump (lane_play finite .clientToServer schedule x)
  have upDone := (congrArg Pump.stage up).symm.trans (done .clientToServer)
  have sorted := play_eq_of_perm finite (perm_replicate schedule) x
  rw [play_append, play_replicate (schedule.count .clientToServer) x, Flow.steps_eq_run upDone,
    play_replicate] at sorted
  have downDone := done .serverToClient
  rw [sorted] at downDone
  rw [sorted, Flow.steps_eq_run downDone]
  rfl

/-- Both pumps have come to their end once each has had as many turns as its bound. -/
theorem finished_play (finite : Clock.second now = .ok second) {schedule : List Direction}
    {x : Exchange} (enough : ∀ direction, (x.flow direction).bound ≤ schedule.count direction) :
    (x.play now schedule).link.Finished := by
  intro direction
  have pump := congrArg Flow.Lane.pump (lane_play finite direction schedule x)
  have all : (x.flow direction).steps direction now (schedule.count direction) =
      (x.flow direction).run direction now :=
    Flow.steps_eq_of_bound_le (enough direction) (Nat.le_refl _)
  rw [all] at pump
  exact (congrArg Pump.stage pump).trans (Flow.finished_run _)

/-- So every schedule can be completed. -/
theorem exists_finished (finite : Clock.second now = .ok second) (schedule : List Direction)
    (x : Exchange) : ∃ rest, (x.play now (schedule ++ rest)).link.Finished := by
  refine ⟨List.replicate (x.flow .clientToServer).bound .clientToServer ++
    List.replicate (x.flow .serverToClient).bound .serverToClient, finished_play finite ?_⟩
  intro direction
  cases direction <;> simp [List.count_replicate]

/-- One of the schedules that complete an exchange lets one pump run after the other. -/
theorem exists_play_inSuccession (now : Reading) (x : Exchange) :
    ∃ schedule, x.play now schedule = x.inSuccession now := by
  have first : x.play now (List.replicate (x.flow .clientToServer).bound .clientToServer) =
      x.put ((x.flow .clientToServer).run .clientToServer now) .clientToServer :=
    x.play_replicate _
  have next (y : Exchange) :
      y.play now (List.replicate (y.flow .serverToClient).bound .serverToClient) =
        y.put ((y.flow .serverToClient).run .serverToClient now) .serverToClient :=
    y.play_replicate _
  rw [inSuccession, ← next, ← first, ← play_append]
  exact ⟨_, rfl⟩

theorem finished_inSuccession (now : Reading) (x : Exchange) :
    (x.inSuccession now).link.Finished := by
  intro direction
  cases direction with
  | clientToServer => exact Flow.finished_run _
  | serverToClient => exact Flow.finished_run _

/-- Each lane is then where its own run brings it. -/
theorem lane_inSuccession (finite : Clock.second now = .ok second) (direction : Direction)
    (x : Exchange) :
    ((x.inSuccession now).flow direction).lane = ((x.flow direction).run direction now).lane := by
  obtain ⟨schedule, played⟩ := exists_play_inSuccession now x
  have done := finished_inSuccession now x
  have lanes := lane_play finite direction schedule x
  rw [played] at lanes
  have pump := congrArg Flow.Lane.pump lanes
  rw [lanes, Flow.steps_eq_run ((congrArg Pump.stage pump).symm.trans (done direction))]

/-- The report of a relay whose pumps have come to their ends. -/
def report (target : Target) (proxy : Proxy) (notes : List String) (x : Exchange) : Report where
  outcome := outcomeOf x.link.up x.link.down
  dial := ⟨proxy.endpoint, proxy.connectTimeout, some x.link.outbound.close⟩
  inbound := x.link.inbound
  stats := x.stats
  log := notes.map Log.Record.debug ++ [startRecord target]

end Exchange

/-! ### A relay whose pumps take turns -/

/-- The relay lets one pump run after the other. -/
theorem run_eq_report (target : Target) (proxy : Proxy) (now : Reading) (stats : Option Stats)
    (inbound : Socket) {outbound : Socket} {held : Held BoundAddress} {bound : BoundAddress}
    (holds : (connect target proxy.credential).run
      (outbound.setLimit proxy.handshakeTimeout) = held) (accepted : held.outcome = .ok bound) :
    run target proxy now stats inbound (.ok outbound) =
      ((⟨.opened inbound held.socket, stats⟩ : Exchange).inSuccession now).report target proxy
        held.notes := by
  rw [report_of_accepted target proxy now stats inbound holds accepted]
  rfl

/-- Let all faults be faults of the system, the handshake accepted, and the clock stand still at a
finite time. Then at every moment of every schedule each direction is where it would be alone,
whether the other one is ahead, has finished or has failed; every schedule can be completed; and
every complete one ends in the same state of pumps, sockets and statistics, with the report of the
relay in which the pumps run one after the other, each pump unbroken and with the result of running
alone. -/
theorem relay_blind_to_schedule (target : Target) (proxy : Proxy) {now : Reading}
    (finite : now.IsFinite) (stats : Option Stats) {inbound outbound : Socket}
    (orderly : inbound.Orderly) (orderly' : outbound.Orderly) {held : Held BoundAddress}
    (holds : (connect target proxy.credential).run
      (outbound.setLimit proxy.handshakeTimeout) = held) {bound : BoundAddress}
    (accepted : held.outcome = .ok bound) {start : Exchange}
    (opened : start = ⟨.opened inbound held.socket, stats⟩) (schedule : List Direction) :
    (∀ direction, ((start.play now schedule).flow direction).lane =
      ((start.flow direction).steps direction now (schedule.count direction)).lane) ∧
    (∃ rest, (start.play now (schedule ++ rest)).link.Finished) ∧
    ((start.play now schedule).link.Finished →
      start.play now schedule = start.inSuccession now ∧
      (start.play now schedule).report target proxy held.notes =
        run target proxy now stats inbound (.ok outbound) ∧
      ∀ direction, ((start.play now schedule).flow direction).lane =
          ((start.flow direction).run direction now).lane ∧
        ((start.play now schedule).link.pump direction).broken = none) := by
  obtain ⟨second, finite⟩ := Clock.second_of_isFinite finite
  have lanes := fun direction => Exchange.lane_play finite direction schedule start
  refine ⟨lanes, Exchange.exists_finished finite schedule start, ?_⟩
  intro done
  have settled := Exchange.play_eq_inSuccession finite done
  refine ⟨settled, ?_, ?_⟩
  · rw [settled, run_eq_report target proxy now stats inbound holds accepted, opened]
  · intro direction
    have pump := congrArg Flow.Lane.pump (lanes direction)
    have ran := Flow.steps_eq_run ((congrArg Pump.stage pump).symm.trans (done direction))
    have far : held.socket.Orderly := by
      rw [← holds]
      exact (Dialogue.acted_acts _ _).orderly (orderly'.setLimit _)
    have sound : (start.flow direction).Sound := by
      rw [opened]
      cases direction with
      | clientToServer => exact ⟨rfl, orderly, far.setLimit none⟩
      | serverToClient => exact ⟨rfl, far.setLimit none, orderly⟩
    refine ⟨(lanes direction).trans (congrArg Flow.lane ran), ?_⟩
    exact (congrArg Pump.broken pump).trans (sound.steps finite _).unbroken

/-- The stream of the proxy ends before the client's side has taken a turn, and that side fails in
its second read. -/
theorem relay_blind_to_schedule_after_reset :
    ∃ (held : Held BoundAddress) (rest : List Direction),
      ((⟨.opened (.fresh [.data [1], .fault ⟨.connectionReset, none, "reset"⟩] [] none)
          held.socket, none⟩ : Exchange).play (.finite false 0 0)
            ([.serverToClient, .serverToClient, .clientToServer] ++ rest)).report (.loopback 80)
          .loopback held.notes =
        run (.loopback 80) .loopback (.finite false 0 0) none
          (.fresh [.data [1], .fault ⟨.connectionReset, none, "reset"⟩] [] none)
          (.ok (.fresh [.data [5, 0, 5, 0, 0, 1, 127, 0, 0, 1, 0, 80]] [] none)) := by
  have orderly : Socket.Orderly
      (.fresh [.data [1], .fault ⟨.connectionReset, none, "reset"⟩] [] none) :=
    ⟨by simp [Socket.fresh, Fault.isSystem, FaultKind.isSystem], by simp [Socket.fresh],
      by simp [Socket.fresh]⟩
  have orderly' : Socket.Orderly
      (.fresh [.data [5, 0, 5, 0, 0, 1, 127, 0, 0, 1, 0, 80]] [] none) :=
    ⟨by simp [Socket.fresh], by simp [Socket.fresh], by simp [Socket.fresh]⟩
  have accepted := Replies.outcome_run (.loopback 80) Proxy.loopback.credential
    (s := Socket.setLimit Proxy.loopback.handshakeTimeout
      (.fresh [.data [5, 0, 5, 0, 0, 1, 127, 0, 0, 1, 0, 80]] [] none)) (fun _ _ => rfl)
  have every := fun schedule => relay_blind_to_schedule (.loopback 80) .loopback
    ⟨false, 0, 0, rfl⟩ none orderly orderly' rfl accepted rfl schedule
  obtain ⟨-, ⟨rest, done⟩, -⟩ := every [.serverToClient, .serverToClient, .clientToServer]
  obtain ⟨-, -, settle⟩ := every ([.serverToClient, .serverToClient, .clientToServer] ++ rest)
  exact ⟨_, rest, (settle done).2.1⟩

end Relay

end SocksTunnel
