import SocksTunnel.Proofs.Relay.Pump

/-!
What a pump works on. Of its source it uses the receiving half only, and of its sink the sending
half; together with the pump these are its lane.

* `Flow.step_of_reading` and its neighbours — a step as one equation for each stage, whatever the
  call in it gives.
* `Flow.outlet_step_source`, `Flow.inlet_step_sink` — a step leaves the other halves alone.
* `Flow.used_steps` — a pump closes neither socket.
* `Flow.lane_steps` — with a second on the clock a lane goes its own way: neither the statistics,
  nor the clock, nor the halves that belong to the other direction have a part in it.
* `Flow.Sound.steps` — where all faults are faults of the system, nothing breaks a pump.
* `Flow.stats_step` — what a step does to the statistics is decided by the stage alone.
-/

namespace SocksTunnel

open SocksTunnel.Text SocksTunnel.Traffic

/-- A number that is neither infinite nor none at all. -/
def Binary64.IsFinite (x : Binary64) : Prop :=
  ∃ negative mantissa exponent, x = .finite negative mantissa exponent

/-- A clock whose reading is finite has a second. -/
theorem Clock.second_of_isFinite {now : Reading} (finite : now.IsFinite) :
    ∃ second, Clock.second now = .ok second := by
  obtain ⟨negative, mantissa, exponent, rfl⟩ := finite
  exact ⟨_, rfl⟩

namespace Socket

/-! ### The two halves of a socket -/

/-- The receiving half of a socket. -/
structure Inlet where
  arrivals : List Arrival
  reads : List Nat

/-- The sending half of a socket. -/
structure Outlet where
  sendFaults : List (Nat × Fault)
  closeFault : Option Fault
  sent : List Bytes
  attempts : Nat
  halfCloses : Nat

def inlet (s : Socket) : Inlet := ⟨s.arrivals, s.reads⟩

def outlet (s : Socket) : Outlet :=
  ⟨s.sendFaults, s.closeFault, s.sent, s.attempts, s.halfCloses⟩

/-- What belongs to neither half: the limits set, and how often the socket was closed. -/
def upkeep (s : Socket) : List Timeout × Nat := (s.limits, s.closes)

theorem eq_of_halves {s t : Socket} (inlet : s.inlet = t.inlet) (outlet : s.outlet = t.outlet)
    (upkeep : s.upkeep = t.upkeep) : s = t := by
  cases s
  cases t
  simp only [Socket.inlet, Socket.outlet, Socket.upkeep, Inlet.mk.injEq, Outlet.mk.injEq,
    Prod.mk.injEq] at inlet outlet upkeep
  simp [inlet, outlet, upkeep]

variable {s t : Socket}

@[simp] theorem outlet_recv (size : Nat) (s : Socket) : (s.recv size).2.outlet = s.outlet := rfl

@[simp] theorem upkeep_recv (size : Nat) (s : Socket) : (s.recv size).2.upkeep = s.upkeep := rfl

@[simp] theorem inlet_send (bytes : Bytes) (s : Socket) : (s.send bytes).2.inlet = s.inlet := by
  unfold send
  split <;> rfl

@[simp] theorem upkeep_send (bytes : Bytes) (s : Socket) : (s.send bytes).2.upkeep = s.upkeep := by
  unfold send
  split <;> rfl

@[simp] theorem inlet_halfClose (s : Socket) : s.halfClose.2.inlet = s.inlet := rfl

@[simp] theorem upkeep_halfClose (s : Socket) : s.halfClose.2.upkeep = s.upkeep := rfl

/-- A read uses the receiving half only. -/
theorem recv_congr (same : s.inlet = t.inlet) (size : Nat) :
    (s.recv size).1 = (t.recv size).1 ∧ (s.recv size).2.inlet = (t.recv size).2.inlet := by
  obtain ⟨arrivals, reads⟩ := Inlet.mk.injEq .. ▸ same
  simp [recv, inlet, arrivals, reads]

/-- A send uses the sending half only. -/
theorem send_congr (same : s.outlet = t.outlet) (bytes : Bytes) :
    (s.send bytes).1 = (t.send bytes).1 ∧ (s.send bytes).2.outlet = (t.send bytes).2.outlet := by
  obtain ⟨faults, closeFault, sent, attempts, halfCloses⟩ := Outlet.mk.injEq .. ▸ same
  have next : s.nextSendFault = t.nextSendFault := by
    rw [nextSendFault, nextSendFault, faults, attempts]
  unfold send
  rw [next]
  cases t.nextSendFault <;> simp [outlet, faults, closeFault, sent, attempts, halfCloses]

/-- A half close uses the sending half only. -/
theorem halfClose_congr (same : s.outlet = t.outlet) :
    s.halfClose.1 = t.halfClose.1 ∧ s.halfClose.2.outlet = t.halfClose.2.outlet := by
  obtain ⟨faults, closeFault, sent, attempts, halfCloses⟩ := Outlet.mk.injEq .. ▸ same
  simp [halfClose, outlet, faults, closeFault, sent, attempts, halfCloses]

end Socket

namespace Relay

/-! ### A step for each stage -/

namespace Pump

/-- A pump after a read. -/
def heard (found : Except Fault Bytes) (p : Pump) : Pump :=
  match found with
  | .error cause => p.meet cause
  | .ok [] => { p with stage := .closing }
  | .ok (b :: more) => { p with stage := .sending (b :: more) }

/-- A pump after the send of a chunk. -/
def said (chunk : Bytes) (fault : Option Fault) (p : Pump) : Pump :=
  match fault with
  | some cause => p.meet cause
  | none => { p with stage := .counting chunk.length, copied := p.copied + chunk.length }

/-- A pump after a chunk was counted. -/
def counted (error : Option ClockError) (p : Pump) : Pump :=
  match error with
  | none => { p with stage := .reading }
  | some e => { p with stage := .finished, broken := some (.clock e) }

/-- A pump after the half close. -/
def closed (fault : Option Fault) (p : Pump) : Pump :=
  match fault with
  | some cause => p.meetLate cause
  | none => { p with stage := .finished }

end Pump

/-- Count delivered bytes if there are statistics. -/
def countIn (direction : Direction) (now : Reading) (length : Nat) :
    Option Stats → Option ClockError × Option Stats
  | none => (none, none)
  | some s => ((countDelivered direction now length s).1, (countDelivered direction now length s).2)

/-- With a second on the clock nothing goes wrong in counting. -/
theorem countIn_of_second {direction : Direction} {now : Reading} {second : Int}
    (finite : Clock.second now = .ok second) (length : Nat) (stats : Option Stats) :
    countIn direction now length stats = (none, stats.map
      (Stats.countAt (direction.shares length).1 (direction.shares length).2 second)) := by
  cases stats with
  | none => rfl
  | some s => cases direction <;> simp [countIn, countDelivered, Stats.count, finite,
      Direction.shares]

namespace Flow

variable {direction : Direction} {now : Reading} {f : Flow}

theorem step_of_reading (reading : f.pump.stage = .reading) :
    f.step direction now = { f with
      pump := f.pump.heard (f.source.recv bufferSize).1
      source := (f.source.recv bufferSize).2 } := by
  cases found : f.source.recv bufferSize with
  | mk outcome source =>
      rcases outcome with cause | (_ | ⟨b, more⟩)
      · exact step_of_recv_fault reading found
      · exact step_of_end reading found
      · exact step_of_data reading found

theorem step_of_sending {chunk : Bytes} (sending : f.pump.stage = .sending chunk) :
    f.step direction now = { f with
      pump := f.pump.said chunk (f.sink.send chunk).1
      sink := (f.sink.send chunk).2 } := by
  cases sent : f.sink.send chunk with
  | mk fault sink =>
      cases fault with
      | none => exact step_of_sent sending sent
      | some cause => exact step_of_send_fault sending sent

theorem step_of_counting {length : Nat} (counting : f.pump.stage = .counting length) :
    f.step direction now = { f with
      pump := f.pump.counted (countIn direction now length f.stats).1
      stats := (countIn direction now length f.stats).2 } := by
  obtain ⟨pump, source, sink, stats⟩ := f
  rw [step, counting]
  cases stats with
  | none => rfl
  | some s =>
      simp only [countIn]
      cases counted : countDelivered direction now length s with
      | mk error stats => cases error <;> rfl

theorem step_of_closing (closing : f.pump.stage = .closing) :
    f.step direction now = { f with
      pump := f.pump.closed f.sink.halfClose.1
      sink := f.sink.halfClose.2 } := by
  cases closed : f.sink.halfClose with
  | mk fault sink =>
      cases fault with
      | none => exact step_of_closed closing closed
      | some cause => exact step_of_close_fault closing closed

/-! ### Runs by steps -/

theorem steps_add (m n : Nat) (f : Flow) :
    f.steps direction now (m + n) = (f.steps direction now m).steps direction now n := by
  induction m generalizing f with
  | zero => rw [Nat.zero_add, steps]
  | succ m ih => rw [Nat.succ_add, steps, steps, ih]

/-- Steps that bring a pump to its end are all the steps of its run. -/
theorem steps_eq_run {n : Nat} (done : (f.steps direction now n).pump.stage = .finished) :
    f.steps direction now n = f.run direction now := by
  calc
    f.steps direction now n = (f.steps direction now n).steps direction now f.bound :=
      (steps_of_finished done _).symm
    _ = f.steps direction now (n + f.bound) := (steps_add n f.bound f).symm
    _ = f.run direction now := steps_eq_of_bound_le (Nat.le_add_left _ _) (Nat.le_refl _)

/-! ### What a step leaves alone -/

section Frame

variable (direction : Direction) (now : Reading)

theorem outlet_step_source (f : Flow) :
    (f.step direction now).source.outlet = f.source.outlet := by
  cases stage : f.pump.stage with
  | reading => simp [step_of_reading stage]
  | sending chunk => rw [step_of_sending stage]
  | counting length => rw [step_of_counting stage]
  | closing => rw [step_of_closing stage]
  | finished => rw [step_of_finished stage]

theorem inlet_step_sink (f : Flow) : (f.step direction now).sink.inlet = f.sink.inlet := by
  cases stage : f.pump.stage with
  | reading => rw [step_of_reading stage]
  | sending chunk => simp [step_of_sending stage]
  | counting length => rw [step_of_counting stage]
  | closing => simp [step_of_closing stage]
  | finished => rw [step_of_finished stage]

theorem upkeep_step (f : Flow) :
    (f.step direction now).source.upkeep = f.source.upkeep ∧
      (f.step direction now).sink.upkeep = f.sink.upkeep := by
  cases stage : f.pump.stage with
  | reading => simp [step_of_reading stage]
  | sending chunk => simp [step_of_sending stage]
  | counting length => simp [step_of_counting stage]
  | closing => simp [step_of_closing stage]
  | finished => simp [step_of_finished stage]

/-- So does any number of steps. -/
theorem outlet_steps_source (n : Nat) (f : Flow) :
    (f.steps direction now n).source.outlet = f.source.outlet := by
  induction n generalizing f with
  | zero => rfl
  | succ n ih => exact (ih _).trans (outlet_step_source direction now f)

/-- Nothing is sent on the socket that a pump reads from. -/
theorem sent_run_source (f : Flow) : (f.run direction now).source.sent = f.source.sent :=
  congrArg Socket.Outlet.sent (outlet_steps_source direction now f.bound f)

theorem inlet_steps_sink (n : Nat) (f : Flow) :
    (f.steps direction now n).sink.inlet = f.sink.inlet := by
  induction n generalizing f with
  | zero => rfl
  | succ n ih => exact (ih _).trans (inlet_step_sink direction now f)

theorem upkeep_steps (n : Nat) (f : Flow) :
    (f.steps direction now n).source.upkeep = f.source.upkeep ∧
      (f.steps direction now n).sink.upkeep = f.sink.upkeep := by
  induction n generalizing f with
  | zero => exact ⟨rfl, rfl⟩
  | succ n ih =>
      obtain ⟨source, sink⟩ := ih (f.step direction now)
      obtain ⟨source', sink'⟩ := upkeep_step direction now f
      exact ⟨source.trans source', sink.trans sink'⟩

/-- A step uses the two sockets and closes neither. -/
theorem used_step (f : Flow) :
    f.source.Used (f.step direction now).source ∧ f.sink.Used (f.step direction now).sink := by
  cases stage : f.pump.stage with
  | reading =>
      rw [step_of_reading stage]
      exact ⟨.recv _ _, .refl _⟩
  | sending chunk =>
      rw [step_of_sending stage]
      exact ⟨.refl _, .send _ _⟩
  | counting length =>
      rw [step_of_counting stage]
      exact ⟨.refl _, .refl _⟩
  | closing =>
      rw [step_of_closing stage]
      exact ⟨.refl _, .halfClose _⟩
  | finished =>
      rw [step_of_finished stage]
      exact ⟨.refl _, .refl _⟩

theorem used_steps (n : Nat) (f : Flow) :
    f.source.Used (f.steps direction now n).source ∧
      f.sink.Used (f.steps direction now n).sink := by
  induction n generalizing f with
  | zero => exact ⟨.refl _, .refl _⟩
  | succ n ih =>
      obtain ⟨source, sink⟩ := used_step direction now f
      obtain ⟨source', sink'⟩ := ih (f.step direction now)
      exact ⟨source.trans source', sink.trans sink'⟩

end Frame

/-! ### Lanes -/

/-- What a pump works on: itself and the halves of the sockets that it uses. -/
structure Lane where
  pump : Pump
  inlet : Socket.Inlet
  outlet : Socket.Outlet

def lane (f : Flow) : Lane := ⟨f.pump, f.source.inlet, f.sink.outlet⟩

/-- Where both clocks have a second, flows with the same lane have the same lane after a step,
even in different directions. -/
theorem lane_step {now' : Reading} {direction' : Direction} {second second' : Int} {f g : Flow}
    (finite : Clock.second now = .ok second) (finite' : Clock.second now' = .ok second')
    (same : f.lane = g.lane) : (f.step direction now).lane = (g.step direction' now').lane := by
  obtain ⟨pump, inlet, outlet⟩ := Lane.mk.injEq .. ▸ same
  cases stage : f.pump.stage with
  | reading =>
      obtain ⟨found, rest⟩ := Socket.recv_congr inlet bufferSize
      rw [step_of_reading stage, step_of_reading (pump ▸ stage)]
      simp [lane, pump, found, rest, outlet]
  | sending chunk =>
      obtain ⟨fault, rest⟩ := Socket.send_congr outlet chunk
      rw [step_of_sending stage, step_of_sending (pump ▸ stage)]
      simp [lane, pump, fault, rest, inlet]
  | counting length =>
      rw [step_of_counting stage, step_of_counting (pump ▸ stage)]
      simp [lane, countIn_of_second finite, countIn_of_second finite', pump, inlet, outlet]
  | closing =>
      obtain ⟨fault, rest⟩ := Socket.halfClose_congr outlet
      rw [step_of_closing stage, step_of_closing (pump ▸ stage)]
      simp [lane, pump, fault, rest, inlet]
  | finished =>
      rw [step_of_finished stage, step_of_finished (pump ▸ stage)]
      exact same

/-- So a lane goes its own way over any number of steps. -/
theorem lane_steps {now' : Reading} {direction' : Direction} {second second' : Int}
    (finite : Clock.second now = .ok second) (finite' : Clock.second now' = .ok second') (n : Nat)
    {f g : Flow} (same : f.lane = g.lane) :
    (f.steps direction now n).lane = (g.steps direction' now' n).lane := by
  induction n generalizing f g with
  | zero => exact same
  | succ n ih => exact ih (lane_step finite finite' same)

/-! ### Faults of the system -/

/-- A flow that nothing has broken, on sockets that report faults of the system only. -/
structure Sound (f : Flow) : Prop where
  unbroken : f.pump.broken = none
  source : f.source.Orderly
  sink : f.sink.Orderly

theorem broken_meet {cause : Fault} (system : cause.isSystem = true) (p : Pump) :
    (p.meet cause).broken = p.broken := by
  simp [Pump.meet, system]

theorem broken_meetLate {cause : Fault} (system : cause.isSystem = true) (p : Pump) :
    (p.meetLate cause).broken = p.broken := by
  simp [Pump.meetLate, system]

theorem Sound.step {second : Int} (finite : Clock.second now = .ok second) {f : Flow}
    (sound : f.Sound) : (f.step direction now).Sound := by
  obtain ⟨unbroken, source, sink⟩ := sound
  cases stage : f.pump.stage with
  | reading =>
      obtain ⟨system, source'⟩ := source.recv bufferSize
      rw [step_of_reading stage]
      refine ⟨?_, source', sink⟩
      cases found : (f.source.recv bufferSize).1 with
      | error cause => exact (broken_meet (system cause found) _).trans unbroken
      | ok bytes => cases bytes <;> exact unbroken
  | sending chunk =>
      obtain ⟨system, sink'⟩ := sink.send chunk
      rw [step_of_sending stage]
      refine ⟨?_, source, sink'⟩
      cases fault : (f.sink.send chunk).1 with
      | none => exact unbroken
      | some cause => exact (broken_meet (system cause fault) _).trans unbroken
  | counting length =>
      rw [step_of_counting stage, countIn_of_second finite]
      exact ⟨unbroken, source, sink⟩
  | closing =>
      obtain ⟨system, sink'⟩ := sink.halfClose
      rw [step_of_closing stage]
      refine ⟨?_, source, sink'⟩
      cases fault : f.sink.halfClose.1 with
      | none => exact unbroken
      | some cause => exact (broken_meetLate (system cause fault) _).trans unbroken
  | finished =>
      rw [step_of_finished stage]
      exact ⟨unbroken, source, sink⟩

theorem Sound.steps {second : Int} (finite : Clock.second now = .ok second) (n : Nat) {f : Flow}
    (sound : f.Sound) : (f.steps direction now n).Sound := by
  induction n generalizing f with
  | zero => exact sound
  | succ n ih => exact ih (sound.step finite)

end Flow

/-! ### Statistics -/

/-- What a pump in a stage does to the statistics, at a second: it counts the chunk that it has
delivered, if there is one. -/
def Stage.tally (direction : Direction) (second : Int) : Stage → Stats → Stats
  | .counting length =>
      Stats.countAt (direction.shares length).1 (direction.shares length).2 second
  | _ => id

namespace Flow

variable {direction : Direction} {now : Reading}

theorem stats_step {second : Int} (finite : Clock.second now = .ok second) (f : Flow) :
    (f.step direction now).stats = f.stats.map (f.pump.stage.tally direction second) := by
  cases stage : f.pump.stage with
  | reading => simp [step_of_reading stage, Stage.tally]
  | sending chunk => simp [step_of_sending stage, Stage.tally]
  | counting length =>
      rw [step_of_counting stage, countIn_of_second finite]
      rfl
  | closing => simp [step_of_closing stage, Stage.tally]
  | finished => simp [step_of_finished stage, Stage.tally]

/-- Where there are statistics, there are some after a step, even if the clock has no second. -/
theorem exists_stats_step (direction : Direction) (now : Reading) {f : Flow} {s : Stats}
    (present : f.stats = some s) : ∃ s', (f.step direction now).stats = some s' := by
  cases stage : f.pump.stage with
  | reading => exact ⟨s, by rw [step_of_reading stage, present]⟩
  | sending chunk => exact ⟨s, by rw [step_of_sending stage, present]⟩
  | counting length => exact ⟨_, by rw [step_of_counting stage, present, countIn]⟩
  | closing => exact ⟨s, by rw [step_of_closing stage, present]⟩
  | finished => exact ⟨s, by rw [step_of_finished stage, present]⟩

end Flow

end Relay

end SocksTunnel
