import SocksTunnel.Proofs.Socket
import SocksTunnel.Relay.Pump

/-!
The pump of one direction: it comes to an end, and on sockets without faults it has then delivered
everything.

* `Flow.step_of_data` and its neighbours — what a step does in each stage, and with each result of
  the call that it makes.
* `Flow.bound_step_lt` — each step of a pump that has not finished uses up some of the bound.
* `Flow.run_step`, `Flow.finished_run` — so a run takes step after step until the pump has finished.
* `Flow.run_of_faultless` — where nothing fails, the bytes of the source go out on the sink in
  order, are counted, and then the sending side of the sink is closed.
-/

namespace SocksTunnel.Relay

open SocksTunnel.Text SocksTunnel.Traffic

namespace Pump

/-- A fault in copying ends the copying, if it does not break the pump. -/
theorem stage_meet (cause : Fault) (p : Pump) :
    (p.meet cause).stage = .closing ∨ (p.meet cause).stage = .finished := by
  unfold meet
  split
  · exact .inl rfl
  · exact .inr rfl

theorem stage_meetLate (cause : Fault) (p : Pump) : (p.meetLate cause).stage = .finished := by
  unfold meetLate
  split <;> rfl

end Pump

namespace Flow

variable {direction : Direction} {now : Reading}

/-! ### Single steps -/

section Steps

variable {f : Flow} {source sink : Socket} {cause : Fault}

theorem step_of_data (reading : f.pump.stage = .reading) {b : UInt8} {more : Bytes}
    (found : f.source.recv bufferSize = (.ok (b :: more), source)) :
    f.step direction now =
      { f with pump := { f.pump with stage := .sending (b :: more) }, source } := by
  rw [step, reading]
  dsimp only
  rw [found]

theorem step_of_end (reading : f.pump.stage = .reading)
    (found : f.source.recv bufferSize = (.ok [], source)) :
    f.step direction now = { f with pump := { f.pump with stage := .closing }, source } := by
  rw [step, reading]
  dsimp only
  rw [found]

theorem step_of_recv_fault (reading : f.pump.stage = .reading)
    (failed : f.source.recv bufferSize = (.error cause, source)) :
    f.step direction now = { f with pump := f.pump.meet cause, source } := by
  rw [step, reading]
  dsimp only
  rw [failed]

theorem step_of_sent {chunk : Bytes} (sending : f.pump.stage = .sending chunk)
    (sent : f.sink.send chunk = (none, sink)) :
    f.step direction now =
      { f with
        pump := { f.pump with
          stage := .counting chunk.length
          copied := f.pump.copied + chunk.length }
        sink } := by
  rw [step, sending]
  dsimp only
  rw [sent]

theorem step_of_send_fault {chunk : Bytes} (sending : f.pump.stage = .sending chunk)
    (failed : f.sink.send chunk = (some cause, sink)) :
    f.step direction now = { f with pump := f.pump.meet cause, sink } := by
  rw [step, sending]
  dsimp only
  rw [failed]

theorem step_of_closed (closing : f.pump.stage = .closing)
    (closed : f.sink.halfClose = (none, sink)) :
    f.step direction now = { f with pump := { f.pump with stage := .finished }, sink } := by
  rw [step, closing]
  dsimp only
  rw [closed]

theorem step_of_close_fault (closing : f.pump.stage = .closing)
    (failed : f.sink.halfClose = (some cause, sink)) :
    f.step direction now = { f with pump := f.pump.meetLate cause, sink } := by
  rw [step, closing]
  dsimp only
  rw [failed]

theorem step_of_finished (finished : f.pump.stage = .finished) : f.step direction now = f := by
  rw [step, finished]

end Steps

/-! ### Runs end -/

theorem supply_arrive_le (size : Nat) (arrivals : List Arrival) :
    supply (Socket.arrive size arrivals).2 ≤ supply arrivals := by
  match arrivals with
  | [] => exact Nat.le_refl _
  | .endOfStream :: rest => exact Nat.le_add_left _ _
  | .fault cause :: rest => exact Nat.le_add_left _ _
  | .data bytes :: rest =>
      simp only [Socket.arrive, supply]
      split
      · omega
      · simp only [supply, List.length_drop]
        omega

/-- A read that finds bytes uses up some of the supply. -/
theorem supply_arrive_lt {size : Nat} (positive : 0 < size) {arrivals rest : List Arrival}
    {b : UInt8} {more : Bytes} (found : Socket.arrive size arrivals = (.ok (b :: more), rest)) :
    supply rest < supply arrivals := by
  match arrivals with
  | [] => cases found
  | .endOfStream :: _ => cases found
  | .fault _ :: _ => cases found
  | .data bytes :: _ =>
      simp only [Socket.arrive, Prod.mk.injEq, Except.ok.injEq] at found
      obtain ⟨front, rfl⟩ := found
      have nonempty : 0 < bytes.length := by
        have length := congrArg List.length front
        simp only [List.length_take, List.length_cons] at length
        omega
      simp only [supply]
      split
      · omega
      · simp only [supply, List.length_drop]
        omega

/-- Each step of a pump that has not finished uses up some of the bound. -/
theorem bound_step_lt {f : Flow} (busy : f.pump.stage ≠ .finished) :
    (f.step direction now).bound < f.bound := by
  cases stage : f.pump.stage with
  | reading =>
      have used := supply_arrive_le bufferSize f.source.arrivals
      cases arrived : Socket.arrive bufferSize f.source.arrivals with
      | mk outcome rest =>
          rw [arrived] at used
          dsimp only at used
          have found : f.source.recv bufferSize = (outcome, { f.source with
              arrivals := rest, reads := f.source.reads ++ [bufferSize] }) := by
            rw [Socket.recv, arrived]
          rcases outcome with cause | (_ | ⟨b, more⟩)
          · rw [step_of_recv_fault stage found]
            rcases f.pump.stage_meet cause with next | next
            all_goals
              simp only [bound, stage, next]
              omega
          · rw [step_of_end stage found]
            simp only [bound, stage]
            omega
          · have less := supply_arrive_lt (Nat.zero_lt_succ _) arrived
            rw [step_of_data stage found]
            simp only [bound, stage]
            omega
  | sending chunk =>
      cases sent : f.sink.send chunk with
      | mk fault sink =>
          cases fault with
          | none =>
              rw [step_of_sent stage sent]
              simp [bound, stage]
          | some cause =>
              rw [step_of_send_fault stage sent]
              rcases f.pump.stage_meet cause with next | next
              all_goals simp [bound, stage, next]
  | counting length =>
      rw [step, stage]
      dsimp only
      split
      · simp [bound, stage]
      · split <;> simp [bound, stage]
  | closing =>
      cases closed : f.sink.halfClose with
      | mk fault sink =>
          cases fault with
          | none =>
              rw [step_of_closed stage closed]
              simp [bound, stage]
          | some cause =>
              rw [step_of_close_fault stage closed]
              simp [bound, stage, Pump.stage_meetLate]
  | finished => exact absurd stage busy

theorem steps_of_finished {f : Flow} (h : f.pump.stage = .finished) (n : Nat) :
    steps direction now n f = f := by
  induction n with
  | zero => rfl
  | succ n ih => rw [steps, step_of_finished h, ih]

theorem finished_of_bound_eq_zero {f : Flow} (h : f.bound = 0) : f.pump.stage = .finished := by
  unfold bound at h
  cases stage : f.pump.stage with
  | finished => rfl
  | _ =>
      rw [stage] at h
      dsimp only at h
      omega

/-- Once the bound is reached, more steps change nothing. -/
theorem steps_eq_of_bound_le {f : Flow} {m n : Nat} (enough : f.bound ≤ m) (enough' : f.bound ≤ n) :
    steps direction now m f = steps direction now n f := by
  induction m generalizing f n with
  | zero =>
      have done := finished_of_bound_eq_zero (Nat.le_zero.mp enough)
      rw [steps_of_finished done, steps_of_finished done]
  | succ m ih =>
      by_cases done : f.pump.stage = .finished
      · rw [steps_of_finished done, steps_of_finished done]
      · have less := @bound_step_lt direction now f done
        cases n with
        | zero => omega
        | succ n =>
            rw [steps, steps]
            exact ih (by omega) (by omega)

/-- A run takes a step and goes on. -/
theorem run_step (f : Flow) : (f.step direction now).run direction now = f.run direction now := by
  by_cases done : f.pump.stage = .finished
  · rw [step_of_finished done]
  · have less := @bound_step_lt direction now f done
    obtain ⟨n, size⟩ : ∃ n, f.bound = n + 1 := ⟨f.bound - 1, by omega⟩
    rw [run, run, size, steps]
    exact steps_eq_of_bound_le (Nat.le_refl _) (by omega)

theorem run_of_finished {f : Flow} (h : f.pump.stage = .finished) : f.run direction now = f :=
  steps_of_finished h _

/-- A run takes steps until the pump has finished. -/
theorem finished_run (f : Flow) : (f.run direction now).pump.stage = .finished := by
  induction size : f.bound using Nat.strongRecOn generalizing f with
  | ind n ih =>
      by_cases done : f.pump.stage = .finished
      · rw [run_of_finished done]
        exact done
      · rw [← run_step]
        exact ih _ (size ▸ bound_step_lt done) _ rfl

/-! ### Runs without faults -/

end Flow

/-- What a direction makes of a length: bytes sent and bytes received. -/
def Direction.shares : Direction → Nat → Int × Int
  | .clientToServer, length => (length, 0)
  | .serverToClient, length => (0, length)

/-- Statistics with the bytes of a chunk counted, at a second. -/
def countedAt (direction : Direction) (second : Int) (s : Stats) (chunk : Bytes) : Stats :=
  s.countAt (direction.shares chunk.length).1 (direction.shares chunk.length).2 second

theorem countDelivered_of_second {direction : Direction} {now : Reading} {second : Int}
    (finite : Clock.second now = .ok second) (s : Stats) (chunk : Bytes) :
    countDelivered direction now chunk.length s = (none, countedAt direction second s chunk) := by
  cases direction with
  | clientToServer => rw [countDelivered, Stats.count, finite, countedAt, Direction.shares]
  | serverToClient => rw [countDelivered, Stats.count, finite, countedAt, Direction.shares]

/-- Chunks that are counted one by one add up. -/
theorem foldl_countedAt (direction : Direction) (second : Int) (chunks : List Bytes) (s : Stats) :
    ∃ history, chunks.foldl (countedAt direction second) s = { s with
      sent := s.sent + (direction.shares chunks.flatten.length).1
      received := s.received + (direction.shares chunks.flatten.length).2
      history := history } := by
  induction chunks generalizing s with
  | nil => exact ⟨s.history, by cases direction <;> simp [Direction.shares]⟩
  | cons chunk chunks ih =>
      obtain ⟨history, rest⟩ := ih (countedAt direction second s chunk)
      refine ⟨history, ?_⟩
      rw [List.foldl_cons, rest]
      cases direction <;>
        simp [countedAt, Stats.countAt, Direction.shares, Int.add_assoc]

namespace Flow

variable {direction : Direction} {now : Reading}

/-- A flow that has taken chunks from its source, which is now `source`, and has delivered them. -/
def delivered (direction : Direction) (second : Int) (chunks : List Bytes) (source : Socket)
    (f : Flow) : Flow where
  pump := { f.pump with copied := f.pump.copied + chunks.flatten.length }
  source := source
  sink := { f.sink with
    attempts := f.sink.attempts + chunks.length
    sent := f.sink.sent ++ chunks }
  stats := f.stats.map fun s => chunks.foldl (countedAt direction second) s

/-- A flow that has come to its end. -/
def ended (f : Flow) : Flow :=
  { f with
    pump := { f.pump with stage := .finished }
    sink := { f.sink with halfCloses := f.sink.halfCloses + 1 } }

theorem delivered_nil (second : Int) (source : Socket) (f : Flow) :
    f.delivered direction second [] source = ⟨f.pump, source, f.sink, f.stats⟩ := by
  simp [delivered]

theorem delivered_delivered (second : Int) (chunks chunks' : List Bytes) (source source' : Socket)
    (f : Flow) :
    (f.delivered direction second chunks source).delivered direction second chunks' source' =
      f.delivered direction second (chunks ++ chunks') source' := by
  simp [delivered, Nat.add_assoc, Function.comp_def]

/-- With a second on the clock a chunk is counted, if there are statistics. -/
theorem step_of_second {second : Int} (finite : Clock.second now = .ok second) {f : Flow}
    {chunk : Bytes} (counting : f.pump.stage = .counting chunk.length) :
    f.step direction now = { f with
      pump := { f.pump with stage := .reading }
      stats := f.stats.map fun s => countedAt direction second s chunk } := by
  rw [step, counting]
  dsimp only
  cases present : f.stats with
  | none => rfl
  | some s =>
      dsimp only
      rw [countDelivered_of_second finite]
      rfl

/-- One round of a pump: a chunk is read, sent and counted. -/
theorem run_round {second : Int} (finite : Clock.second now = .ok second) {f : Flow}
    (reading : f.pump.stage = .reading) {b : UInt8} {more : Bytes} {source : Socket}
    (found : f.source.recv bufferSize = (.ok (b :: more), source)) (free : f.sink.SendsFreely) :
    f.run direction now = (f.delivered direction second [b :: more] source).run direction now := by
  have sent := Socket.send_of_free free (b :: more)
  calc
    f.run direction now =
        run direction now
          { f with pump := { f.pump with stage := .sending (b :: more) }, source } := by
      rw [← run_step, step_of_data reading found]
    _ = run direction now
          { f with
            pump := { f.pump with
              stage := .counting (b :: more).length
              copied := f.pump.copied + (b :: more).length }
            source
            sink := { f.sink with
              attempts := f.sink.attempts + 1, sent := f.sink.sent ++ [b :: more] } } := by
      rw [← run_step]
      exact congrArg (run direction now) (step_of_sent rfl sent)
    _ = (f.delivered direction second [b :: more] source).run direction now := by
      rw [← run_step, step_of_second finite rfl]
      simp [delivered, ← reading]

/-- The last round of a pump: the source has ended, and the sink is closed for sending. -/
theorem run_last {f : Flow} (reading : f.pump.stage = .reading) {source : Socket}
    (found : f.source.recv bufferSize = (.ok [], source)) (closes : f.sink.closeFault = none) :
    f.run direction now = ended ⟨f.pump, source, f.sink, f.stats⟩ := by
  have closed : f.sink.halfClose = (none, { f.sink with halfCloses := f.sink.halfCloses + 1 }) :=
    Prod.ext closes rfl
  calc
    f.run direction now =
        run direction now { f with pump := { f.pump with stage := .closing }, source } := by
      rw [← run_step, step_of_end reading found]
    _ = run direction now (ended ⟨f.pump, source, f.sink, f.stats⟩) := by
      rw [← run_step]
      exact congrArg (run direction now) (step_of_closed rfl closed)
    _ = ended ⟨f.pump, source, f.sink, f.stats⟩ := run_of_finished rfl

/-- Where nothing fails and the clock has a second, a pump delivers the bytes of its source, in
order and each once, counts them, and closes the sending side of its sink. -/
theorem run_of_faultless (direction : Direction) {second : Int}
    (finite : Clock.second now = .ok second) {f : Flow} (reading : f.pump.stage = .reading)
    (ends : f.source.inflow.ending = none) (free : f.sink.SendsFreely)
    (closes : f.sink.closeFault = none) :
    ∃ chunks rest reads, chunks.flatten = f.source.inflow.bytes ∧
      f.run direction now = (f.delivered direction second chunks
        { f.source with arrivals := rest, reads := reads }).ended := by
  induction size : f.source.inflow.bytes.length using Nat.strongRecOn generalizing f with
  | ind n ih =>
      have positive : 0 < bufferSize := Nat.zero_lt_succ 65535
      rcases f.source.recv_cases positive with
        ⟨b, more, rest, found, -, flow⟩ | ⟨rest, found, flow⟩ | ⟨cause, rest, found, flow⟩
      · rw [flow] at ends size
        obtain ⟨chunks, rest', reads, whole, run⟩ := ih (Inflow.of rest).bytes.length
          (by rw [← size, Inflow.bytes_prepend, List.length_append, List.length_cons]; omega)
          (f := f.delivered direction second [b :: more]
            { f.source with arrivals := rest, reads := f.source.reads ++ [bufferSize] })
          reading ends (free.later rfl (Nat.le_succ _)) closes rfl
        refine ⟨(b :: more) :: chunks, rest', reads, ?_, ?_⟩
        · rw [List.flatten_cons, whole, flow]
          rfl
        · refine (run_round finite reading found free).trans (run.trans ?_)
          rw [delivered_delivered]
          rfl
      · refine ⟨[], rest, f.source.reads ++ [bufferSize], by rw [flow]; rfl, ?_⟩
        rw [run_last reading found closes, delivered_nil]
      · rw [flow] at ends
        cases ends

/-- The same for a pump that has just begun. -/
theorem run_fresh_of_faultless (direction : Direction) {second : Int}
    (finite : Clock.second now = .ok second) (source sink : Socket) (stats : Option Stats)
    (ends : source.inflow.ending = none) (free : sink.SendsFreely)
    (closes : sink.closeFault = none) :
    ∃ chunks rest reads, chunks.flatten = source.inflow.bytes ∧
      run direction now ⟨.fresh, source, sink, stats⟩ =
        { pump := ⟨.finished, chunks.flatten.length, none, none⟩
          source := { source with arrivals := rest, reads := reads }
          sink := { sink with
            attempts := sink.attempts + chunks.length
            sent := sink.sent ++ chunks
            halfCloses := sink.halfCloses + 1 }
          stats := stats.map fun s => chunks.foldl (countedAt direction second) s } := by
  obtain ⟨chunks, rest, reads, whole, run⟩ :=
    run_of_faultless direction finite (f := ⟨.fresh, source, sink, stats⟩) rfl ends free closes
  refine ⟨chunks, rest, reads, whole, run.trans ?_⟩
  simp [delivered, ended, Pump.fresh]

end Flow

end SocksTunnel.Relay
