import Mathlib.Algebra.Ring.Nat
import SocksTunnel.Proofs.Relay.Delivery
import SocksTunnel.Proofs.Relay.Faults

/-!
One direction of a relay, whatever fails in it.

A call can fail in three places: a read, a send, and the close at the end. The calls of a pump are
read off its steps here, so that their order shows, and the chunks that were delivered, the counters
and the fault are those of the calls at each place where copying can stop.

* `Flow.deeds` — the calls that a pump makes, in the order of its steps.
* `Flow.deeds_of_carries` — they are the calls of a direction, as `Carries` has them.
* `Copies.shape` — rounds of a read and a send, and one stop.
* `Flow.run_copies_until_stop` — what one direction does, for any sockets.
-/

namespace SocksTunnel.Relay

open SocksTunnel.Text SocksTunnel.Traffic

/-- The direction that a label stands for. Only the label of the direction to the server stands for
that one. -/
def Direction.ofLabel (label : String) : Direction :=
  if label = Direction.clientToServer.label then .clientToServer else .serverToClient

/-! ### Calls in the order of the steps -/

namespace Flow

variable {direction : Direction} {now : Reading} {second : Int}

/-- The call that the next step makes, with what comes of it. To count a chunk takes no call. -/
def deed? (f : Flow) : Option Deed :=
  match f.pump.stage with
  | .reading => some (.read (f.source.recv bufferSize).1)
  | .sending chunk => some (.sent chunk (f.sink.send chunk).1)
  | .counting _ => none
  | .closing => some (.closed f.sink.halfClose.1)
  | .finished => none

/-- The calls of a number of steps. -/
def deedsIn (direction : Direction) (now : Reading) : Nat → Flow → List Deed
  | 0, _ => []
  | n + 1, f => f.deed?.toList ++ deedsIn direction now n (f.step direction now)

/-- The calls of all steps. -/
def deeds (direction : Direction) (now : Reading) (f : Flow) : List Deed :=
  deedsIn direction now f.bound f

theorem deedsIn_of_finished {f : Flow} (finished : f.pump.stage = .finished) (n : Nat) :
    deedsIn direction now n f = [] := by
  induction n with
  | zero => rfl
  | succ n ih =>
      rw [deedsIn, step_of_finished finished, ih, deed?, finished]
      rfl

theorem deedsIn_add (m n : Nat) (f : Flow) :
    deedsIn direction now (m + n) f =
      deedsIn direction now m f ++ deedsIn direction now n (f.steps direction now m) := by
  induction m generalizing f with
  | zero => rw [Nat.zero_add, deedsIn, steps, List.nil_append]
  | succ m ih => rw [Nat.add_right_comm, deedsIn, deedsIn, steps, ih, List.append_assoc]

/-- Steps beyond the bound make no calls. -/
theorem deedsIn_of_bound_le {f : Flow} {n : Nat} (enough : f.bound ≤ n) :
    deedsIn direction now n f = f.deeds direction now := by
  obtain ⟨more, rfl⟩ := Nat.exists_eq_add_of_le enough
  have finished : (f.steps direction now f.bound).pump.stage = .finished := finished_run f
  rw [deedsIn_add, deedsIn_of_finished finished, List.append_nil, deeds]

theorem deeds_of_finished {f : Flow} (finished : f.pump.stage = .finished) :
    f.deeds direction now = [] :=
  deedsIn_of_finished finished _

/-- A flow makes the call of its next step, and then the calls from there. -/
theorem deeds_step (f : Flow) :
    f.deeds direction now = f.deed?.toList ++ (f.step direction now).deeds direction now := by
  by_cases finished : f.pump.stage = .finished
  · rw [step_of_finished finished, deeds_of_finished finished, deed?, finished]
    rfl
  · have less := @bound_step_lt direction now f finished
    rw [← deedsIn_of_bound_le (Nat.le_succ f.bound), deedsIn,
      deedsIn_of_bound_le (Nat.le_of_lt less)]

section Stages

variable {f : Flow}

theorem deeds_of_reading (reading : f.pump.stage = .reading) :
    f.deeds direction now = .read (f.source.recv bufferSize).1 :: deeds direction now { f with
      pump := f.pump.heard (f.source.recv bufferSize).1
      source := (f.source.recv bufferSize).2 } := by
  rw [deeds_step, step_of_reading reading, deed?, reading]
  rfl

theorem deeds_of_sending {chunk : Bytes} (sending : f.pump.stage = .sending chunk) :
    f.deeds direction now = .sent chunk (f.sink.send chunk).1 :: deeds direction now { f with
      pump := f.pump.said chunk (f.sink.send chunk).1
      sink := (f.sink.send chunk).2 } := by
  rw [deeds_step, step_of_sending sending, deed?, sending]
  rfl

/-- With a second on the clock a pump goes on to read when it has counted. -/
theorem deeds_of_counting (finite : Clock.second now = .ok second) {length : Nat}
    (counting : f.pump.stage = .counting length) :
    f.deeds direction now = deeds direction now { f with
      pump := { f.pump with stage := .reading }
      stats := (countIn direction now length f.stats).2 } := by
  rw [deeds_step, step_of_counting counting, countIn_of_second finite, deed?, counting]
  rfl

theorem deeds_of_closing (closing : f.pump.stage = .closing) :
    f.deeds direction now = [.closed f.sink.closeFault] := by
  have finished : (f.pump.closed f.sink.halfClose.1).stage = .finished := by
    cases f.sink.halfClose.1 with
    | none => rfl
    | some cause => exact f.pump.stage_meetLate cause
  rw [deeds_step, step_of_closing closing, deeds_of_finished finished, deed?, closing]
  rfl

end Stages

/-- A fault of the system that is met in copying leads to the close. -/
theorem stage_meet_of_system {cause : Fault} (system : cause.isSystem = true) (p : Pump) :
    (p.meet cause).stage = .closing := by
  simp [Pump.meet, system]

/-- A flow that reads makes the calls of copying, and then closes its sink. A round of copying takes
three steps, of which the last one only counts. -/
theorem deeds_of_copies (finite : Clock.second now = .ok second)
    {source sink source' sink' : Socket} {copying : List Deed}
    (copies : Copies source sink copying source' sink') (orderly : source.Orderly)
    (orderly' : sink.Orderly) {pump : Pump} (reading : pump.stage = .reading)
    (stats : Option Stats) :
    deeds direction now ⟨pump, source, sink, stats⟩ =
      copying ++ [.closed sink'.closeFault] := by
  induction copies generalizing pump stats with
  | ended found =>
      rw [deeds_of_reading reading]
      dsimp only
      rw [found, deeds_of_closing rfl]
      rfl
  | unread failed =>
      have system := (orderly.recv bufferSize).1 _ (congrArg Prod.fst failed)
      rw [deeds_of_reading reading]
      dsimp only
      rw [failed, deeds_of_closing (stage_meet_of_system system _)]
      rfl
  | unsent found failed =>
      have system := (orderly'.send _).1 _ (congrArg Prod.fst failed)
      rw [deeds_of_reading reading]
      dsimp only
      rw [found, deeds_of_sending rfl]
      dsimp only
      rw [failed, deeds_of_closing (stage_meet_of_system system _)]
      rfl
  | @round _ _ _ _ _ _ b more _ found sent rest ih =>
      have source := (orderly.recv bufferSize).2
      have sink := (orderly'.send (b :: more)).2
      rw [found] at source
      rw [sent] at sink
      rw [deeds_of_reading reading]
      dsimp only
      rw [found, deeds_of_sending rfl]
      dsimp only
      rw [sent, deeds_of_counting finite rfl, ih source sink rfl]
      rfl

/-- The calls of a direction are those that a fresh pump makes, in the order of its steps. -/
theorem deeds_of_carries (finite : Clock.second now = .ok second)
    {source sink source' sink' : Socket} {made : List Deed}
    (carries : Carries source sink made source' sink') (orderly : source.Orderly)
    (orderly' : sink.Orderly) (stats : Option Stats) :
    deeds direction now ⟨.fresh, source, sink, stats⟩ = made := by
  obtain ⟨copies, closes⟩ := carries
  obtain ⟨rfl, -⟩ := Prod.mk.injEq .. ▸ closes
  exact deeds_of_copies finite copies orderly orderly' rfl stats

end Flow

/-! ### Rounds and stops -/

/-- The calls for chunks that are each read and sent before the next one is read. -/
def rounds (chunks : List Bytes) : List Deed :=
  chunks.flatMap fun chunk => [.read (.ok chunk), .sent chunk none]

/-- How copying stops: the source ends, a read fails, or a chunk that was read is not sent. -/
inductive Stop where
  | ended
  | unread (cause : Fault)
  | unsent (b : UInt8) (more : Bytes) (cause : Fault)

namespace Stop

/-- The last calls of copying. -/
def deeds : Stop → List Deed
  | ended => [.read (.ok [])]
  | unread cause => [.read (.error cause)]
  | unsent b more cause => [.read (.ok (b :: more)), .sent (b :: more) (some cause)]

/-- How many sends are among them. -/
def sends : Stop → Nat
  | unsent .. => 1
  | _ => 0

@[simp] theorem chunksOf_deeds (stop : Stop) : chunksOf stop.deeds = [] := by
  cases stop <;> rfl

end Stop

@[simp] theorem chunksOf_rounds (chunks : List Bytes) (others : List Deed) :
    chunksOf (rounds chunks ++ others) = chunks ++ chunksOf others := by
  induction chunks with
  | nil => rfl
  | cons chunk chunks ih => exact congrArg (chunk :: ·) ih

theorem eq_of_recv {source source' : Socket} {size : Nat} {found : Except Fault Bytes}
    (read : source.recv size = (found, source')) :
    ∃ rest, source' = { source with arrivals := rest, reads := source.reads ++ [size] } := by
  cases read
  exact ⟨_, rfl⟩

theorem eq_of_send {sink sink' : Socket} {chunk : Bytes} {fault : Option Fault}
    (said : sink.send chunk = (fault, sink')) :
    sink' = { sink with
      attempts := sink.attempts + 1
      sent := sink.sent ++ chunksOf [.sent chunk fault] } := by
  unfold Socket.send at said
  split at said
  · cases said
    simp [chunksOf, Deed.chunk?]
  · cases said
    rfl

/-- Copying is rounds and a stop. It changes of the source what is to come on it and what was asked
for, and of the sink what was sent and how many sends were tried. -/
theorem Copies.shape {source sink source' sink' : Socket} {copying : List Deed}
    (copies : Copies source sink copying source' sink') :
    ∃ (chunks : List Bytes) (stop : Stop) (rest : List Arrival),
      copying = rounds chunks ++ stop.deeds ∧ (∀ chunk ∈ chunks, chunk ≠ []) ∧
      source' = { source with
        arrivals := rest
        reads := source.reads ++ List.replicate (chunks.length + 1) bufferSize } ∧
      sink' = { sink with
        attempts := sink.attempts + (chunks.length + stop.sends)
        sent := sink.sent ++ chunks } := by
  induction copies with
  | ended found =>
      obtain ⟨rest, rfl⟩ := eq_of_recv found
      exact ⟨[], .ended, rest, rfl, nofun, rfl, by simp [Stop.sends]⟩
  | unread failed =>
      obtain ⟨rest, rfl⟩ := eq_of_recv failed
      exact ⟨[], .unread _, rest, rfl, nofun, rfl, by simp [Stop.sends]⟩
  | unsent found failed =>
      obtain ⟨rest, rfl⟩ := eq_of_recv found
      obtain rfl := eq_of_send failed
      exact ⟨[], .unsent _ _ _, rest, rfl, nofun, rfl, rfl⟩
  | @round _ _ _ _ _ _ b more _ found sent _ ih =>
      obtain ⟨_, rfl⟩ := eq_of_recv found
      obtain rfl := eq_of_send sent
      obtain ⟨chunks, stop, rest, rfl, nonempty, rfl, rfl⟩ := ih
      refine ⟨(b :: more) :: chunks, stop, rest, rfl, ?_, ?_, ?_⟩
      · exact List.forall_mem_cons.mpr ⟨List.cons_ne_nil b more, nonempty⟩
      · simp [List.replicate_succ]
      · simp [chunksOf, Deed.chunk?]
        omega

/-- A direction is rounds, a stop, and the close of the sink for sending. -/
theorem Carries.shape {source sink source' sink' : Socket} {made : List Deed}
    (carries : Carries source sink made source' sink') :
    ∃ (chunks : List Bytes) (stop : Stop) (rest : List Arrival),
      made = rounds chunks ++ stop.deeds ++ [.closed sink.closeFault] ∧
      (∀ chunk ∈ chunks, chunk ≠ []) ∧
      source' = { source with
        arrivals := rest
        reads := source.reads ++ List.replicate (chunks.length + 1) bufferSize } ∧
      sink' = { sink with
        attempts := sink.attempts + (chunks.length + stop.sends)
        sent := sink.sent ++ chunks
        halfCloses := sink.halfCloses + 1 } := by
  obtain ⟨copies, closes⟩ := carries
  obtain ⟨chunks, stop, rest, rfl, nonempty, rfl, rfl⟩ := copies.shape
  cases closes
  exact ⟨chunks, stop, rest, rfl, nonempty, rfl, rfl⟩

/-- Let the sockets report faults of the system only, and let the clock be finite. In the direction
of any label, a pump reads a chunk and sends it, unchanged and before it reads again, until the
source ends or a call fails; then it closes the sending side of its sink, once. It asks for 65536
bytes in each read and makes one read more than it delivers chunks. What it has copied is what it
delivered: a chunk that could not be sent is neither counted nor sent again. Its fault is the first
one among its calls. With statistics just the counter of its direction grows, by what it has
copied. -/
theorem Flow.run_copies_until_stop (label : String) {now : Reading} (finite : now.IsFinite)
    (stats : Option Stats) {source sink : Socket} (orderly : source.Orderly)
    (orderly' : sink.Orderly) {first last : Flow}
    (begun : first = ⟨.fresh, source, sink, stats⟩)
    (ran : first.run (.ofLabel label) now = last) :
    ∃ (chunks : List Bytes) (stop : Stop) (rest : List Arrival),
      first.deeds (.ofLabel label) now =
        rounds chunks ++ stop.deeds ++ [.closed sink.closeFault] ∧
      Carries source sink (first.deeds (.ofLabel label) now) last.source last.sink ∧
      (∀ chunk ∈ chunks, chunk ≠ []) ∧
      last.source = { source with
        arrivals := rest
        reads := source.reads ++ List.replicate (chunks.length + 1) 65536 } ∧
      last.sink = { sink with
        attempts := sink.attempts + (chunks.length + stop.sends)
        sent := sink.sent ++ chunks
        halfCloses := sink.halfCloses + 1 } ∧
      last.pump = ⟨.finished, (chunks.map List.length).sum,
        firstFault? (first.deeds (.ofLabel label) now), none⟩ ∧
      ∀ s, stats = some s → ∃ s', last.stats = some s' ∧
        ∀ c, s'.read c = s.read c + (Direction.ofLabel label).credit last.pump.copied c := by
  subst begun
  obtain ⟨second, finite⟩ := Clock.second_of_isFinite finite
  obtain ⟨made, carries, pump⟩ :=
    Flow.run_carries (.ofLabel label) finite stats orderly orderly'
  have deeds : Flow.deeds (.ofLabel label) now ⟨.fresh, source, sink, stats⟩ = made :=
    Flow.deeds_of_carries finite carries orderly orderly' stats
  rw [ran] at carries pump
  obtain ⟨chunks, stop, rest, shape, nonempty, source', sink'⟩ := carries.shape
  have delivered : chunksOf made = chunks := by
    rw [shape, chunksOf_closed, chunksOf_rounds, Stop.chunksOf_deeds, List.append_nil]
  rw [deeds]
  refine ⟨chunks, stop, rest, shape, carries, nonempty, source', sink', ?_, ?_⟩
  · rw [pump, delivered, List.length_flatten]
  · rintro s rfl
    obtain ⟨chunks', s', sent, counted, grown⟩ :=
      Flow.run_delivers (.ofLabel label) now source sink s
    rw [ran] at sent counted
    rw [sink'] at sent
    obtain rfl := List.append_cancel_left sent
    refine ⟨s', counted, ?_⟩
    intro c
    rw [grown, pump, delivered]
    rfl

/-- Two chunks come in, the second one cannot be sent, and the close fails as well: one chunk is
delivered and counted as received, in two reads, and the fault is that of the send. -/
theorem Flow.run_copies_until_stop_unsent :
    ∃ last, Flow.run (.ofLabel "sideways") (.finite false 0 0)
        ⟨.fresh, .fresh [.data [1], .data [2, 3]] [] none,
          .fresh [] [(1, ⟨.connectionReset, none, "reset"⟩)] (some ⟨.brokenPipe, none, "broken"⟩),
          some (.empty 0)⟩ = last ∧
      last.source.reads = [65536, 65536] ∧ last.sink.sent = [[1]] ∧ last.sink.halfCloses = 1 ∧
      last.pump.copied = 1 ∧ last.pump.fault = some ⟨.connectionReset, none, "reset"⟩ ∧
      ∃ s, last.stats = some s ∧ s.read .received = 1 ∧ s.read .sent = 0 := by
  have source : Socket.Orderly (.fresh [.data [1], .data [2, 3]] [] none) :=
    Socket.orderly_fresh (by simp)
  have sink : Socket.Orderly (.fresh [] [(1, ⟨.connectionReset, none, "reset"⟩)]
      (some ⟨.brokenPipe, none, "broken"⟩)) := by
    refine ⟨nofun, ?_, ?_⟩
    · rintro (_ | _ | n) cause ⟨rfl⟩
      rfl
    · rintro cause ⟨rfl⟩
      rfl
  obtain ⟨chunks, stop, rest, -, -, -, reads, sent, pump, counted⟩ :=
    Flow.run_copies_until_stop "sideways" ⟨false, 0, 0, rfl⟩ (some (.empty 0)) source sink rfl rfl
  obtain rfl : chunks = [[1]] := (congrArg Socket.sent sent).symm
  obtain ⟨s, present, grown⟩ := counted _ rfl
  exact ⟨_, rfl, congrArg Socket.reads reads, congrArg Socket.sent sent,
    congrArg Socket.halfCloses sent, congrArg Pump.copied pump, congrArg Pump.fault pump,
    s, present, grown .received, grown .sent⟩

end SocksTunnel.Relay
