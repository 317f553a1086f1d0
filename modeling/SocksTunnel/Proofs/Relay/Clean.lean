import SocksTunnel.Proofs.Relay.OneWay

/-!
What a summary says of the two directions, whatever fails in them.

A fault of the system ends the copying, and the pump keeps it; any other fault breaks the pump, and
so does a clock that shows no second when a chunk is to be counted. The pump toward the client
breaks in the open. The other one does not, so a relay may return a summary though that direction
has come to no end.

* `Went` — how a direction goes: its calls, the fault that the pump keeps, and what has broken it.
* `Flow.went_of_begun`, `Flow.went_of_fresh` — every run of a pump goes in such a way.
* `Went.clean_iff` — a pump has kept no fault and is not broken just if its calls are clean.
* `outcome_ok_iff` — what a summary says of the calls of both directions.
-/

namespace SocksTunnel.Relay

open SocksTunnel.Text SocksTunnel.Log SocksTunnel.Socks SocksTunnel.Traffic

/-- The calls of a direction are clean: the source was read to its end, no send failed, and the
sending side of the sink was closed without a fault. -/
structure Clean (deeds : List Deed) : Prop where
  ended : .read (.ok []) ∈ deeds
  delivered : ∀ chunk fault, .sent chunk fault ∈ deeds → fault = none
  closed : .closed none ∈ deeds

/-- How a pump comes out of the close: the fault of the close, the fault that the pump keeps, and
what has broken it. It came to the close with the fault `before`. -/
inductive Shut (before : Option Fault) : Option Fault → Option Fault → Option Failure → Prop where
  | well : Shut before none before none
  | badly {cause : Fault} (system : cause.isSystem = true) :
      Shut before (some cause) (before.or (some cause)) none
  | broken {cause : Fault} (other : cause.isSystem = false) :
      Shut before (some cause) before (some (.fault cause))

/-- How a pump goes on from a fault in its copying: the calls, the fault that it keeps, and what has
broken it. It keeps a fault of the system and closes; any other fault breaks it on the spot. -/
inductive Met (cause : Fault) : List Deed → Option Fault → Option Failure → Prop where
  | kept {late fault : Option Fault} {broken : Option Failure} (system : cause.isSystem = true)
      (shut : Shut (some cause) late fault broken) : Met cause [.closed late] fault broken
  | fatal (other : cause.isSystem = false) : Met cause [] none (some (.fault cause))

/-- How a direction goes: its calls, the fault that the pump keeps, and what has broken it. A chunk
may be left uncounted only if it is `uncountable`. -/
inductive Went (uncountable : Prop) : List Deed → Option Fault → Option Failure → Prop where
  | ended {late fault : Option Fault} {broken : Option Failure}
      (shut : Shut none late fault broken) :
      Went uncountable [.read (.ok []), .closed late] fault broken
  | unread {cause : Fault} {deeds : List Deed} {fault : Option Fault} {broken : Option Failure}
      (met : Met cause deeds fault broken) :
      Went uncountable (.read (.error cause) :: deeds) fault broken
  | unsent {b : UInt8} {more : Bytes} {cause : Fault} {deeds : List Deed} {fault : Option Fault}
      {broken : Option Failure} (met : Met cause deeds fault broken) :
      Went uncountable (.read (.ok (b :: more)) :: .sent (b :: more) (some cause) :: deeds)
        fault broken
  | uncounted {b : UInt8} {more : Bytes} {e : ClockError} (fails : uncountable) :
      Went uncountable [.read (.ok (b :: more)), .sent (b :: more) none] none (some (.clock e))
  | round {b : UInt8} {more : Bytes} {deeds : List Deed} {fault : Option Fault}
      {broken : Option Failure} (rest : Went uncountable deeds fault broken) :
      Went uncountable (.read (.ok (b :: more)) :: .sent (b :: more) none :: deeds) fault broken

/-! ### Runs -/

/-- Counting goes wrong only if there is something to count in and the clock has no second. -/
theorem countIn_eq_some {direction : Direction} {now : Reading} {length : Nat}
    {stats : Option Stats} {e : ClockError}
    (failed : (countIn direction now length stats).1 = some e) :
    stats ≠ none ∧ Clock.second now = .error e := by
  cases stats with
  | none => cases failed
  | some s =>
      refine ⟨Option.some_ne_none s, ?_⟩
      cases second : Clock.second now with
      | error e' =>
          cases direction <;> simpa [countIn, countDelivered, Stats.count, second] using failed
      | ok n => cases direction <;> simp [countIn, countDelivered, Stats.count, second] at failed

namespace Flow

variable {direction : Direction} {now : Reading} {uncountable : Prop}

theorem shut_of_closing {f : Flow} {before : Option Fault} (closing : f.pump.stage = .closing)
    (came : f.pump.fault = before) (sound : f.pump.broken = none) :
    Shut before f.sink.closeFault (f.run direction now).pump.fault
      (f.run direction now).pump.broken := by
  subst came
  have done : (f.pump.closed f.sink.halfClose.1).stage = .finished := by
    cases f.sink.halfClose.1 with
    | none => rfl
    | some cause => exact f.pump.stage_meetLate cause
  rw [← run_step, step_of_closing closing, run_of_finished done]
  dsimp only [Socket.halfClose]
  cases f.sink.closeFault with
  | none =>
      rw [Pump.closed, sound]
      exact .well
  | some cause =>
      rw [Pump.closed, Pump.meetLate]
      cases system : cause.isSystem with
      | true =>
          rw [if_pos rfl, sound]
          exact .badly system
      | false =>
          rw [if_neg Bool.false_ne_true]
          exact .broken system

/-- What a fault makes of a pump that copies: one of the system it keeps, and goes on to the close;
any other one breaks it. -/
theorem meet_of_system {cause : Fault} (system : cause.isSystem = true) (p : Pump) :
    p.meet cause = { p with stage := .closing, fault := some cause } := by
  rw [Pump.meet, if_pos system]

theorem meet_of_other {cause : Fault} (other : cause.isSystem = false) (p : Pump) :
    p.meet cause = { p with stage := .finished, broken := some (.fault cause) } := by
  rw [Pump.meet, if_neg (Bool.eq_false_iff.mp other)]

/-- A pump that has come without a fault to the one that it meets. -/
theorem met_of_meet {f : Flow} {p : Pump} {cause : Fault} (meets : f.pump = p.meet cause)
    (whole : p.fault = none) (sound : p.broken = none) :
    Met cause (f.deeds direction now) (f.run direction now).pump.fault
      (f.run direction now).pump.broken := by
  cases system : cause.isSystem with
  | true =>
      rw [meet_of_system system] at meets
      have closing : f.pump.stage = .closing := by rw [meets]
      have came : f.pump.fault = some cause := by rw [meets]
      have sound' : f.pump.broken = none := by rw [meets, sound]
      rw [deeds_of_closing closing]
      exact .kept system (shut_of_closing closing came sound')
  | false =>
      rw [meet_of_other system] at meets
      have finished : f.pump.stage = .finished := by rw [meets]
      rw [deeds_of_finished finished, run_of_finished finished, meets, whole]
      exact .fatal system

/-- Where there are statistics after a step, there were some before it. -/
theorem stats_of_step {f : Flow} (present : (f.step direction now).stats ≠ none) :
    f.stats ≠ none := by
  intro absent
  apply present
  cases stage : f.pump.stage with
  | reading => rw [step_of_reading stage, absent]
  | sending chunk => rw [step_of_sending stage, absent]
  | counting length => rw [step_of_counting stage, absent, countIn]
  | closing => rw [step_of_closing stage, absent]
  | finished => rw [step_of_finished stage, absent]

/-- The calls that a pump without a fault has made in the round that it is in. -/
inductive Begun : Stage → List Deed → Prop where
  | reading : Begun .reading []
  | sending {b : UInt8} {more : Bytes} : Begun (.sending (b :: more)) [.read (.ok (b :: more))]
  | counting {b : UInt8} {more : Bytes} {length : Nat} :
      Begun (.counting length) [.read (.ok (b :: more)), .sent (b :: more) none]
  | closing : Begun .closing [.read (.ok [])]

/-- From within a round without a fault, a pump goes in one of the ways of a direction. -/
theorem went_of_begun {f : Flow} {made : List Deed} (begun : Begun f.pump.stage made)
    (whole : f.pump.fault = none) (sound : f.pump.broken = none)
    (may : ∀ e, f.stats ≠ none → Clock.second now = .error e → uncountable) :
    Went uncountable (made ++ f.deeds direction now) (f.run direction now).pump.fault
      (f.run direction now).pump.broken := by
  -- By what is left for the flow to do; a round goes back to reading, with less to come.
  induction size : f.bound using Nat.strongRecOn generalizing f made with
  | ind n ih =>
      have busy : f.pump.stage ≠ .finished := by
        intro finished
        rw [finished] at begun
        cases begun
      have later (made' : List Deed) (begun' : Begun (f.step direction now).pump.stage made')
          (whole' : (f.step direction now).pump.fault = none)
          (sound' : (f.step direction now).pump.broken = none) :
          Went uncountable (made' ++ (f.step direction now).deeds direction now)
            (f.run direction now).pump.fault (f.run direction now).pump.broken := by
        rw [← run_step]
        exact ih _ (size ▸ bound_step_lt busy) begun' whole' sound'
          (fun e present => may e (stats_of_step present)) rfl
      obtain ⟨⟨stage, copied, fault, broken⟩, source, sink, stats⟩ := f
      obtain rfl : fault = none := whole
      obtain rfl : broken = none := sound
      cases begun with
      | reading =>
          rw [deeds_of_reading rfl]
          rcases found : source.recv bufferSize with ⟨cause | (_ | ⟨b, more⟩), source'⟩
          · rw [← run_step, step_of_recv_fault rfl found]
            exact .unread (met_of_meet rfl rfl rfl)
          · rw [step_of_end rfl found] at later
            exact later _ .closing rfl rfl
          · rw [step_of_data rfl found] at later
            exact later _ .sending rfl rfl
      | @sending b more =>
          rw [deeds_of_sending rfl]
          rcases sent : sink.send (b :: more) with ⟨_ | cause, sink'⟩
          · rw [step_of_sent rfl sent] at later
            exact later _ .counting rfl rfl
          · rw [← run_step, step_of_send_fault rfl sent]
            exact .unsent (met_of_meet rfl rfl rfl)
      | @counting b more length =>
          rw [deeds_step]
          rw [step_of_counting rfl] at later ⊢
          cases counted : (countIn direction now length stats).1 with
          | none =>
              simp only [counted] at later ⊢
              exact .round (later [] .reading rfl rfl)
          | some e =>
              obtain ⟨present, failed⟩ := countIn_eq_some counted
              rw [← run_step, step_of_counting rfl]
              simp only [counted]
              rw [deeds_of_finished rfl, run_of_finished rfl]
              exact .uncounted (may e present failed)
      | closing =>
          rw [deeds_of_closing rfl]
          exact .ended (shut_of_closing rfl rfl rfl)

/-- A fresh pump goes in one of the ways of a direction. -/
theorem went_of_fresh (source sink : Socket) (stats : Option Stats) :
    Went (¬ now.IsFinite ∧ stats ≠ none) (deeds direction now ⟨.fresh, source, sink, stats⟩)
      (run direction now ⟨.fresh, source, sink, stats⟩).pump.fault
      (run direction now ⟨.fresh, source, sink, stats⟩).pump.broken := by
  have begun : Begun (⟨.fresh, source, sink, stats⟩ : Flow).pump.stage [] := .reading
  apply went_of_begun begun rfl rfl
  intro e present failed
  refine ⟨?_, present⟩
  intro finite
  obtain ⟨second, shown⟩ := Clock.second_of_isFinite finite
  rw [shown] at failed
  cases failed

end Flow

/-! ### Ways -/

section Ways

variable {uncountable : Prop} {deeds : List Deed} {fault : Option Fault} {broken : Option Failure}

theorem clean_round_iff {b : UInt8} {more : Bytes} :
    Clean (.read (.ok (b :: more)) :: .sent (b :: more) none :: deeds) ↔ Clean deeds := by
  constructor
  · rintro ⟨ended, delivered, closed⟩
    constructor
    · simpa using ended
    · intro chunk fault sent
      exact delivered chunk fault (List.mem_cons_of_mem _ (List.mem_cons_of_mem _ sent))
    · simpa using closed
  · rintro ⟨ended, delivered, closed⟩
    constructor
    · exact List.mem_cons_of_mem _ (List.mem_cons_of_mem _ ended)
    · intro chunk fault sent
      simp only [List.mem_cons, reduceCtorEq, false_or, Deed.sent.injEq] at sent
      rcases sent with ⟨-, none⟩ | sent
      · exact none
      · exact delivered chunk fault sent
    · exact List.mem_cons_of_mem _ (List.mem_cons_of_mem _ closed)

theorem Shut.sound_iff {before late : Option Fault} (shut : Shut before late fault broken) :
    fault = none ∧ broken = none ↔ before = none ∧ late = none := by
  cases shut with
  | well => simp
  | badly system => cases before <;> simp
  | broken other => simp

theorem Shut.fault_eq_none_iff {before late : Option Fault} (shut : Shut before late fault broken) :
    fault = none ↔
      before = none ∧ ∀ cause, late = some cause → cause.isSystem = false := by
  cases shut with
  | well => simp
  | badly system => cases before <;> simp [system]
  | broken other => simp [other]

theorem Shut.broken_eq_none {before late : Option Fault} (shut : Shut before late fault broken)
    (system : ∀ cause, late = some cause → cause.isSystem = true) : broken = none := by
  cases shut with
  | well => rfl
  | badly => rfl
  | broken other =>
      rw [system _ rfl] at other
      cases other

theorem Met.unsound {cause : Fault} (met : Met cause deeds fault broken) :
    ¬ (fault = none ∧ broken = none) := by
  cases met with
  | kept system shut =>
      rw [shut.sound_iff]
      rintro ⟨⟨⟩, -⟩
  | fatal other =>
      rintro ⟨-, ⟨⟩⟩

theorem Met.fault_eq_none_iff {cause : Fault} (met : Met cause deeds fault broken) :
    fault = none ↔ cause.isSystem = false ∧
      ∀ deed ∈ deeds, ∀ late, deed.fault? = some late → late.isSystem = false := by
  cases met with
  | kept system shut =>
      rw [shut.fault_eq_none_iff]
      simp [system]
  | fatal other => simp [other]

/-- After the fault nothing is read any more. -/
theorem Met.read_notMem {cause : Fault} (met : Met cause deeds fault broken)
    {found : Except Fault Bytes} : .read found ∉ deeds := by
  cases met <;> simp

/-- A pump has kept no fault and is not broken just if its calls are clean. -/
theorem Went.clean_iff (went : Went uncountable deeds fault broken) :
    Clean deeds ↔ fault = none ∧ broken = none := by
  induction went with
  | @ended late fault broken shut =>
      rw [shut.sound_iff]
      constructor
      · rintro ⟨-, -, closed⟩
        simpa [eq_comm] using closed
      · rintro ⟨-, rfl⟩
        constructor
        · exact List.mem_cons_self
        · intro chunk fault sent
          simp at sent
        · exact List.mem_cons_of_mem _ List.mem_cons_self
  | unread met | unsent met =>
      constructor
      · rintro ⟨ended, -, -⟩
        simp [met.read_notMem] at ended
      · intro sound
        exact absurd sound met.unsound
  | uncounted =>
      constructor
      · rintro ⟨ended, -, -⟩
        simp at ended
      · rintro ⟨-, ⟨⟩⟩
  | round rest ih => rw [clean_round_iff, ih]

/-- None of the calls of a clean direction met a fault. -/
theorem Went.fault?_of_clean (went : Went uncountable deeds fault broken) (clean : Clean deeds) :
    ∀ deed ∈ deeds, deed.fault? = none := by
  obtain ⟨whole, sound⟩ := went.clean_iff.mp clean
  clear clean
  induction went with
  | ended shut =>
      obtain ⟨-, rfl⟩ := shut.sound_iff.mp ⟨whole, sound⟩
      simp [Deed.fault?]
  | unread met | unsent met => exact absurd ⟨whole, sound⟩ met.unsound
  | uncounted => cases sound
  | round rest ih =>
      have later := ih whole sound
      exact List.forall_mem_cons.mpr ⟨rfl, List.forall_mem_cons.mpr ⟨rfl, later⟩⟩

/-- A pump has kept no fault just if none of its calls met a fault of the system. -/
theorem Went.fault_eq_none_iff (went : Went uncountable deeds fault broken) :
    fault = none ↔
      ∀ deed ∈ deeds, ∀ cause, deed.fault? = some cause → cause.isSystem = false := by
  induction went with
  | ended shut =>
      rw [shut.fault_eq_none_iff]
      simp [Deed.fault?]
  | unread met | unsent met =>
      rw [met.fault_eq_none_iff]
      simp [Deed.fault?]
  | uncounted fails => simp [Deed.fault?]
  | round rest ih =>
      rw [ih]
      simp [Deed.fault?]

/-- Faults of the system do not break a pump. -/
theorem Went.broken_eq_none (went : Went uncountable deeds fault broken)
    (system : ∀ deed ∈ deeds, ∀ cause, deed.fault? = some cause → cause.isSystem = true)
    (countable : ¬ uncountable) : broken = none := by
  induction went with
  | ended shut =>
      apply shut.broken_eq_none
      simpa [Deed.fault?] using system
  | unread met | unsent met =>
      cases met with
      | kept _ shut =>
          apply shut.broken_eq_none
          intro cause late
          exact system (.closed (some cause)) (by simp [late]) cause rfl
      | fatal other => simp [Deed.fault?, other] at system
  | uncounted fails => exact absurd fails countable
  | round rest ih => exact ih fun deed member => system deed (by simp [member])

end Ways

/-! ### Relays -/

/-- The calls of the two pumps after a handshake that has left the proxy at `outbound`. -/
def dealings (now : Reading) (stats : Option Stats) (inbound outbound : Socket) :
    Direction → List Deed
  | .clientToServer =>
      Flow.deeds .clientToServer now ⟨.fresh, inbound, outbound.setLimit none, stats⟩
  | .serverToClient =>
      let up := (pumps now stats inbound outbound).1
      Flow.deeds .serverToClient now ⟨.fresh, up.sink, up.source, up.stats⟩

/-- What the calls of a relay that returns a summary have come to: the dial and the handshake went
well, the direction to the client is clean, and the one to the server has met no fault of the
system. -/
inductive Succeeds (target : Target) (proxy : Proxy) (now : Reading) (stats : Option Stats)
    (inbound : Socket) : Except Fault Socket → Prop where
  | intro {socket : Socket} {bound : BoundAddress}
      (accepted : (handshake target proxy socket).outcome = .ok bound)
      (down : Clean
        (dealings now stats inbound (handshake target proxy socket).socket .serverToClient))
      (up : ∀ deed ∈
        dealings now stats inbound (handshake target proxy socket).socket .clientToServer,
          ∀ cause, deed.fault? = some cause → cause.isSystem = false) :
      Succeeds target proxy now stats inbound (.ok socket)

section

variable (now : Reading) (stats : Option Stats) (inbound outbound : Socket)

theorem went_up : Went (¬ now.IsFinite ∧ stats ≠ none)
    (dealings now stats inbound outbound .clientToServer)
    (pumps now stats inbound outbound).1.pump.fault
    (pumps now stats inbound outbound).1.pump.broken :=
  Flow.went_of_fresh inbound (outbound.setLimit none) stats

theorem went_down :
    Went (¬ now.IsFinite ∧ (pumps now stats inbound outbound).1.stats ≠ none)
      (dealings now stats inbound outbound .serverToClient)
      (pumps now stats inbound outbound).2.pump.fault
      (pumps now stats inbound outbound).2.pump.broken :=
  Flow.went_of_fresh _ _ _

/-- A direction to the server that has met no fault of the system is clean, if none of its calls met
another fault, and each chunk could be counted. -/
theorem clean_up_of_orderly
    (none : ∀ deed ∈ dealings now stats inbound outbound .clientToServer,
      ∀ cause, deed.fault? = some cause → cause.isSystem = false)
    (system : ∀ deed ∈ dealings now stats inbound outbound .clientToServer,
      ∀ cause, deed.fault? = some cause → cause.isSystem = true)
    (countable : now.IsFinite ∨ stats = .none) :
    Clean (dealings now stats inbound outbound .clientToServer) := by
  have went := went_up now stats inbound outbound
  apply went.clean_iff.mpr
  refine ⟨went.fault_eq_none_iff.mpr none, went.broken_eq_none system ?_⟩
  rintro ⟨infinite, present⟩
  rcases countable with finite | absent
  · exact infinite finite
  · exact present absent

/-- Two pumps give a summary just if neither has kept a fault, and the second one is not broken. -/
theorem outcomeOf_ok_iff (up down : Pump) :
    (∃ summary, outcomeOf up down = .ok summary) ↔
      up.fault = none ∧ down.fault = none ∧ down.broken = none := by
  unfold outcomeOf faultsOf
  cases down.broken with
  | some failure => simp
  | none => cases up.fault <;> cases down.fault <;> simp

/-- What a summary says of the calls of both directions, whatever fails. -/
theorem outcome_ok_iff (target : Target) (proxy : Proxy) (outbound : Except Fault Socket) :
    (∃ summary, (run target proxy now stats inbound outbound).outcome = .ok summary) ↔
      Succeeds target proxy now stats inbound outbound := by
  rcases setUp_cases target proxy outbound with
    ⟨failure, fails⟩ | ⟨socket, bound, rfl, accepted⟩
  · obtain ⟨outcome, -⟩ := untouched_of_setUpFails target proxy now stats inbound fails
    rw [outcome]
    constructor
    · rintro ⟨summary, ⟨⟩⟩
    · rintro ⟨accepted, -, -⟩
      cases fails with
      | refused ended => cases accepted.symm.trans ended
      | interrupted ended => cases accepted.symm.trans ended
      | broken ended => cases accepted.symm.trans ended
  · have up := went_up now stats inbound (handshake target proxy socket).socket
    have down := went_down now stats inbound (handshake target proxy socket).socket
    rw [report_of_accepted target proxy now stats inbound rfl accepted, ← handshake,
      outcomeOf_ok_iff, up.fault_eq_none_iff]
    constructor
    · rintro ⟨quiet, sound⟩
      exact .intro accepted (down.clean_iff.mpr sound) quiet
    · rintro ⟨-, clean, quiet⟩
      exact ⟨quiet, down.clean_iff.mp clean⟩

end

/-! ### Relays without faults, and with faults that are not seen -/

/-- A direction is clean whose source comes to its end and whose sink takes everything. -/
theorem Flow.clean_of_faultless (direction : Direction) {now : Reading} (finite : now.IsFinite)
    (stats : Option Stats) {source sink : Socket} (ends : source.inflow.ending = none)
    (free : sink.SendsFreely) (closes : sink.closeFault = none) :
    Clean (Flow.deeds direction now ⟨.fresh, source, sink, stats⟩) := by
  obtain ⟨second, finite⟩ := Clock.second_of_isFinite finite
  obtain ⟨chunks, rest, reads, -, ran⟩ :=
    Flow.run_fresh_of_faultless direction finite source sink stats ends free closes
  apply (Flow.went_of_fresh source sink stats).clean_iff.mpr
  rw [ran]
  exact ⟨rfl, rfl⟩

/-- A handshake that is accepted leaves a socket without faults as one without faults. -/
theorem faultless_handshake {target : Target} {proxy : Proxy} {outbound : Socket}
    (calm : outbound.Faultless) {bound : BoundAddress}
    (accepted : (handshake target proxy outbound).outcome = .ok bound) :
    (handshake target proxy outbound).socket.Faultless := by
  have free : (outbound.setLimit proxy.handshakeTimeout).SendsFreely := calm.sends
  obtain ⟨replies, payload, rest, reads, attempts, -, -, left, later, held⟩ :=
    Replies.run_of_accepted free accepted
  rw [handshake, held]
  exact ⟨(congrArg Inflow.ending left).trans calm.ending, free.later rfl later, calm.closes⟩

/-- Where nothing fails, the relay succeeds. -/
theorem succeeds_of_faultless {target : Target} {proxy : Proxy} {now : Reading}
    (finite : now.IsFinite) (stats : Option Stats) {inbound outbound : Socket}
    (calm : inbound.Faultless) (calm' : outbound.Faultless) {bound : BoundAddress}
    (accepted : (handshake target proxy outbound).outcome = .ok bound) :
    Succeeds target proxy now stats inbound (.ok outbound) := by
  obtain ⟨second, finite⟩ := Clock.second_of_isFinite finite
  obtain ⟨up, down, -, -, pump, pump', -⟩ :=
    pumps_of_faultless finite stats calm (faultless_handshake calm' accepted)
  apply (outcome_ok_iff now stats inbound target proxy (.ok outbound)).mp
  rw [report_of_accepted target proxy now stats inbound rfl accepted, ← handshake]
  apply (outcomeOf_ok_iff _ _).mpr
  rw [pump, pump']
  exact ⟨rfl, rfl, rfl⟩

/-- If the first read from the client meets a fault that is none of the system, and nothing else
fails, then the relay succeeds, and the direction to the server is not clean. -/
theorem succeeds_of_unreadable {target : Target} {proxy : Proxy} {now : Reading}
    (finite : now.IsFinite) (stats : Option Stats) {inbound outbound : Socket} {cause : Fault}
    {rest : List Arrival} (arrives : inbound.arrivals = .fault cause :: rest)
    (other : cause.isSystem = false) (free : inbound.SendsFreely)
    (closes : inbound.closeFault = none) (calm : outbound.Faultless) {bound : BoundAddress}
    (accepted : (handshake target proxy outbound).outcome = .ok bound) :
    Succeeds target proxy now stats inbound (.ok outbound) ∧
      ¬ Clean (dealings now stats inbound (handshake target proxy outbound).socket
        .clientToServer) := by
  have found : inbound.recv bufferSize =
      (.error cause,
        { inbound with arrivals := rest, reads := inbound.reads ++ [bufferSize] }) := by
    rw [Socket.recv, arrives]
    rfl
  have calm' := faultless_handshake calm accepted
  have up : (pumps now stats inbound (handshake target proxy outbound).socket).1 =
      ⟨⟨.finished, 0, none, some (.fault cause)⟩,
        { inbound with arrivals := rest, reads := inbound.reads ++ [bufferSize] },
        (handshake target proxy outbound).socket.setLimit none, stats⟩ := by
    rw [pumps, ← Flow.run_step, Flow.step_of_recv_fault rfl found, Flow.meet_of_other other,
      Flow.run_of_finished rfl]
    rfl
  have made : dealings now stats inbound (handshake target proxy outbound).socket
      .clientToServer = [.read (.error cause)] := by
    rw [dealings, Flow.deeds_of_reading rfl, found]
    dsimp only [Pump.heard]
    rw [Flow.meet_of_other other, Flow.deeds_of_finished rfl]
  constructor
  · apply Succeeds.intro accepted
    · rw [dealings, up]
      exact Flow.clean_of_faultless .serverToClient finite stats calm'.ending free closes
    · rw [made]
      simp [Deed.fault?, other]
  · rw [made]
    rintro ⟨ended, -, -⟩
    simp at ended

end SocksTunnel.Relay
