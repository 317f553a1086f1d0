import Mathlib.Algebra.BigOperators.Group.List.Basic
import Mathlib.Algebra.Ring.Int.Defs
import Mathlib.Logic.Relation
import SocksTunnel.Proofs.Relay.Delivery
import SocksTunnel.Proofs.Relay.Interleaving
import SocksTunnel.Server

/-!
Any number of handlers at work at the same time, on the same statistics.

A handler counts its connection, sets up the relay, waits while the two pumps work, and counts the
end of the connection when the relay returns or throws. What it does to the statistics are single
operations, and those of all handlers come in any order. The pump toward the proxy is a thread of
its own; it can outlive the handler.

* `Session.Step`, `Floor.Step` — the steps of one handler, and of all of them.
* `Session.share` — what a handler has on the counters: they are credited with a chunk when it is
  counted, not when it is sent.
* `Session.Step.balanced`, `Floor.Step.balanced` — a step changes the counters by what it changes
  of that share.
* `Floor.Balanced.reaches`, `Floor.Balanced.conserved` — so wherever the floor gets to, the counters
  are the sum of the shares, and show what the handlers have done.
-/

namespace SocksTunnel

open SocksTunnel.Text SocksTunnel.Relay SocksTunnel.Traffic SocksTunnel.Socks

/-! ### One handler -/

/-- What a dialled socket is left at by the handshake, or the failure of the dial or of the
handshake. -/
def Relay.prepared (target : Target) (proxy : Proxy) : Except Fault Socket → Except Failure Socket
  | .error cause => .error (dialFailure proxy cause)
  | .ok socket =>
      let held := (connect target proxy.credential).run (socket.setLimit proxy.handshakeTimeout)
      match held.outcome with
      | .error cause => .error (handshakeFailure cause)
      | .ok _ => .ok held.socket

/-- A connection whose handler was started: what it came as, the link between the two sockets once
the relay is set up, and how the relay went once the handler has counted its end. -/
structure Session where
  incoming : Incoming
  link : Option Link
  outcome : Option (Except Failure Summary)

/-- Links that have done the same: what is still to come on their sockets may differ. -/
structure Relay.Link.SamePast (l m : Link) : Prop where
  pump : ∀ direction, m.pump direction = l.pump direction
  sent : ∀ direction, (m.sink direction).sent = (l.sink direction).sent

namespace Session

section Steps

variable (target : Target) (proxy : Proxy)

/-- The steps of a session, with the statistics before and after them. -/
inductive Step : Session → Stats → Session → Stats → Prop where
  /-- The relay cannot be set up, and the handler leaves. -/
  | refused {s : Session} {stats : Stats} {failure : Failure} (idle : s.link = none)
      (working : s.outcome = none)
      (failed : prepared target proxy s.incoming.outbound = .error failure) :
      Step s stats { s with outcome := some (.error failure) } (stats.ended true)
  | opened {s : Session} {stats : Stats} {far : Socket} (idle : s.link = none)
      (working : s.outcome = none) (held : prepared target proxy s.incoming.outbound = .ok far) :
      Step s stats { s with link := some (.opened s.incoming.inbound far) } stats
  /-- A pump takes a step, whatever the clock shows. The one toward the client runs in the handler,
  and stops when the handler leaves. -/
  | turned {s : Session} {stats stats' : Stats} {link link' : Link} {now : Reading}
      {direction : Direction} (linked : s.link = some link)
      (running : s.outcome = none ∨ direction = .clientToServer)
      (turn : (⟨link, some stats⟩ : Exchange).turn now direction = ⟨link', some stats'⟩) :
      Step s stats { s with link := some link' } stats'
  /-- What is to come on the sockets changes, because one was closed or for another reason. -/
  | disturbed {s : Session} {stats : Stats} {link link' : Link} (linked : s.link = some link)
      (past : link.SamePast link') : Step s stats { s with link := some link' } stats
  /-- The pump in the handler has come to its end. The handler waits for the other one, unless a
  failure has broken its own. -/
  | returned {s : Session} {stats : Stats} {link : Link} (linked : s.link = some link)
      (working : s.outcome = none) (down : link.down.stage = .finished)
      (joined : link.down.broken = none → link.up.stage = .finished) :
      Step s stats { s with outcome := some (outcomeOf link.up link.down) }
        (stats.ended (isFailure (outcomeOf link.up link.down)))
  /-- Something that nobody has foreseen is thrown in the handler. -/
  | thrown {s : Session} {stats : Stats} {failure : Failure} (working : s.outcome = none) :
      Step s stats { s with outcome := some (.error failure) } (stats.ended true)

/-! ### What a handler has delivered and counted -/

/-- The chunks that are on the socket a direction sends to before the pumps begin. -/
def before (s : Session) : Direction → List Bytes
  | .clientToServer => preface target proxy s.incoming.outbound
  | .serverToClient => s.incoming.inbound.sent

/-- The chunks that a pump has delivered. -/
def delivered (direction : Direction) (s : Session) : List Bytes :=
  s.link.elim [] fun link => (link.sink direction).sent.drop (s.before target proxy direction).length

/-- The chunk that a pump has delivered and still has to count, if there is one. -/
def uncounted (direction : Direction) (s : Session) : List Bytes :=
  s.link.elim [] fun link =>
    match (link.pump direction).stage with
    | .counting _ => (s.delivered target proxy direction).getLast?.toList
    | _ => []

/-- The bytes that a session has counted in a direction. -/
def credited (direction : Direction) (s : Session) : Int :=
  volume (s.delivered target proxy direction) - volume (s.uncounted target proxy direction)

/-- What a session has on a counter. -/
def share (c : Counter) (s : Session) : Int :=
  c.atStart + s.outcome.elim 0 (fun outcome => c.atEnd (isFailure outcome)) +
    Direction.clientToServer.credit (s.credited target proxy .clientToServer) c +
    Direction.serverToClient.credit (s.credited target proxy .serverToClient) c

/-- The chunks of each pump stand behind those that were there before, and at most the last one is
not counted. -/
def Sound (s : Session) : Prop :=
  ∀ link, s.link = some link → ∀ direction, ∃ counted pending,
    (link.flow none direction).Delivered (s.before target proxy direction) counted pending

end Steps

variable {target : Target} {proxy : Proxy} {s s' : Session} {stats stats' : Stats}

theorem delivered_of_unlinked (idle : s.link = none) (direction : Direction) :
    s.delivered target proxy direction = [] := by
  rw [delivered, idle]
  rfl

theorem uncounted_of_unlinked (idle : s.link = none) (direction : Direction) :
    s.uncounted target proxy direction = [] := by
  rw [uncounted, idle]
  rfl

section Linked

variable {link : Link} {direction : Direction} {counted pending : List Bytes}

/-- In a session that is sound, the two lists are the chunks delivered and the one to be counted. -/
theorem delivered_of_linked (linked : s.link = some link)
    (sound : (link.flow none direction).Delivered (s.before target proxy direction) counted
      pending) : s.delivered target proxy direction = counted ++ pending := by
  have sent : (link.sink direction).sent =
      s.before target proxy direction ++ counted ++ pending := sound.sent
  rw [delivered, linked]
  simp [sent]

theorem uncounted_of_linked (linked : s.link = some link)
    (sound : (link.flow none direction).Delivered (s.before target proxy direction) counted
      pending) : s.uncounted target proxy direction = pending := by
  have chunks := delivered_of_linked linked sound
  have awaits : (link.pump direction).stage.Awaits pending := sound.awaits
  rw [uncounted, linked]
  cases stage : (link.pump direction).stage with
  | counting length =>
      rw [stage] at awaits
      obtain ⟨chunk, rfl, -⟩ := awaits
      simp [stage, chunks]
  | reading | sending | closing | finished =>
      rw [stage] at awaits
      simp only [Option.elim_some, stage]
      exact awaits.symm

theorem credited_of_linked (linked : s.link = some link)
    (sound : (link.flow none direction).Delivered (s.before target proxy direction) counted
      pending) : s.credited target proxy direction = volume counted := by
  rw [credited, delivered_of_linked linked sound, uncounted_of_linked linked sound, volume_append,
    Int.add_sub_cancel]

/-- The same, for the link that a session is given. -/
theorem credited_relinked (sound : (link.flow none direction).Delivered
    (s.before target proxy direction) counted pending) :
    credited target proxy direction { s with link := some link } = volume counted :=
  credited_of_linked (s := { s with link := some link }) rfl sound

end Linked

/-- At most the last chunk is not counted. -/
theorem Sound.split (sound : s.Sound target proxy) (direction : Direction) :
    ∃ counted, s.delivered target proxy direction =
        counted ++ s.uncounted target proxy direction ∧
      (s.uncounted target proxy direction).length ≤ 1 := by
  cases linked : s.link with
  | none =>
      refine ⟨[], ?_⟩
      simp [delivered_of_unlinked linked, uncounted_of_unlinked linked]
  | some link =>
      obtain ⟨counted, pending, delivered⟩ := sound link linked direction
      rw [delivered_of_linked linked delivered,
        uncounted_of_linked linked delivered]
      exact ⟨counted, rfl, delivered.awaits.length_le⟩

/-! ### A step of a handler -/

section Relinked

variable {link : Link}

/-- A session whose link has changed so that `n` more bytes are counted in a direction. -/
theorem share_relinked {n : Int} (direction : Direction)
    (own : credited target proxy direction { s with link := some link } =
      s.credited target proxy direction + n)
    (other : credited target proxy direction.other { s with link := some link } =
      s.credited target proxy direction.other) (c : Counter) :
    share target proxy c { s with link := some link } =
      s.share target proxy c + direction.credit n c := by
  simp only [share]
  cases direction with
  | clientToServer =>
      rw [Direction.other] at other
      rw [own, other, Direction.credit_add]
      omega
  | serverToClient =>
      rw [Direction.other] at other
      rw [own, other, Direction.credit_add]
      omega

theorem share_relinked_same
    (same : ∀ direction, credited target proxy direction { s with link := some link } =
      s.credited target proxy direction) (c : Counter) :
    share target proxy c { s with link := some link } = s.share target proxy c := by
  rw [share, share, same, same]

end Relinked

/-- The end of a session counts once. -/
theorem share_of_left (working : s.outcome = none) (outcome : Except Failure Summary)
    (c : Counter) :
    share target proxy c { s with outcome := some outcome } =
      s.share target proxy c + c.atEnd (isFailure outcome) := by
  have same (direction : Direction) :
      credited target proxy direction { s with outcome := some outcome } =
        s.credited target proxy direction := rfl
  rw [share, share, same, same, working]
  simp only [Option.elim_some, Option.elim_none]
  omega

/-- The frames of the handshake are what a prepared socket has sent. -/
theorem sent_of_prepared {outbound : Except Fault Socket} {far : Socket}
    (held : prepared target proxy outbound = .ok far) :
    far.sent = preface target proxy outbound := by
  cases outbound with
  | error cause => cases held
  | ok socket =>
      simp only [prepared] at held
      split at held
      · cases held
      · cases held
        rfl

/-- A link that was just opened has delivered nothing. -/
theorem delivered_opened {far : Socket}
    (held : prepared target proxy s.incoming.outbound = .ok far) (direction : Direction) :
    ((Link.opened s.incoming.inbound far).flow none direction).Delivered
      (s.before target proxy direction) [] [] := by
  cases direction with
  | clientToServer =>
      refine ⟨?_, rfl⟩
      rw [before, ← sent_of_prepared held, List.append_nil, List.append_nil]
      rfl
  | serverToClient =>
      refine ⟨?_, rfl⟩
      rw [before, List.append_nil, List.append_nil]
      rfl

section Balanced

variable {link link' : Link}

theorem balanced_of_opened {far : Socket} (idle : s.link = none)
    (held : prepared target proxy s.incoming.outbound = .ok far) :
    Sound target proxy { s with link := some (.opened s.incoming.inbound far) } ∧
      ∀ c, share target proxy c { s with link := some (.opened s.incoming.inbound far) } =
        s.share target proxy c := by
  have fresh := delivered_opened held
  constructor
  · intro link linked direction
    cases linked
    exact ⟨[], [], fresh direction⟩
  · apply share_relinked_same
    intro direction
    rw [credited_relinked (fresh direction), credited, delivered_of_unlinked idle,
      uncounted_of_unlinked idle]
    rfl

theorem balanced_of_past (sound : s.Sound target proxy) (linked : s.link = some link)
    (past : link.SamePast link') :
    Sound target proxy { s with link := some link' } ∧
      ∀ c, share target proxy c { s with link := some link' } = s.share target proxy c := by
  have moved (direction : Direction) : ∃ counted pending,
      (link.flow none direction).Delivered (s.before target proxy direction) counted pending ∧
        (link'.flow none direction).Delivered (s.before target proxy direction) counted
          pending := by
    obtain ⟨counted, pending, sent, awaits⟩ := sound link linked direction
    refine ⟨counted, pending, ⟨sent, awaits⟩, (past.sent direction).trans sent, ?_⟩
    have stage : (link'.pump direction).stage.Awaits pending := by
      rw [past.pump]
      exact awaits
    exact stage
  constructor
  · intro link'' linked' direction
    cases linked'
    obtain ⟨counted, pending, -, delivered'⟩ := moved direction
    exact ⟨counted, pending, delivered'⟩
  · apply share_relinked_same
    intro direction
    obtain ⟨counted, pending, delivered, delivered'⟩ := moved direction
    rw [credited_of_linked linked delivered, credited_relinked delivered']

/-- A turn of one pump leaves what the other one has on the counters as it is. -/
theorem balanced_of_turn {now : Reading} {direction : Direction} (sound : s.Sound target proxy)
    (linked : s.link = some link)
    (turn : (⟨link, some stats⟩ : Exchange).turn now direction = ⟨link', some stats'⟩) :
    Sound target proxy { s with link := some link' } ∧
      ∀ c, stats'.read c + s.share target proxy c =
        stats.read c + share target proxy c { s with link := some link' } := by
  obtain ⟨counted, pending, own⟩ := sound link linked direction
  obtain ⟨others, waiting, other⟩ := sound link linked direction.other
  -- The lists of a flow do not depend on the statistics that it carries.
  have flow : ((⟨link, some stats⟩ : Exchange).flow direction).Delivered
      (s.before target proxy direction) counted pending := ⟨own.sent, own.awaits⟩
  have flow' : ((⟨link, some stats⟩ : Exchange).flow direction.other).Delivered
      (s.before target proxy direction.other) others waiting := ⟨other.sent, other.awaits⟩
  obtain ⟨counted', pending', stats'', stepped, present, grown⟩ := flow.step direction now rfl
  have left := flow'.of_lane (Exchange.lane_turn_other now direction _).symm
  rw [← Exchange.flow_turn, turn] at stepped present
  rw [turn] at left
  cases present
  have own' : (link'.flow none direction).Delivered (s.before target proxy direction) counted'
      pending' := ⟨stepped.sent, stepped.awaits⟩
  have other' : (link'.flow none direction.other).Delivered
      (s.before target proxy direction.other) others waiting := ⟨left.sent, left.awaits⟩
  constructor
  · intro link'' linked' direction'
    cases linked'
    rcases direction.eq_or_eq_other direction' with same | different
    · rw [same]
      exact ⟨counted', pending', own'⟩
    · rw [different]
      exact ⟨others, waiting, other'⟩
  · intro c
    have more : credited target proxy direction { s with link := some link' } =
        s.credited target proxy direction + (volume counted' - volume counted) := by
      rw [credited_relinked own', credited_of_linked linked own]
      omega
    have same : credited target proxy direction.other { s with link := some link' } =
        s.credited target proxy direction.other := by
      rw [credited_relinked other', credited_of_linked linked other]
    rw [grown, share_relinked direction more same]
    omega

/-- A step keeps a session sound, and changes the counters by what it changes of the share. -/
theorem Step.balanced (step : Step target proxy s stats s' stats') (sound : s.Sound target proxy) :
    s'.Sound target proxy ∧
      ∀ c, stats'.read c + s.share target proxy c = stats.read c + s'.share target proxy c := by
  have leaves (working : s.outcome = none) (outcome : Except Failure Summary) (c : Counter) :
      (stats.ended (isFailure outcome)).read c + s.share target proxy c =
        stats.read c + share target proxy c { s with outcome := some outcome } := by
    rw [share_of_left working, Stats.read_ended]
    omega
  cases step with
  | @refused failure idle working failed => exact ⟨sound, leaves working (.error failure)⟩
  | opened idle working held =>
      obtain ⟨sound', same⟩ := balanced_of_opened idle held
      refine ⟨sound', ?_⟩
      intro c
      rw [same]
  | turned linked running turn => exact balanced_of_turn sound linked turn
  | disturbed linked past =>
      obtain ⟨sound', same⟩ := balanced_of_past sound linked past
      refine ⟨sound', ?_⟩
      intro c
      rw [same]
  | returned linked working down joined => exact ⟨sound, leaves working _⟩
  | @thrown failure working => exact ⟨sound, leaves working (.error failure)⟩

end Balanced

end Session

/-! ### All handlers -/

/-- All sessions there ever were, the latest one last, and the statistics that they share. -/
structure Floor where
  sessions : List Session
  stats : Stats

namespace Floor

section Steps

variable (target : Target) (proxy : Proxy)

/-- A step of the floor: a handler is started and counts its connection, or one of them takes a
step of its own. -/
inductive Step : Floor → Floor → Prop where
  | arrived (floor : Floor) (incoming : Incoming) :
      Step floor ⟨floor.sessions ++ [⟨incoming, none, none⟩], floor.stats.started⟩
  | moved (before after : List Session) {s s' : Session} {stats stats' : Stats}
      (step : s.Step target proxy stats s' stats') :
      Step ⟨before ++ s :: after, stats⟩ ⟨before ++ s' :: after, stats'⟩

/-- What can come of a floor, by any number of steps in any order. -/
abbrev Reaches : Floor → Floor → Prop := Relation.ReflTransGen (Step target proxy)

/-- All sessions are sound, and the counters are the sum of their shares. -/
structure Balanced (floor : Floor) : Prop where
  sound : ∀ s ∈ floor.sessions, s.Sound target proxy
  counters : ∀ c, floor.stats.read c = (floor.sessions.map (Session.share target proxy c)).sum

/-- What the counters show, in terms of the sessions. -/
structure Conserved (floor : Floor) : Prop where
  active : floor.stats.active = floor.sessions.countP fun s => s.outcome.isNone
  total : floor.stats.total =
    floor.stats.active + floor.sessions.countP fun s => s.outcome.isSome
  failed : floor.stats.failed = floor.sessions.countP fun s => s.outcome.any isFailure
  failed_le : floor.stats.failed ≤ floor.stats.total - floor.stats.active
  sent : floor.stats.sent =
    (floor.sessions.map fun s => volume (s.delivered target proxy .clientToServer)).sum -
      (floor.sessions.map fun s => volume (s.uncounted target proxy .clientToServer)).sum
  received : floor.stats.received =
    (floor.sessions.map fun s => volume (s.delivered target proxy .serverToClient)).sum -
      (floor.sessions.map fun s => volume (s.uncounted target proxy .serverToClient)).sum
  /-- The chunk that is not counted yet is the last one delivered, and there is at most one. -/
  uncounted : ∀ s ∈ floor.sessions, ∀ direction, ∃ counted,
    s.delivered target proxy direction = counted ++ s.uncounted target proxy direction ∧
      (s.uncounted target proxy direction).length ≤ 1

end Steps

variable {target : Target} {proxy : Proxy} {floor floor' : Floor}

/-! ### A step of the floor -/

theorem balanced_empty (begun : Int) : Balanced target proxy ⟨[], .empty begun⟩ where
  sound := by simp
  counters := by simp

theorem Balanced.arrived (balanced : floor.Balanced target proxy) (incoming : Incoming) :
    Balanced target proxy ⟨floor.sessions ++ [⟨incoming, none, none⟩], floor.stats.started⟩ where
  sound := by
    intro s there
    rcases List.mem_append.mp there with old | new
    · exact balanced.sound s old
    · cases List.mem_singleton.mp new
      intro link linked
      cases linked
  counters := by
    intro c
    rw [Stats.read_started, balanced.counters, List.map_append, List.sum_append]
    simp [Session.share, Session.credited, Session.delivered, Session.uncounted]

theorem Balanced.moved {before after : List Session} {s s' : Session} {stats stats' : Stats}
    (balanced : Balanced target proxy ⟨before ++ s :: after, stats⟩)
    (step : s.Step target proxy stats s' stats') :
    Balanced target proxy ⟨before ++ s' :: after, stats'⟩ := by
  obtain ⟨sound, counters⟩ := balanced
  obtain ⟨sound', grown⟩ := step.balanced (sound s (by simp))
  constructor
  · intro t there
    rcases List.mem_append.mp there with front | back
    · exact sound t (List.mem_append_left _ front)
    · rcases List.mem_cons.mp back with rfl | behind
      · exact sound'
      · exact sound t (List.mem_append_right _ (List.mem_cons_of_mem _ behind))
  · intro c
    have whole := counters c
    have part := grown c
    simp only [List.map_append, List.map_cons, List.sum_append, List.sum_cons] at whole ⊢
    omega

theorem Step.balanced (step : Step target proxy floor floor')
    (balanced : floor.Balanced target proxy) : floor'.Balanced target proxy := by
  cases step with
  | arrived => exact balanced.arrived _
  | moved before after step => exact balanced.moved step

theorem Balanced.reaches (balanced : floor.Balanced target proxy)
    (reaches : Reaches target proxy floor floor') : floor'.Balanced target proxy := by
  induction reaches with
  | refl => exact balanced
  | tail _ step ih => exact step.balanced ih

/-! ### What the counters show -/

theorem sum_indicator (p : Session → Bool) (sessions : List Session) :
    (sessions.map fun s => if p s then (1 : Int) else 0).sum = sessions.countP p := by
  induction sessions with
  | nil => rfl
  | cons s rest ih =>
      rw [List.map_cons, List.sum_cons, ih]
      by_cases holds : p s = true
      · rw [if_pos holds, List.countP_cons_of_pos holds]
        omega
      · rw [if_neg holds, List.countP_cons_of_neg holds]
        omega

/-- The shares of the counters that count connections. -/
theorem share_active (s : Session) :
    s.share target proxy .active = if s.outcome.isNone then 1 else 0 := by
  rcases s with ⟨incoming, link, _ | outcome⟩ <;>
    simp [Session.share, Counter.atStart, Counter.atEnd, Direction.credit]

theorem share_total (s : Session) : s.share target proxy .total = 1 := by
  rcases s with ⟨incoming, link, _ | outcome⟩ <;>
    simp [Session.share, Counter.atStart, Counter.atEnd, Direction.credit]

theorem share_failed (s : Session) :
    s.share target proxy .failed = if s.outcome.any isFailure then 1 else 0 := by
  rcases s with ⟨incoming, link, _ | outcome⟩ <;>
    simp [Session.share, Counter.atStart, Counter.atEnd, Direction.credit]

/-- The shares of the counters that count bytes. -/
theorem share_sent (s : Session) :
    s.share target proxy .sent = s.credited target proxy .clientToServer := by
  rcases s with ⟨incoming, link, _ | outcome⟩ <;>
    simp [Session.share, Counter.atStart, Counter.atEnd, Direction.credit]

theorem share_received (s : Session) :
    s.share target proxy .received = s.credited target proxy .serverToClient := by
  rcases s with ⟨incoming, link, _ | outcome⟩ <;>
    simp [Session.share, Counter.atStart, Counter.atEnd, Direction.credit]

theorem sum_credited (direction : Direction) (sessions : List Session) :
    (sessions.map (Session.credited target proxy direction)).sum =
      (sessions.map fun s => volume (s.delivered target proxy direction)).sum -
        (sessions.map fun s => volume (s.uncounted target proxy direction)).sum := by
  rw [eq_sub_iff_add_eq, ← List.sum_map_add]
  congr 1
  apply List.map_congr_left
  intro s there
  rw [Session.credited, Int.sub_add_cancel]

/-- A counter that each session has at most one on shows how many have. -/
theorem Balanced.count (balanced : floor.Balanced target proxy) {c : Counter} {p : Session → Bool}
    (share : ∀ s : Session, s.share target proxy c = if p s then 1 else 0) :
    floor.stats.read c = floor.sessions.countP p := by
  rw [balanced.counters, funext share, sum_indicator]

theorem Balanced.volume (balanced : floor.Balanced target proxy) {c : Counter}
    {direction : Direction}
    (share : ∀ s : Session, s.share target proxy c = s.credited target proxy direction) :
    floor.stats.read c =
      (floor.sessions.map fun s => Relay.volume (s.delivered target proxy direction)).sum -
        (floor.sessions.map fun s => Relay.volume (s.uncounted target proxy direction)).sum := by
  rw [balanced.counters, funext share, ← sum_credited]

theorem Balanced.conserved (balanced : floor.Balanced target proxy) :
    floor.Conserved target proxy := by
  have active := balanced.count share_active
  have total := balanced.count (c := .total) (p := fun _ => true) share_total
  have failed := balanced.count share_failed
  -- Each session works or has come to its end.
  have parts := List.length_eq_countP_add_countP (fun s : Session => s.outcome.isNone)
    (l := floor.sessions)
  have ended : (floor.sessions.countP fun s => ¬ s.outcome.isNone) =
      floor.sessions.countP fun s => s.outcome.isSome := by
    congr 1
    funext s
    cases s.outcome <;> rfl
  have fewer : (floor.sessions.countP fun s => s.outcome.any isFailure) ≤
      floor.sessions.countP fun s => s.outcome.isSome := by
    apply List.countP_mono_left
    intro s there failed
    cases outcome : s.outcome with
    | none => simp [outcome] at failed
    | some outcome => rfl
  simp only [Stats.read, List.countP_true] at active total failed
  exact {
    active
    total := by omega
    failed
    failed_le := by omega
    sent := balanced.volume share_sent
    received := balanced.volume share_received
    uncounted := fun s there direction => (balanced.sound s there).split direction }

end Floor

end SocksTunnel
