import SocksTunnel.Proofs.Socks.Verdict

/-!
What a dialogue does on a socket, act by act: each send and each read, with what came of it.

* `Dialogue.acted_acts` — the acts lead the socket to where the run leaves it.
* `Dialogue.outcome_of_bad`, `Dialogue.verdict_of_ok` — what was heard in all the acts decides the
  outcome, and a run with a result has heard nothing else.
* `Dialogue.fits_acts` — an act takes place only while the dialogue waits for the rest of a frame. A
  read asks for no more than that rest, and an act that fails is the last one and gives the outcome.
* `Dialogue.cuesIn_acts`, `Dialogue.sent_run`, `Dialogue.sent_of_ok` — the frames go out as the cues
  of the dialogue have them, and all of them where there is a result.
-/

namespace SocksTunnel.Socks

open SocksTunnel.Text

/-- A send or a read on a socket, with what came of it. -/
inductive Act where
  | send (frame : Bytes) (fault : Option Fault)
  | recv (size : Nat) (found : Except Fault Bytes)

/-- Acts that lead from one socket to another. -/
inductive Acted : Socket → List Act → Socket → Prop where
  | nil {s : Socket} : Acted s [] s
  | send {s s' t : Socket} {frame : Bytes} {fault : Option Fault} {acts : List Act}
      (here : s.send frame = (fault, s')) (after : Acted s' acts t) :
      Acted s (.send frame fault :: acts) t
  | recv {s s' t : Socket} {size : Nat} {found : Except Fault Bytes} {acts : List Act}
      (here : s.recv size = (found, s')) (after : Acted s' acts t) :
      Acted s (.recv size found :: acts) t

theorem Acted.append {s t u : Socket} {acts acts' : List Act} (first : Acted s acts t)
    (second : Acted t acts' u) : Acted s (acts ++ acts') u := by
  induction first with
  | nil => exact second
  | send here _ ih => exact .send here (ih second)
  | recv here _ ih => exact .recv here (ih second)

/-- Acts on a socket that reports faults of the system only leave it so. -/
theorem Acted.orderly {s t : Socket} {acts : List Act} (acted : Acted s acts t)
    (orderly : s.Orderly) : t.Orderly := by
  induction acted with
  | nil => exact orderly
  | @send s s' t frame fault acts here after ih =>
      have left := (orderly.send frame).2
      rw [here] at left
      exact ih left
  | @recv s s' t size found acts here after ih =>
      have left := (orderly.recv size).2
      rw [here] at left
      exact ih left

namespace Act

/-- The bytes that came in with an act. -/
def heard : Act → Bytes
  | recv _ (.ok bytes) => bytes
  | _ => []

/-- How the stream ended, if it ended in an act. -/
def ending? : Except Fault Bytes → Option (Option Fault)
  | .error cause => some (some cause)
  | .ok [] => some none
  | .ok (_ :: _) => none

end Act

/-- The bytes that came in with acts. -/
def received (acts : List Act) : Bytes := acts.flatMap Act.heard

@[simp] theorem received_nil : received [] = [] := rfl

@[simp] theorem received_send (frame : Bytes) (fault : Option Fault) (acts : List Act) :
    received (.send frame fault :: acts) = received acts := rfl

@[simp] theorem received_ok (size : Nat) (bytes : Bytes) (acts : List Act) :
    received (.recv size (.ok bytes) :: acts) = bytes ++ received acts := rfl

@[simp] theorem received_error (size : Nat) (cause : Fault) (acts : List Act) :
    received (.recv size (.error cause) :: acts) = received acts := rfl

@[simp] theorem received_append (acts acts' : List Act) :
    received (acts ++ acts') = received acts ++ received acts' := List.flatMap_append

/-- The frames in acts, each with all that was heard before it, `heard` to begin with. -/
def cuesIn : Bytes → List Act → List (Bytes × Bytes)
  | _, [] => []
  | heard, .send frame _ :: acts => (heard, frame) :: cuesIn heard acts
  | heard, act@(.recv ..) :: acts => cuesIn (heard ++ act.heard) acts

theorem cuesIn_append (heard : Bytes) (acts acts' : List Act) :
    cuesIn heard (acts ++ acts') = cuesIn heard acts ++ cuesIn (heard ++ received acts) acts' := by
  induction acts generalizing heard with
  | nil => rw [List.nil_append, received_nil, List.append_nil, cuesIn, List.nil_append]
  | cons act acts ih =>
      cases act with
      | send frame fault => exact congrArg _ (ih heard)
      | recv size found =>
          refine (ih _).trans ?_
          rw [List.append_assoc]
          rfl

/-- The frames in acts. -/
def said (acts : List Act) : List Bytes := (cuesIn [] acts).map Prod.snd

/-- A list that is cut in front of one of its members is cut in its first or its second part. -/
theorem cut_of_append_eq {α : Type} {xs ys before after : List α} {a : α}
    (h : xs ++ ys = before ++ a :: after) :
    (∃ after', xs = before ++ a :: after' ∧ after = after' ++ ys) ∨
    (∃ before', before = xs ++ before' ∧ ys = before' ++ a :: after) := by
  rcases List.append_eq_append_iff.mp h with ⟨before', split, rest⟩ | ⟨rest, split, rest'⟩
  · exact .inr ⟨before', split, rest⟩
  · cases rest with
    | nil => exact .inr ⟨[], by rw [split, List.append_nil, List.append_nil], rest'.symm⟩
    | cons b rest =>
        cases rest'
        exact .inl ⟨rest, split, rfl⟩

/-! ### Reads of one frame -/

/-- The reads of a frame of `size` bytes, `got` being there. -/
def readActs (size : Nat) (got : Bytes) (s : Socket) : List Act :=
  if got.length < size then
    match s.recv (size - got.length) with
    | (.error cause, _) => [.recv (size - got.length) (.error cause)]
    | (.ok [], _) => [.recv (size - got.length) (.ok [])]
    | (.ok (b :: more), s) =>
        .recv (size - got.length) (.ok (b :: more)) :: readActs size (got ++ b :: more) s
  else []
termination_by size - got.length
decreasing_by simp only [List.length_append, List.length_cons]; omega

/-- A frame is read piece by piece until it is there or the stream ends. -/
inductive Reads (size : Nat) :
    Bytes → Socket → List Act → Except Breakdown Bytes × Socket → Prop where
  | whole {got : Bytes} {s : Socket} (full : size ≤ got.length) : Reads size got s [] (.ok got, s)
  | piece {got more : Bytes} {b : UInt8} {s s' : Socket} {acts : List Act}
      {result : Except Breakdown Bytes × Socket} (missing : got.length < size)
      (here : s.recv (size - got.length) = (.ok (b :: more), s'))
      (fits : (got ++ b :: more).length ≤ size) (flow : s.inflow = s'.inflow.prepend (b :: more))
      (after : Reads size (got ++ b :: more) s' acts result) :
      Reads size got s (.recv (size - got.length) (.ok (b :: more)) :: acts) result
  | stop {got : Bytes} {s t : Socket} {found : Except Fault Bytes} {ending : Option Fault}
      (missing : got.length < size) (here : s.recv (size - got.length) = (found, t))
      (ended : Act.ending? found = some ending) :
      Reads size got s [.recv (size - got.length) found]
        (.error (cutShort got.length size ending), t)

theorem reads_readOn (size : Nat) (got : Bytes) (s : Socket) :
    Reads size got s (readActs size got s) (readOn size got s) := by
  induction rest : size - got.length using Nat.strongRecOn generalizing got s with
  | ind n ih =>
      rw [readActs, readOn]
      split
      case isFalse full => exact .whole (Nat.not_lt.mp full)
      case isTrue missing =>
        rcases s.recv_cases (Nat.sub_pos_of_lt missing) with
          ⟨b, more, rest', found, short, flow⟩ | ⟨rest', found, -⟩ | ⟨cause, rest', found, -⟩
        · have fits : (got ++ b :: more).length ≤ size := by
            simp only [List.length_append, List.length_cons]
            omega
          have after := ih (size - (got ++ b :: more).length)
            (by simp only [List.length_append, List.length_cons]; omega) (got ++ b :: more)
            { s with arrivals := rest', reads := s.reads ++ [size - got.length] } rfl
          rw [found]
          exact .piece missing found fits flow after
        · have stop := Reads.stop missing found (rfl : Act.ending? (.ok []) = some none)
          rw [found]
          exact stop
        · have stop := Reads.stop missing found
            (rfl : Act.ending? (.error cause) = some (some cause))
          rw [found]
          exact stop

namespace Reads

variable {size : Nat} {got : Bytes} {s : Socket} {acts : List Act}
  {result : Except Breakdown Bytes × Socket}

theorem acted (reads : Reads size got s acts result) : Acted s acts result.2 := by
  induction reads with
  | whole full => exact .nil
  | piece missing here fits flow after ih => exact .recv here ih
  | stop missing here ended => exact .recv here .nil

theorem cuesIn_eq_nil (reads : Reads size got s acts result) (heard : Bytes) :
    cuesIn heard acts = [] := by
  induction reads generalizing heard with
  | whole full => rfl
  | piece missing here fits flow after ih => exact ih _
  | stop missing here ended => rfl

/-- A frame that is whole has come in with its reads, and they have taken nothing else. -/
theorem of_ok {bytes : Bytes} {t : Socket} (reads : Reads size got s acts result)
    (start : got.length ≤ size) (ok : result = (.ok bytes, t)) :
    bytes = got ++ received acts ∧ bytes.length = size ∧
      s.inflow = t.inflow.prepend (received acts) := by
  induction reads with
  | whole full =>
      cases ok
      exact ⟨(List.append_nil _).symm, Nat.le_antisymm start full, rfl⟩
  | @piece got more b s s' acts result missing here fits flow after ih =>
      obtain ⟨whole, length, left⟩ := ih fits ok
      refine ⟨?_, length, ?_⟩
      · rw [whole, received_ok, List.append_assoc]
      · rw [flow, left, Inflow.prepend_prepend, received_ok]
  | stop missing here ended => cases ok

/-- What came in with the reads of a frame that was cut short is less than the frame. -/
theorem of_error {breakdown : Breakdown} {t : Socket} (reads : Reads size got s acts result)
    (error : result = (.error breakdown, t)) : (got ++ received acts).length < size := by
  induction reads with
  | whole full => cases error
  | piece missing here fits flow after ih =>
      rw [received_ok, ← List.append_assoc]
      exact ih error
  | @stop got s t found ending missing here ended =>
      have none : received [Act.recv (size - got.length) found] = [] := by
        match found with
        | .error cause => rfl
        | .ok [] => rfl
        | .ok (_ :: _) => cases ended
      rw [none, List.append_nil]
      exact missing

/-- Each read of a frame asks for what is missing of it, and one that finds the end of the stream
is the last one. -/
theorem fits {before after : List Act} {act : Act} (reads : Reads size got s acts result)
    (cut : acts = before ++ act :: after) :
    ∃ found, act = .recv (size - (got ++ received before).length) found ∧
      (got ++ received before).length < size ∧ ∀ ending, Act.ending? found = some ending →
        after = [] ∧ result.1 = .error (cutShort (got ++ received before).length size ending) := by
  induction reads generalizing before with
  | whole full =>
      exact absurd cut.symm (List.append_ne_nil_of_right_ne_nil _ (List.cons_ne_nil _ _))
  | @piece got more b s s' acts result missing here fits flow after' ih =>
      cases before with
      | nil =>
          cases cut
          rw [received_nil, List.append_nil]
          exact ⟨_, rfl, missing, fun ending ended => by cases ended⟩
      | cons first before =>
          obtain ⟨same, cut'⟩ := List.cons.inj cut
          rw [← same, received_ok, ← List.append_assoc]
          exact ih cut'
  | @stop got s t found ending missing here ended =>
      cases before with
      | nil =>
          cases cut
          rw [received_nil, List.append_nil]
          refine ⟨_, rfl, missing, fun ending' ended' => ⟨rfl, ?_⟩⟩
          rw [Option.some.inj (ended.symm.trans ended')]
      | cons first before =>
          have none := (List.cons.inj cut).2
          exact absurd none.symm (List.append_ne_nil_of_right_ne_nil _ (List.cons_ne_nil _ _))

end Reads

theorem reads_readFrame (size : Nat) (s : Socket) :
    Reads size [] s (readActs size [] s) (readFrame size s) := reads_readOn size [] s

/-- How an act goes with the dialogue around it: the dialogue stands at `v` before it, does `after`
behind it, and ends with `outcome`. -/
def Act.Fits {α : Type} (v : Verdict α) (outcome : Except Breakdown α) (after : List Act) :
    Act → Prop
  | send _ fault => (∃ size, v = .waiting 0 size) ∧
      ∀ cause, fault = some cause → after = [] ∧ outcome = .error (.fault cause)
  | recv n found => ∃ got size, v = .waiting got size ∧ got < size ∧ n = size - got ∧
      ∀ ending, ending? found = some ending →
        after = [] ∧ outcome = .error (cutShort got size ending)

/-! ### Dialogues -/

namespace Dialogue

variable {α : Type}

/-- What a dialogue does on a socket. -/
def acts : Dialogue α → Socket → List Act
  | done _, _ => []
  | fail _, _ => []
  | send frame next, s =>
      .send frame (s.send frame).1 :: match s.send frame with
        | (some _, _) => []
        | (none, s) => next.acts s
  | read size next, s =>
      readActs size [] s ++ match readFrame size s with
        | (.error _, _) => []
        | (.ok bytes, s) => (next bytes).acts s
  | note _ next, s => next.acts s

section Steps

variable {frame : Bytes} {size : Nat} {s t : Socket}

theorem acts_send_of_none {next : Dialogue α} (sent : s.send frame = (none, t)) :
    (send frame next).acts s = .send frame none :: next.acts t := by
  rw [acts, sent]

theorem acts_send_of_some {next : Dialogue α} {cause : Fault}
    (failed : s.send frame = (some cause, t)) :
    (send frame next).acts s = [.send frame (some cause)] := by
  rw [acts, failed]

theorem acts_read_of_ok {next : Bytes → Dialogue α} {bytes : Bytes}
    (found : readFrame size s = (.ok bytes, t)) :
    (read size next).acts s = readActs size [] s ++ (next bytes).acts t := by
  rw [acts, found]

theorem acts_read_of_error {next : Bytes → Dialogue α} {breakdown : Breakdown}
    (found : readFrame size s = (.error breakdown, t)) :
    (read size next).acts s = readActs size [] s := by
  rw [acts, found]
  exact List.append_nil _

end Steps

/-- The acts of a dialogue lead the socket to where its run leaves it. -/
theorem acted_acts (d : Dialogue α) (s : Socket) : Acted s (d.acts s) (d.run s).socket := by
  induction d generalizing s with
  | done result => exact .nil
  | fail error => exact .nil
  | send frame next ih =>
      cases sent : s.send frame with
      | mk fault t =>
          cases fault with
          | none =>
              rw [acts_send_of_none sent, run_send_of_none sent]
              exact .send sent (ih t)
          | some cause =>
              rw [acts_send_of_some sent, run_send_of_some sent]
              exact .send sent .nil
  | read size next ih =>
      have reads := (reads_readFrame size s).acted
      cases found : readFrame size s with
      | mk result t =>
          rw [found] at reads
          cases result with
          | ok bytes =>
              rw [acts_read_of_ok found, run_read_of_ok found]
              exact reads.append (ih bytes t)
          | error breakdown =>
              rw [acts_read_of_error found, run_read_of_error found]
              exact reads
  | note message next ih => exact ih s

/-- A whole frame moves from the bytes heard to the dialogue that goes on with it. -/
theorem verdict_read_received {size : Nat} {next : Bytes → Dialogue α} {s t : Socket}
    {bytes : Bytes} (found : readFrame size s = (.ok bytes, t)) (more : Bytes) :
    (read size next).verdict (received (readActs size [] s) ++ more) =
      (next bytes).verdict more := by
  obtain ⟨whole, length, -⟩ := (reads_readFrame size s).of_ok (Nat.zero_le size) found
  rw [List.nil_append] at whole
  rw [← whole, verdict_read_of_le (by rw [List.length_append]; omega), List.take_left' length,
    List.drop_left' length]

/-- What a dialogue that waits for its answers makes of the bytes of a frame that is cut short. -/
theorem verdict_read_received_short {size : Nat} {next : Bytes → Dialogue α} {s t : Socket}
    {breakdown : Breakdown} (found : readFrame size s = (.error breakdown, t)) :
    (read size next).verdict (received (readActs size [] s)) =
      .waiting (received (readActs size [] s)).length size :=
  verdict_read_of_lt ((reads_readFrame size s).of_error found)

/-- Bytes that a dialogue finds bad end its run with the error it finds. -/
theorem outcome_of_bad {d : Dialogue α} {s : Socket} {kind : FailureKind} {error : HandshakeError}
    (prompt : d.Prompt) (bad : d.verdict (received (d.acts s)) = .bad kind error) :
    (d.run s).outcome = .error (.error error) := by
  induction d generalizing s with
  | done result => cases bad
  | fail error' =>
      cases bad
      rfl
  | send frame next ih =>
      cases sent : s.send frame with
      | mk fault t =>
          cases fault with
          | none =>
              rw [acts_send_of_none sent] at bad
              rw [run_send_of_none sent]
              exact ih prompt.2 bad
          | some cause =>
              obtain ⟨size, waiting⟩ := prompt.1.verdict_nil
              rw [acts_send_of_some sent] at bad
              exact absurd (waiting.symm.trans bad) nofun
  | read size next ih =>
      cases found : readFrame size s with
      | mk result t =>
          cases result with
          | ok bytes =>
              rw [acts_read_of_ok found, received_append, verdict_read_received found] at bad
              rw [run_read_of_ok found]
              exact ih bytes (prompt bytes) bad
          | error breakdown =>
              rw [acts_read_of_error found, verdict_read_received_short found] at bad
              cases bad
  | note message next ih => exact ih prompt bad

theorem inflow_send {frame : Bytes} {fault : Option Fault} {s t : Socket}
    (sent : s.send frame = (fault, t)) : t.inflow = s.inflow := by
  unfold Socket.send at sent
  split at sent <;> cases sent <;> rfl

/-- A run with a result has heard just what the result needed, and has left the rest of the
inflow. -/
theorem verdict_of_ok {d : Dialogue α} {s : Socket} {result : α}
    (ok : (d.run s).outcome = .ok result) :
    d.verdict (received (d.acts s)) = .good result [] ∧
      s.inflow = (d.run s).socket.inflow.prepend (received (d.acts s)) := by
  induction d generalizing s with
  | done r =>
      cases ok
      exact ⟨rfl, rfl⟩
  | fail error => cases ok
  | send frame next ih =>
      cases sent : s.send frame with
      | mk fault t =>
          cases fault with
          | none =>
              rw [run_send_of_none sent] at ok ⊢
              rw [acts_send_of_none sent, ← inflow_send sent]
              exact ih ok
          | some cause =>
              rw [run_send_of_some sent] at ok
              cases ok
  | read size next ih =>
      cases found : readFrame size s with
      | mk outcome t =>
          cases outcome with
          | ok bytes =>
              rw [run_read_of_ok found] at ok ⊢
              rw [acts_read_of_ok found, received_append, verdict_read_received found]
              obtain ⟨good, left⟩ := ih bytes ok
              obtain ⟨-, -, taken⟩ := (reads_readFrame size s).of_ok (Nat.zero_le size) found
              exact ⟨good, by rw [taken, left, Inflow.prepend_prepend]⟩
          | error breakdown =>
              rw [run_read_of_error found] at ok
              cases ok
  | note message next ih => exact ih ok

/-- Each act takes place while the dialogue waits for the rest of a frame. A read asks for no more
than that rest; an act that fails is the last one and decides the outcome. -/
theorem fits_acts {d : Dialogue α} {s : Socket} {before after : List Act} {act : Act}
    (prompt : d.Prompt) (cut : d.acts s = before ++ act :: after) :
    act.Fits (d.verdict (received before)) (d.run s).outcome after := by
  have empty {a b : List Act} {x : Act} : [] ≠ a ++ x :: b := by simp
  induction d generalizing s before with
  | done result => exact absurd cut empty
  | fail error => exact absurd cut empty
  | send frame next ih =>
      obtain ⟨listens, prompt⟩ := prompt
      cases sent : s.send frame with
      | mk fault t =>
          cases fault with
          | none =>
              rw [acts_send_of_none sent] at cut
              rw [run_send_of_none sent]
              cases before with
              | nil =>
                  cases cut
                  exact ⟨listens.verdict_nil, nofun⟩
              | cons first before =>
                  obtain ⟨same, cut'⟩ := List.cons.inj cut
                  rw [← same]
                  have fits := ih prompt cut'
                  exact fits
          | some cause =>
              rw [acts_send_of_some sent] at cut
              rw [run_send_of_some sent]
              cases before with
              | nil =>
                  cases cut
                  exact ⟨listens.verdict_nil, fun cause' same => by cases same; exact ⟨rfl, rfl⟩⟩
              | cons first before => exact absurd (List.cons.inj cut).2 empty
  | read size next ih =>
      have reads := reads_readFrame size s
      cases found : readFrame size s with
      | mk outcome t =>
          rw [found] at reads
          cases outcome with
          | ok bytes =>
              rw [acts_read_of_ok found] at cut
              rw [run_read_of_ok found]
              rcases cut_of_append_eq cut with ⟨after', inFrame, -⟩ | ⟨before', rfl, cut'⟩
              · obtain ⟨found', rfl, short, last⟩ := reads.fits inFrame
                refine ⟨_, size, verdict_read_of_lt short, short, rfl, fun ending ended => ?_⟩
                exact absurd (last ending ended).2 nofun
              · rw [received_append, verdict_read_received found]
                exact ih bytes (prompt bytes) cut'
          | error breakdown =>
              rw [acts_read_of_error found] at cut
              rw [run_read_of_error found]
              obtain ⟨found', rfl, short, last⟩ := reads.fits cut
              refine ⟨_, size, verdict_read_of_lt short, short, rfl, fun ending ended => ?_⟩
              obtain ⟨none, same⟩ := last ending ended
              exact ⟨none, congrArg Except.error (Except.error.inj same)⟩
  | note message next ih => exact ih prompt cut

/-- The frames go out as the cues of the dialogue have them, as far as the dialogue gets. -/
theorem cuesIn_acts (d : Dialogue α) (s : Socket) (heard : Bytes) :
    cuesIn heard (d.acts s) <+: d.cues heard s.inflow.bytes := by
  induction d generalizing s heard with
  | done result => exact List.nil_prefix
  | fail error => exact List.nil_prefix
  | send frame next ih =>
      rw [acts, cuesIn, cues, List.cons_prefix_cons]
      refine ⟨rfl, ?_⟩
      cases sent : s.send frame with
      | mk fault t =>
          cases fault with
          | none =>
              rw [← inflow_send sent]
              exact ih t heard
          | some cause => exact List.nil_prefix
  | read size next ih =>
      have reads := reads_readFrame size s
      cases found : readFrame size s with
      | mk outcome t =>
          cases outcome with
          | ok bytes =>
              obtain ⟨whole, length, taken⟩ := reads.of_ok (Nat.zero_le size) found
              rw [List.nil_append] at whole
              rw [acts_read_of_ok found, cuesIn_append, reads.cuesIn_eq_nil, ← whole,
                List.nil_append, taken, ← whole, Inflow.bytes_prepend,
                cues_read_of_le (by rw [List.length_append]; omega), List.take_left' length,
                List.drop_left' length]
              exact ih bytes t _
          | error breakdown =>
              rw [acts_read_of_error found, reads.cuesIn_eq_nil]
              exact List.nil_prefix
  | note message next ih => exact ih s heard

/-- The chunks sent on a socket are the first frames of the dialogue. -/
theorem sent_run (d : Dialogue α) (s : Socket) :
    ∃ said, (d.run s).socket.sent = s.sent ++ said ∧ said <+: d.frames s.inflow.bytes := by
  induction d generalizing s with
  | done result => exact ⟨[], (List.append_nil _).symm, List.nil_prefix⟩
  | fail error => exact ⟨[], (List.append_nil _).symm, List.nil_prefix⟩
  | send frame next ih =>
      cases fault : s.nextSendFault with
      | none =>
          obtain ⟨said, sent, first⟩ := ih (s.send frame).2
          have step : s.send frame = (none, (s.send frame).2) := by rw [Socket.send, fault]
          refine ⟨frame :: said, ?_, ?_⟩
          · rw [run_send_of_none step, sent, Socket.send, fault]
            simp
          · rw [frames_send, List.cons_prefix_cons, ← inflow_send step]
            exact ⟨rfl, first⟩
      | some cause =>
          have step : s.send frame = (some cause, { s with attempts := s.attempts + 1 }) := by
            rw [Socket.send, fault]
          rw [run_send_of_some step]
          exact ⟨[], (List.append_nil _).symm, List.nil_prefix⟩
  | read size next ih =>
      rcases readFrame_cases size s with
        ⟨rest, reads, whole, found, flow⟩ | ⟨rest, reads, short, found⟩
      · obtain ⟨said, sent, first⟩ := ih (s.inflow.bytes.take size)
          { s with arrivals := rest, reads := reads }
        rw [flow] at first
        rw [run_read_of_ok found, frames_read_of_le whole]
        exact ⟨said, sent, first⟩
      · rw [run_read_of_error found]
        exact ⟨[], (List.append_nil _).symm, List.nil_prefix⟩
  | note message next ih => exact ih s

/-- A run with a result has sent all the frames of the dialogue. -/
theorem sent_of_ok {d : Dialogue α} {s : Socket} {result : α}
    (ok : (d.run s).outcome = .ok result) :
    (d.run s).socket.sent = s.sent ++ d.frames s.inflow.bytes := by
  induction d generalizing s with
  | done r => exact (List.append_nil _).symm
  | fail error => cases ok
  | send frame next ih =>
      cases fault : s.nextSendFault with
      | none =>
          have step : s.send frame = (none, (s.send frame).2) := by rw [Socket.send, fault]
          rw [run_send_of_none step] at ok ⊢
          rw [ih ok, frames_send, inflow_send step, Socket.send, fault]
          simp
      | some cause =>
          have step : s.send frame = (some cause, { s with attempts := s.attempts + 1 }) := by
            rw [Socket.send, fault]
          rw [run_send_of_some step] at ok
          cases ok
  | read size next ih =>
      rcases readFrame_cases size s with
        ⟨rest, reads, whole, found, flow⟩ | ⟨rest, reads, short, found⟩
      · rw [run_read_of_ok found] at ok ⊢
        have sent := ih _ ok
        rw [flow] at sent
        rw [frames_read_of_le whole]
        exact sent
      · rw [run_read_of_error found] at ok
        cases ok
  | note message next ih => exact ih ok

end Dialogue

end SocksTunnel.Socks
