import SocksTunnel.Failure
import SocksTunnel.Proofs.Socks.Frame

/-!
What a dialogue makes of the bytes of the other side, with no socket in between.

A dialogue that has heard some bytes has come to a result, has found a fault with them, or waits
for the rest of a frame: its verdict. Beside it stand its cues: what it says, each frame with the
bytes heard before it.

* `Dialogue.verdict_bind`, `Dialogue.cues_bind` — both are composed as dialogues are.
* `Dialogue.run_of_free` — where no send fails, a dialogue on a socket ends as its verdict on the
  inflow says, and has then sent its cues. If it has a result, it has left the bytes that the
  verdict leaves.
* `Dialogue.verdict_append` — a result does not depend on what comes after the bytes it needed.
* `Dialogue.run_alike` — sockets that differ only in how their bytes were cut cannot be told apart.
-/

namespace SocksTunnel.Socks

open SocksTunnel.Text

/-- Where a reader stands after some bytes. -/
inductive Verdict (α : Type) where
  /-- It has a result, and has not used the rest of the bytes. -/
  | good (result : α) (rest : Bytes)
  /-- The bytes are not what they should be. -/
  | bad (kind : FailureKind) (error : HandshakeError)
  /-- Of a frame of `size` bytes only `got` are there. -/
  | waiting (got size : Nat)
  deriving DecidableEq

namespace Verdict

variable {α β : Type}

/-- Go on with a result and the rest of the bytes. -/
def bind : Verdict α → (α → Bytes → Verdict β) → Verdict β
  | good result rest, f => f result rest
  | bad kind error, _ => bad kind error
  | waiting got size, _ => waiting got size

@[simp] theorem good_bind (result : α) (rest : Bytes) (f : α → Bytes → Verdict β) :
    (good result rest).bind f = f result rest := rfl

@[simp] theorem bad_bind (kind : FailureKind) (error : HandshakeError)
    (f : α → Bytes → Verdict β) : (bad kind error).bind f = bad kind error := rfl

@[simp] theorem waiting_bind (got size : Nat) (f : α → Bytes → Verdict β) :
    (waiting got size : Verdict α).bind f = waiting got size := rfl

theorem eq_good_of_bind {v : Verdict α} {f : α → Bytes → Verdict β} {result : β} {rest : Bytes}
    (h : v.bind f = good result rest) :
    ∃ first between, v = good first between ∧ f first between = good result rest := by
  cases v with
  | good first between => exact ⟨first, between, rfl, h⟩
  | bad kind error => cases h
  | waiting got size => cases h

/-- How a reader ends with a verdict if nothing more comes in but the ending of the stream. -/
def outcome : Verdict α → Option Fault → Except Breakdown α
  | good result _, _ => .ok result
  | bad _ error, _ => .error (.error error)
  | waiting got size, none => .error (.error (.truncated got size))
  | waiting _ _, some cause => .error (.fault cause)

theorem eq_good_of_outcome {v : Verdict α} {ending : Option Fault} {result : α}
    (h : v.outcome ending = .ok result) : ∃ rest, v = good result rest := by
  cases v with
  | good r rest =>
      cases h
      exact ⟨rest, rfl⟩
  | bad kind error => cases h
  | waiting got size => cases ending <;> cases h

/-- Where no fault ends the stream, none comes out. -/
theorem error_of_outcome {v : Verdict α} {breakdown : Breakdown}
    (h : v.outcome none = .error breakdown) : ∃ error, breakdown = .error error := by
  cases v with
  | good result rest => cases h
  | bad kind error =>
      cases h
      exact ⟨error, rfl⟩
  | waiting got size =>
      cases h
      exact ⟨_, rfl⟩

end Verdict

namespace Dialogue

variable {α β : Type}

/-! ### Verdicts -/

/-- What a dialogue makes of bytes. -/
def verdict : Dialogue α → Bytes → Verdict α
  | done result, bytes => .good result bytes
  | fail error, _ => .bad (Failure.handshakeKind error) error
  | send _ next, bytes => next.verdict bytes
  | read size next, bytes =>
      if size ≤ bytes.length then (next (bytes.take size)).verdict (bytes.drop size)
      else .waiting bytes.length size
  | note _ next, bytes => next.verdict bytes

theorem verdict_read_of_le {size : Nat} {next : Bytes → Dialogue α} {bytes : Bytes}
    (whole : size ≤ bytes.length) :
    (read size next).verdict bytes = (next (bytes.take size)).verdict (bytes.drop size) := by
  rw [verdict, if_pos whole]

theorem verdict_read_of_lt {size : Nat} {next : Bytes → Dialogue α} {bytes : Bytes}
    (short : bytes.length < size) :
    (read size next).verdict bytes = .waiting bytes.length size := by
  rw [verdict, if_neg (Nat.not_le.mpr short)]

theorem verdict_bind (d : Dialogue α) (f : α → Dialogue β) (bytes : Bytes) :
    (d.bind f).verdict bytes =
      (d.verdict bytes).bind fun result rest => (f result).verdict rest := by
  induction d generalizing bytes with
  | done result => rfl
  | fail error => rfl
  | send frame next ih => exact ih bytes
  | read size next ih =>
      by_cases whole : size ≤ bytes.length
      · rw [verdict_read_of_le whole, ← ih, bind, verdict_read_of_le whole]
      · rw [verdict_read_of_lt (Nat.not_le.mp whole), bind,
          verdict_read_of_lt (Nat.not_le.mp whole), Verdict.waiting_bind]
  | note message next ih => exact ih bytes

/-- A dialogue states the kind of the error that it finds. -/
theorem handshakeKind_of_bad {d : Dialogue α} {bytes : Bytes} {kind : FailureKind}
    {error : HandshakeError} (h : d.verdict bytes = .bad kind error) :
    Failure.handshakeKind error = kind := by
  induction d generalizing bytes with
  | done result => cases h
  | fail e =>
      cases h
      rfl
  | send frame next ih => exact ih h
  | read size next ih =>
      by_cases whole : size ≤ bytes.length
      · rw [verdict_read_of_le whole] at h
        exact ih _ h
      · rw [verdict_read_of_lt (Nat.not_le.mp whole)] at h
        cases h
  | note message next ih => exact ih h

/-- A result splits the bytes into those that it needed and the rest, which may be anything. -/
theorem verdict_append {d : Dialogue α} {bytes rest : Bytes} {result : α}
    (h : d.verdict bytes = .good result rest) :
    ∃ needed, bytes = needed ++ rest ∧ ∀ more, d.verdict (needed ++ more) = .good result more := by
  induction d generalizing bytes with
  | done r =>
      cases h
      exact ⟨[], rfl, fun _ => rfl⟩
  | fail error => cases h
  | send frame next ih => exact ih h
  | read size next ih =>
      by_cases whole : size ≤ bytes.length
      · rw [verdict_read_of_le whole] at h
        obtain ⟨needed, split, stable⟩ := ih _ h
        refine ⟨bytes.take size ++ needed, ?_, fun more => ?_⟩
        · rw [List.append_assoc, ← split, List.take_append_drop]
        · have length : (bytes.take size).length = size := by simp [whole]
          rw [List.append_assoc, verdict_read_of_le (by simp only [List.length_append]; omega),
            List.take_left' length, List.drop_left' length]
          exact stable more
      · rw [verdict_read_of_lt (Nat.not_le.mp whole)] at h
        cases h
  | note message next ih => exact ih h

/-! ### Cues -/

/-- What a dialogue says while it hears `bytes`: each frame with all that was heard before it,
`heard` to begin with. -/
def cues : Dialogue α → Bytes → Bytes → List (Bytes × Bytes)
  | done _, _, _ => []
  | fail _, _, _ => []
  | send frame next, heard, bytes => (heard, frame) :: next.cues heard bytes
  | read size next, heard, bytes =>
      if size ≤ bytes.length then
        (next (bytes.take size)).cues (heard ++ bytes.take size) (bytes.drop size)
      else []
  | note _ next, heard, bytes => next.cues heard bytes

theorem cues_read_of_le {size : Nat} {next : Bytes → Dialogue α} {heard bytes : Bytes}
    (whole : size ≤ bytes.length) :
    (read size next).cues heard bytes =
      (next (bytes.take size)).cues (heard ++ bytes.take size) (bytes.drop size) := by
  rw [cues, if_pos whole]

theorem cues_read_of_lt {size : Nat} {next : Bytes → Dialogue α} {heard bytes : Bytes}
    (short : bytes.length < size) : (read size next).cues heard bytes = [] := by
  rw [cues, if_neg (Nat.not_le.mpr short)]

/-- Once the first part has its result, the second part has heard what the first part needed. -/
theorem cues_bind_of_good {d : Dialogue α} {needed rest bytes : Bytes} {result : α}
    (good : d.verdict bytes = .good result rest) (split : bytes = needed ++ rest)
    (f : α → Dialogue β) (heard : Bytes) :
    (d.bind f).cues heard bytes =
      d.cues heard bytes ++ (f result).cues (heard ++ needed) rest := by
  induction d generalizing needed bytes heard with
  | done r =>
      cases good
      have none : needed = [] := List.self_eq_append_left.mp split
      rw [none, List.append_nil]
      rfl
  | fail error => cases good
  | send frame next ih =>
      rw [bind, cues, cues, ih good split, List.cons_append]
  | read size next ih =>
      by_cases whole : size ≤ bytes.length
      · rw [verdict_read_of_le whole] at good
        obtain ⟨needed', split', -⟩ := verdict_append good
        have parts : needed = bytes.take size ++ needed' := by
          refine List.append_cancel_right (?_ : needed ++ rest = _ ++ rest)
          rw [← split, List.append_assoc, ← split', List.take_append_drop]
        rw [bind, cues_read_of_le whole, cues_read_of_le whole, ih _ good split', parts,
          List.append_assoc]
      · rw [verdict_read_of_lt (Nat.not_le.mp whole)] at good
        cases good
  | note message next ih => exact ih good split heard

/-- Without a result of the first part the second part says nothing. -/
theorem cues_bind_of_stuck {d : Dialogue α} {bytes : Bytes}
    (stuck : ∀ result rest, d.verdict bytes ≠ .good result rest) (f : α → Dialogue β)
    (heard : Bytes) : (d.bind f).cues heard bytes = d.cues heard bytes := by
  induction d generalizing bytes heard with
  | done result => exact absurd rfl (stuck result bytes)
  | fail error => rfl
  | send frame next ih => rw [bind, cues, cues, ih stuck]
  | read size next ih =>
      by_cases whole : size ≤ bytes.length
      · rw [bind, cues_read_of_le whole, cues_read_of_le whole]
        exact ih _ (fun result rest => verdict_read_of_le whole ▸ stuck result rest) _
      · rw [bind, cues_read_of_lt (Nat.not_le.mp whole), cues_read_of_lt (Nat.not_le.mp whole)]
  | note message next ih => exact ih stuck heard

/-- What was heard before the dialogue does not change the frames. -/
theorem map_snd_cues (d : Dialogue α) (heard heard' bytes : Bytes) :
    (d.cues heard bytes).map Prod.snd = (d.cues heard' bytes).map Prod.snd := by
  induction d generalizing heard heard' bytes with
  | done result => rfl
  | fail error => rfl
  | send frame next ih => rw [cues, cues, List.map_cons, List.map_cons, ih heard heard']
  | read size next ih =>
      by_cases whole : size ≤ bytes.length
      · rw [cues_read_of_le whole, cues_read_of_le whole]
        exact ih _ _ _ _
      · rw [cues_read_of_lt (Nat.not_le.mp whole), cues_read_of_lt (Nat.not_le.mp whole)]
  | note message next ih => exact ih heard heard' bytes

/-- The frames that a dialogue says while it hears `bytes`. -/
def frames (d : Dialogue α) (bytes : Bytes) : List Bytes := (d.cues [] bytes).map Prod.snd

theorem frames_send (frame : Bytes) (next : Dialogue α) (bytes : Bytes) :
    (send frame next).frames bytes = frame :: next.frames bytes := rfl

theorem frames_read_of_le {size : Nat} {next : Bytes → Dialogue α} {bytes : Bytes}
    (whole : size ≤ bytes.length) :
    (read size next).frames bytes = (next (bytes.take size)).frames (bytes.drop size) := by
  rw [frames, frames, cues_read_of_le whole]
  exact map_snd_cues _ _ _ _

theorem frames_read_of_lt {size : Nat} {next : Bytes → Dialogue α} {bytes : Bytes}
    (short : bytes.length < size) : (read size next).frames bytes = [] := by
  rw [frames, cues_read_of_lt short]
  rfl

/-! ### Dialogues that say little -/

/-- A dialogue that only listens. -/
def Silent : Dialogue α → Prop
  | done _ => True
  | fail _ => True
  | send _ _ => False
  | read _ next => ∀ bytes, (next bytes).Silent
  | note _ next => next.Silent

theorem Silent.bind {d : Dialogue α} (silent : d.Silent) {f : α → Dialogue β}
    (after : ∀ result, (f result).Silent) : (d.bind f).Silent := by
  induction d with
  | done result => exact after result
  | fail error => trivial
  | send frame next ih => exact silent.elim
  | read size next ih => exact fun bytes => ih bytes (silent bytes)
  | note message next ih => exact ih silent

theorem Silent.cues {d : Dialogue α} (silent : d.Silent) (heard bytes : Bytes) :
    d.cues heard bytes = [] := by
  induction d generalizing heard bytes with
  | done result => rfl
  | fail error => rfl
  | send frame next ih => exact silent.elim
  | read size next ih =>
      by_cases whole : size ≤ bytes.length
      · rw [cues_read_of_le whole]
        exact ih _ (silent _) _ _
      · rw [cues_read_of_lt (Nat.not_le.mp whole)]
  | note message next ih => exact ih silent heard bytes

/-- A dialogue that has to hear something before it can say or find anything. -/
def Listens : Dialogue α → Prop
  | done _ => False
  | fail _ => False
  | send _ _ => False
  | read size _ => 0 < size
  | note _ next => next.Listens

theorem Listens.bind {d : Dialogue α} (listens : d.Listens) (f : α → Dialogue β) :
    (d.bind f).Listens := by
  induction d with
  | done result => exact listens.elim
  | fail error => exact listens.elim
  | send frame next ih => exact listens.elim
  | read size next ih => exact listens
  | note message next ih => exact ih listens

/-- A dialogue that listens is not content, or discontent, with nothing. -/
theorem Listens.verdict_nil {d : Dialogue α} (listens : d.Listens) :
    ∃ size, d.verdict [] = .waiting 0 size := by
  induction d with
  | done result => exact listens.elim
  | fail error => exact listens.elim
  | send frame next ih => exact listens.elim
  | read size next ih => exact ⟨size, verdict_read_of_lt listens⟩
  | note message next ih => exact ih listens

/-- A dialogue that waits for an answer to each frame it has sent. So it finds fault with what it
has heard before it says anything else. -/
def Prompt : Dialogue α → Prop
  | done _ => True
  | fail _ => True
  | send _ next => next.Listens ∧ next.Prompt
  | read _ next => ∀ bytes, (next bytes).Prompt
  | note _ next => next.Prompt

theorem Silent.prompt {d : Dialogue α} (silent : d.Silent) : d.Prompt := by
  induction d with
  | done result => trivial
  | fail error => trivial
  | send frame next ih => exact silent.elim
  | read size next ih => exact fun bytes => ih bytes (silent bytes)
  | note message next ih => exact ih silent

theorem Prompt.bind {d : Dialogue α} (prompt : d.Prompt) {f : α → Dialogue β}
    (after : ∀ result, (f result).Prompt) : (d.bind f).Prompt := by
  induction d with
  | done result => exact after result
  | fail error => trivial
  | send frame next ih => exact ⟨prompt.1.bind f, ih prompt.2⟩
  | read size next ih => exact fun bytes => ih bytes (prompt bytes)
  | note message next ih => exact ih prompt

/-! ### On a socket -/

section Steps

variable {frame : Bytes} {size : Nat} {s t : Socket}

theorem run_send_of_none {next : Dialogue α} (sent : s.send frame = (none, t)) :
    (send frame next).run s = next.run t := by
  rw [run, sent]

theorem run_send_of_some {next : Dialogue α} {cause : Fault}
    (failed : s.send frame = (some cause, t)) :
    (send frame next).run s = ⟨.error (.fault cause), t, []⟩ := by
  rw [run, failed]

theorem run_read_of_ok {next : Bytes → Dialogue α} {bytes : Bytes}
    (found : readFrame size s = (.ok bytes, t)) :
    (read size next).run s = (next bytes).run t := by
  rw [run, found]

theorem run_read_of_error {next : Bytes → Dialogue α} {breakdown : Breakdown}
    (found : readFrame size s = (.error breakdown, t)) :
    (read size next).run s = ⟨.error breakdown, t, []⟩ := by
  rw [run, found]

end Steps

/-- Where no send fails, a dialogue ends as its verdict on the inflow says and has sent all its
frames. With a result, it has left what the verdict leaves. -/
theorem run_of_free (d : Dialogue α) {s : Socket} (free : s.SendsFreely) :
    ∃ rest reads, (d.run s).outcome = (d.verdict s.inflow.bytes).outcome s.inflow.ending ∧
      (d.run s).socket = { s with
        arrivals := rest
        reads := reads
        sent := s.sent ++ d.frames s.inflow.bytes
        attempts := s.attempts + (d.frames s.inflow.bytes).length } ∧
      ∀ result left, d.verdict s.inflow.bytes = .good result left →
        Inflow.of rest = { s.inflow with bytes := left } := by
  induction d generalizing s with
  | done result =>
      refine ⟨s.arrivals, s.reads, rfl, by simp [run, frames, cues], ?_⟩
      intro _ left good
      cases good
      rfl
  | fail error =>
      refine ⟨s.arrivals, s.reads, rfl, by simp [run, frames, cues], ?_⟩
      intro _ left good
      cases good
  | send frame next ih =>
      have free' := free.later (t := (s.send frame).2) (by rw [Socket.send_of_free free])
        (by rw [Socket.send_of_free free]; exact Nat.le_succ _)
      rw [Socket.send_of_free free] at free'
      obtain ⟨rest, reads, outcome, socket, left⟩ := ih free'
      refine ⟨rest, reads, ?_, ?_, left⟩
      · rw [run_send_of_none (Socket.send_of_free free frame)]
        exact outcome
      · rw [run_send_of_none (Socket.send_of_free free frame)]
        refine socket.trans ?_
        simp only [frames_send, List.append_assoc, List.singleton_append, List.length_cons,
          Nat.add_assoc, Nat.add_comm 1]
        rfl
  | read size next ih =>
      rcases readFrame_cases size s with
        ⟨rest, reads, whole, found, flow⟩ | ⟨rest, reads, short, found⟩
      · have free' : Socket.SendsFreely { s with arrivals := rest, reads := reads } := free
        obtain ⟨rest', reads', outcome, socket, left⟩ := ih (s.inflow.bytes.take size) free'
        rw [flow] at outcome socket left
        rw [run_read_of_ok found, verdict_read_of_le whole, frames_read_of_le whole]
        exact ⟨rest', reads', outcome, socket, left⟩
      · rw [run_read_of_error found, verdict_read_of_lt short, frames_read_of_lt short]
        refine ⟨rest, reads, ?_, by simp, fun _ _ good => by cases good⟩
        cases s.inflow.ending <;> rfl
  | note message next ih => exact ih free

/-- Two sockets that differ only in how their bytes were cut give the same outcome and the same
notes, and again differ only in that. -/
theorem run_alike (d : Dialogue α) {s t : Socket} (alike : s.Alike t) :
    (d.run t).outcome = (d.run s).outcome ∧ (d.run t).notes = (d.run s).notes ∧
      (d.run s).socket.Alike (d.run t).socket := by
  induction d generalizing s t with
  | done result => exact ⟨rfl, rfl, alike⟩
  | fail error => exact ⟨rfl, rfl, alike⟩
  | send frame next ih =>
      obtain ⟨same, after⟩ := alike.send frame
      rw [run, run]
      cases hs : s.send frame with
      | mk fault s' =>
          cases ht : t.send frame with
          | mk fault' t' =>
              rw [hs, ht] at same after
              cases same
              cases fault with
              | none => exact ih after
              | some cause => exact ⟨rfl, rfl, after⟩
  | read size next ih =>
      obtain ⟨rest, reads, found, after⟩ := readFrame_eq size s
      obtain ⟨rest', reads', found', after'⟩ := readFrame_eq size t
      obtain ⟨inflow, sent, attempts, sendFaults⟩ := alike
      rw [inflow] at found' after'
      have alike' : Socket.Alike { s with arrivals := rest, reads := reads }
          { t with arrivals := rest', reads := reads' } :=
        ⟨after'.trans after.symm, sent, attempts, sendFaults⟩
      rw [run, run, found, found']
      cases s.inflow.frame size with
      | error cause => exact ⟨rfl, rfl, alike'⟩
      | ok bytes => exact ih bytes alike'
  | note message next ih =>
      obtain ⟨outcome, notes, after⟩ := ih alike
      exact ⟨outcome, congrArg (message :: ·) notes, after⟩

end Dialogue

end SocksTunnel.Socks
