import SocksTunnel.Proofs.Socket
import SocksTunnel.Socks.Dialogue

/-!
Reading a frame of a known length.

A frame is read in as many reads as it takes. What comes out and what is left of the inflow do not
depend on how the bytes were cut: `Inflow.frame` and `Inflow.afterFrame` say both, and
`readOn_eq` says that reading on with some bytes there is like reading from the start with those
bytes put back.
-/

namespace SocksTunnel

open SocksTunnel.Text SocksTunnel.Socks

namespace Inflow

/-- The frame of `size` bytes that an inflow begins with, or what cuts it short. -/
def frame (size : Nat) (f : Inflow) : Except Breakdown Bytes :=
  if size ≤ f.bytes.length then .ok (f.bytes.take size)
  else match f.ending with
    | none => .error (.error (.truncated f.bytes.length size))
    | some cause => .error (.fault cause)

/-- What is left of an inflow after a frame. The ending of a frame that is cut short is used
up. -/
def afterFrame (size : Nat) (f : Inflow) : Inflow :=
  if size ≤ f.bytes.length then { f with bytes := f.bytes.drop size } else of f.later

theorem frame_of_le {size : Nat} {f : Inflow} (whole : size ≤ f.bytes.length) :
    f.frame size = .ok (f.bytes.take size) := by
  rw [frame, if_pos whole]

theorem frame_of_lt {size : Nat} {f : Inflow} (short : f.bytes.length < size) :
    f.frame size = match f.ending with
      | none => .error (.error (.truncated f.bytes.length size))
      | some cause => .error (.fault cause) := by
  rw [frame, if_neg (Nat.not_le.mpr short)]

theorem afterFrame_of_le {size : Nat} {f : Inflow} (whole : size ≤ f.bytes.length) :
    f.afterFrame size = { f with bytes := f.bytes.drop size } := by
  rw [afterFrame, if_pos whole]

theorem afterFrame_of_lt {size : Nat} {f : Inflow} (short : f.bytes.length < size) :
    f.afterFrame size = of f.later := by
  rw [afterFrame, if_neg (Nat.not_le.mpr short)]

end Inflow

namespace Socks

/-- Reading on, with `got` there, gives the frame that the inflow begins with once `got` is put
back in front of it. Nothing changes on the socket but what has arrived and what was asked for. -/
theorem readOn_eq (size : Nat) (got : Bytes) (s : Socket) (fits : got.length ≤ size) :
    ∃ rest reads, readOn size got s = ((s.inflow.prepend got).frame size,
        { s with arrivals := rest, reads := reads }) ∧
      Inflow.of rest = (s.inflow.prepend got).afterFrame size := by
  induction missing : size - got.length using Nat.strongRecOn generalizing got s with
  | ind n ih =>
      rw [readOn]
      split
      case isTrue short =>
        rcases s.recv_cases (Nat.sub_pos_of_lt short) with
          ⟨b, more, rest, found, fitting, flow⟩ | ⟨rest, found, flow⟩ | ⟨cause, rest, found, flow⟩
        · obtain ⟨rest', reads, read, left⟩ := ih (size - (got ++ b :: more).length)
            (by simp only [List.length_append, List.length_cons]; omega) (got ++ b :: more)
            { s with arrivals := rest, reads := s.reads ++ [size - got.length] }
            (by simp only [List.length_append, List.length_cons]; omega) rfl
          -- The bytes found move from the inflow to what is there; together they stay the same.
          have same : (Inflow.of rest).prepend (got ++ b :: more) = s.inflow.prepend got := by
            rw [flow, Inflow.prepend_prepend]
          refine ⟨rest', reads, ?_, left.trans (congrArg _ same)⟩
          rw [found]
          exact read.trans (by rw [Socket.inflow, same])
        · refine ⟨rest, s.reads ++ [size - got.length], ?_, ?_⟩
          · rw [found, flow, Inflow.frame_of_lt (by simpa using short)]
            simp
          · rw [flow, Inflow.afterFrame_of_lt (by simpa using short)]
            rfl
        · refine ⟨rest, s.reads ++ [size - got.length], ?_, ?_⟩
          · rw [found, flow, Inflow.frame_of_lt (by simpa using short)]
            rfl
          · rw [flow, Inflow.afterFrame_of_lt (by simpa using short)]
            rfl
      case isFalse full =>
        have exact' : got.length = size := by omega
        refine ⟨s.arrivals, s.reads, ?_, ?_⟩
        · rw [Inflow.frame_of_le (by simp; omega)]
          simp [← exact']
        · rw [Inflow.afterFrame_of_le (by simp; omega)]
          simp [← exact', Socket.inflow]

/-- Reading a frame gives what the inflow begins with. -/
theorem readFrame_eq (size : Nat) (s : Socket) :
    ∃ rest reads, readFrame size s = (s.inflow.frame size,
        { s with arrivals := rest, reads := reads }) ∧
      Inflow.of rest = s.inflow.afterFrame size :=
  readOn_eq size [] s (Nat.zero_le size)

/-- How a dialogue breaks off when the stream ends with `got` of the `size` bytes of a frame. -/
def cutShort (got size : Nat) : Option Fault → Breakdown
  | none => .error (.truncated got size)
  | some cause => .fault cause

/-- Reading a frame takes it off the inflow, or breaks off if the inflow is too short. -/
theorem readFrame_cases (size : Nat) (s : Socket) :
    (∃ rest reads, size ≤ s.inflow.bytes.length ∧
      readFrame size s =
        (.ok (s.inflow.bytes.take size), { s with arrivals := rest, reads := reads }) ∧
      Socket.inflow { s with arrivals := rest, reads := reads } =
        { s.inflow with bytes := s.inflow.bytes.drop size }) ∨
    (∃ rest reads, s.inflow.bytes.length < size ∧
      readFrame size s = (.error (cutShort s.inflow.bytes.length size s.inflow.ending),
        { s with arrivals := rest, reads := reads })) := by
  obtain ⟨rest, reads, found, after⟩ := readFrame_eq size s
  by_cases whole : size ≤ s.inflow.bytes.length
  · rw [Inflow.frame_of_le whole] at found
    rw [Inflow.afterFrame_of_le whole] at after
    exact .inl ⟨rest, reads, whole, found, after⟩
  · have short := Nat.not_le.mp whole
    rw [Inflow.frame_of_lt short] at found
    refine .inr ⟨rest, reads, short, found.trans ?_⟩
    cases s.inflow.ending <;> rfl

end Socks

end SocksTunnel
