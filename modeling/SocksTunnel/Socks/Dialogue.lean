import SocksTunnel.Socket
import SocksTunnel.Socks.Error

/-!
Dialogues with a proxy. A dialogue says what to send, how many bytes to read next and what to do
with them, what to note in the log, and how it ends; it does not say how the bytes come in.

`Dialogue.run` holds a dialogue on a socket. A frame is read to its exact length, in as many
reads as it takes, each asking for what is still missing.
-/

namespace SocksTunnel.Socks

open SocksTunnel.Text

/-- A dialogue that ends with an `α`, unless it fails. -/
inductive Dialogue (α : Type) where
  | done (result : α)
  | fail (error : HandshakeError)
  | send (bytes : Bytes) (next : Dialogue α)
  | read (size : Nat) (next : Bytes → Dialogue α)
  | note (message : String) (next : Dialogue α)

namespace Dialogue

variable {α β : Type}

/-- Go on with the result of a dialogue. -/
def bind : Dialogue α → (α → Dialogue β) → Dialogue β
  | done result, f => f result
  | fail error, _ => fail error
  | send bytes next, f => send bytes (next.bind f)
  | read size next, f => read size fun bytes => (next bytes).bind f
  | note message next, f => note message (next.bind f)

instance : Monad Dialogue where
  pure := done
  bind := bind

/-- Send a frame. -/
def say (bytes : Bytes) : Dialogue Unit := send bytes (done ())

/-- Read a frame of a given length. -/
def hear (size : Nat) : Dialogue Bytes := read size done

/-- Note a message in the log. -/
def remark (message : String) : Dialogue Unit := note message (done ())

end Dialogue

/-! ### On a socket -/

/-- Why a dialogue on a socket broke off. -/
inductive Breakdown where
  | error (cause : HandshakeError)
  | fault (cause : Fault)
  deriving DecidableEq, Repr

/-- Read what is missing of a frame of `size` bytes, `got` being there. -/
def readOn (size : Nat) (got : Bytes) (s : Socket) : Except Breakdown Bytes × Socket :=
  if got.length < size then
    match s.recv (size - got.length) with
    | (.error cause, s) => (.error (.fault cause), s)
    | (.ok [], s) => (.error (.error (.truncated got.length size)), s)
    | (.ok (b :: more), s) => readOn size (got ++ b :: more) s
  else (.ok got, s)
termination_by size - got.length
decreasing_by simp only [List.length_append, List.length_cons]; omega

/-- Read a frame of exactly `size` bytes. -/
def readFrame (size : Nat) (s : Socket) : Except Breakdown Bytes × Socket := readOn size [] s

/-- How a dialogue went: its outcome, the socket after it, and the messages noted. -/
structure Held (α : Type) where
  outcome : Except Breakdown α
  socket : Socket
  notes : List String

/-- Hold a dialogue on a socket. The first fault or error ends it. -/
def Dialogue.run {α : Type} : Dialogue α → Socket → Held α
  | .done result, s => ⟨.ok result, s, []⟩
  | .fail error, s => ⟨.error (.error error), s, []⟩
  | .send bytes next, s =>
      match s.send bytes with
      | (some cause, s) => ⟨.error (.fault cause), s, []⟩
      | (none, s) => next.run s
  | .read size next, s =>
      match readFrame size s with
      | (.error cause, s) => ⟨.error cause, s, []⟩
      | (.ok bytes, s) => (next bytes).run s
  | .note message next, s =>
      let held := next.run s
      { held with notes := message :: held.notes }

end SocksTunnel.Socks
