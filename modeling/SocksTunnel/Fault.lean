import SocksTunnel.Text.Numeral

/-!
Faults: what the system reports when a call on a socket, a resolver or a thread goes wrong.

Most kinds are failures of the system itself, and the error number of a failure that is not
classified otherwise says which. Two are not: a host name that cannot be encoded,
and a resource of the running program that is exhausted. The code that handles system faults lets
those two pass.
-/

namespace SocksTunnel

open SocksTunnel.Text

/-- Kinds of faults. -/
inductive FaultKind where
  | system
  | connectionReset
  | connectionRefused
  | connectionAborted
  | brokenPipe
  | timeout
  | permission
  | missingFile
  | existingFile
  | notDirectory
  | isDirectory
  | missingProcess
  | missingChild
  | interruptedCall
  | wouldBlock
  | nameResolution
  | encoding
  | exhausted
  deriving DecidableEq, Repr

/-- Whether the kind is a failure of the system. -/
def FaultKind.isSystem : FaultKind → Bool
  | .encoding => false
  | .exhausted => false
  | _ => true

/-- The kind that an error number of the system stands for. -/
def FaultKind.ofNumber (n : Int) : FaultKind :=
  if n = 1 ∨ n = 13 then .permission
  else if n = 2 then .missingFile
  else if n = 3 then .missingProcess
  else if n = 4 then .interruptedCall
  else if n = 10 then .missingChild
  else if n = 11 ∨ n = 114 ∨ n = 115 then .wouldBlock
  else if n = 17 then .existingFile
  else if n = 20 then .notDirectory
  else if n = 21 then .isDirectory
  else if n = 32 ∨ n = 108 then .brokenPipe
  else if n = 103 then .connectionAborted
  else if n = 104 then .connectionReset
  else if n = 110 then .timeout
  else if n = 111 then .connectionRefused
  else .system

/-- A fault: its kind, the error number if the system gave one, and a text. -/
structure Fault where
  kind : FaultKind
  number : Option Int
  text : String
  deriving DecidableEq, Repr

namespace Fault

/-- A fault that the system reported without a kind: its number, if there is one, gives it. -/
def ofSystem (number : Option Int) (text : String) : Fault :=
  ⟨(number.map FaultKind.ofNumber).getD .system, number, text⟩

def isSystem (f : Fault) : Bool := f.kind.isSystem

/-- The message of a fault, with the error number in front of the text. -/
def message (f : Fault) : String :=
  match f.number with
  | some n => "[Errno " ++ signedDecimal n ++ "] " ++ f.text
  | none => f.text

end Fault

end SocksTunnel
