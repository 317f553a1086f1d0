import SocksTunnel.Clock

/-!
The history of traffic: one bucket for each run of updates in the same second, at most sixty
buckets, the newest first.
-/

namespace SocksTunnel.Traffic

/-- The bytes of one second. -/
structure Bucket where
  bytes : Int
  second : Int
  deriving DecidableEq, Repr

/-- Buckets, the newest first. -/
abbrev History := List Bucket

namespace History

/-- How many buckets are kept. -/
def capacity : Nat := 60

/-- Add bytes at a second. They go into the newest bucket if it is of that second; otherwise they
start a bucket, and the oldest one may fall out. -/
def add (bytes second : Int) : History → History
  | [] => [⟨bytes, second⟩]
  | newest :: older =>
      if newest.second = second then ⟨newest.bytes + bytes, second⟩ :: older
      else (⟨bytes, second⟩ :: newest :: older).take capacity

/-- The bytes of all buckets. -/
def total (h : History) : Int := h.foldr (fun b n => b.bytes + n) 0

/-- The bytes of all buckets after a point in time. -/
def totalAfter (cutoff : Rat) (h : History) : Int :=
  total (h.filter fun b => cutoff < (b.second : Rat))

/-- The length of the window that bandwidth is measured over, in seconds. -/
def window : Nat := 5

/-- The bytes within the window that ends at a reading. -/
def totalInWindow (now : Reading) (h : History) : Int :=
  let start := now.sub (.ofInt window)
  match start with
  | .finite .. => match start.value? with
    | some cutoff => h.totalAfter cutoff
    | none => 0
  | .infinite true => h.total
  | _ => 0

end History

end SocksTunnel.Traffic
