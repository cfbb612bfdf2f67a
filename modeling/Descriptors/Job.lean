import Descriptors.Transfer
/-! Asynchronous jobs. A job is a transfer over a buffer (or over a raw region of memory)
together with the callback that receives the outcome. It runs the same loop a blocking
transfer runs, and hands the callback the buffer back, with the received bytes written over
its front, and the count moved, even when the loop stopped on a failure. -/
namespace Descriptors

/-- The four kinds of job. -/
inductive JobKind where
  | readBuffer | readRaw | writeBuffer | writeRaw
  deriving Repr, DecidableEq

namespace JobKind

def direction : JobKind → Direction
  | readBuffer | readRaw => .read
  | writeBuffer | writeRaw => .write

/-- Whether the job works on raw memory rather than a buffer. -/
def isRaw : JobKind → Bool
  | readRaw | writeRaw => true
  | _ => false

end JobKind

/-- A transfer in progress, in either direction. -/
inductive Transfer where
  | reading (loop : ReadLoop)
  | writing (loop : WriteLoop)
  deriving Repr, DecidableEq

namespace Transfer

/-- A transfer of `n` bytes over `region`: reads fill its front, writes send its front. -/
def start (dir : Direction) (region : List UInt8) (n : Nat) : Transfer :=
  match dir with
  | .read => .reading (ReadLoop.start n)
  | .write => .writing (WriteLoop.start (region.take n))

/-- The outcome once finished: the bytes received (none for writes), the count and the
failure that stopped the loop. -/
def outcome? : Transfer → Option (List UInt8 × Nat × Option IoError)
  | .reading (.finished got e) => some (got, got.length, e)
  | .writing (.finished sent e) => some ([], sent, e)
  | _ => none

end Transfer

/-- A job: what to transfer, over which bytes, and the callback to run when it is done.
`size` never exceeds the region's length once the job was accepted. -/
structure Job (κ : Type) where
  kind : JobKind
  size : Nat
  region : List UInt8
  callback : κ
  deriving Repr

namespace Job

/-- The transfer a job starts with. -/
def transfer {κ : Type} (j : Job κ) : Transfer :=
  Transfer.start j.kind.direction j.region j.size

/-- The region handed back to the callback: received bytes over its front, the rest as
it was. -/
def handBack (region got : List UInt8) : List UInt8 :=
  got ++ region.drop got.length

end Job

end Descriptors
