import Descriptors.Error
/-! Blocking transfers. A transfer of `n` bytes issues `read(2)` or `write(2)` calls until
all `n` bytes have moved: short transfers accumulate, an interrupted call is issued again,
a call that returns 0 ends the transfer early, and any other failure ends it with the
count moved so far. Before any call, the capacity check refuses an empty buffer and a
request longer than the buffer. -/
namespace Descriptors

/-- What one `read(2)` call did. -/
inductive ReadCall where
  | interrupted
  | failed (e : IoError)
  | endOfStream
  | received (bytes : List UInt8)
  deriving Repr, DecidableEq

/-- What one `write(2)` call did. -/
inductive WriteCall where
  | interrupted
  | failed (e : IoError)
  | refused
  | accepted (count : Nat)
  deriving Repr, DecidableEq

/-- What a failed `read(2)` means to the loop: `EINTR` asks for the call again, any other
failure ends the loop. -/
def ReadCall.ofFailure (e : Errno) : ReadCall :=
  if e = .eintr then .interrupted else .failed (.os e)

/-- What a failed `write(2)` means to the loop, as for a read. -/
def WriteCall.ofFailure (e : Errno) : WriteCall :=
  if e = .eintr then .interrupted else .failed (.os e)

/-- A read loop: still asking for `left` bytes, with the chunks received so far (newest
first), or finished with what it received and the failure that stopped it, if one did. -/
inductive ReadLoop where
  | running (left : Nat) (chunks : List (List UInt8))
  | finished (got : List UInt8) (error : Option IoError)
  deriving Repr, DecidableEq

/-- A write loop: still sending `rest`, having sent `sent` bytes, or finished with the count
sent and the failure that stopped it, if one did. -/
inductive WriteLoop where
  | running (rest : List UInt8) (sent : Nat)
  | finished (sent : Nat) (error : Option IoError)
  deriving Repr, DecidableEq

/-- Refuses a transfer of `requested` bytes over `capacity` bytes when the buffer is empty
or too short. -/
def checkCapacity (requested capacity : Nat) : Except Error Unit :=
  if capacity = 0 ∨ capacity < requested then .error (.bufferTooSmall requested capacity)
  else .ok ()

/-- The capacity a raw region offers the check: none behind a null pointer, otherwise the `n`
bytes the caller vouches for. -/
def rawCapacity (null : Bool) (n : Nat) : Nat := if null then 0 else n

namespace ReadLoop

/-- The bytes of chunks kept newest first, in the order they arrived. -/
def gathered (chunks : List (List UInt8)) : List UInt8 := chunks.reverse.flatten

/-- A read of `want` bytes; nothing is asked for when `want` is zero. -/
def start (want : Nat) : ReadLoop :=
  if want = 0 then .finished [] none else .running want []

/-- How many bytes the next call asks for. -/
def request : ReadLoop → Nat
  | .running left _ => left
  | .finished .. => 0

/-- The loop after one call. -/
def step : ReadLoop → ReadCall → ReadLoop
  | .finished got e, _ => .finished got e
  | .running left cs, .interrupted => .running left cs
  | .running _ cs, .failed e => .finished (gathered cs) (some e)
  | .running _ cs, .endOfStream => .finished (gathered cs) none
  | .running left cs, .received bs =>
    if bs.length < left then .running (left - bs.length) (bs :: cs)
    else .finished (gathered (bs :: cs)) none

/-- The loop after a whole schedule of calls. -/
def run (l : ReadLoop) (calls : List ReadCall) : ReadLoop :=
  calls.foldl step l

end ReadLoop

namespace WriteLoop

/-- A write of `data`; nothing is sent when it is empty. -/
def start (data : List UInt8) : WriteLoop :=
  if data.isEmpty then .finished 0 none else .running data 0

/-- The bytes the next call offers. -/
def pending : WriteLoop → List UInt8
  | .running rest _ => rest
  | .finished .. => []

/-- The loop after one call. -/
def step : WriteLoop → WriteCall → WriteLoop
  | .finished sent e, _ => .finished sent e
  | .running rest sent, .interrupted => .running rest sent
  | .running _ sent, .failed e => .finished sent (some e)
  | .running _ sent, .refused => .finished sent none
  | .running rest sent, .accepted k =>
    match rest.drop k with
    | [] => .finished (sent + k) none
    | more => .running more (sent + k)

/-- The loop after a whole schedule of calls. -/
def run (l : WriteLoop) (calls : List WriteCall) : WriteLoop :=
  calls.foldl step l

end WriteLoop

/-- The result a finished transfer reports: its count, or a transfer error that keeps it. -/
def transferResult (op : Direction) (fd : Int) (count : Nat) : Option IoError → Except Error Nat
  | none => .ok count
  | some e => .error (.transfer op fd count e)

end Descriptors
