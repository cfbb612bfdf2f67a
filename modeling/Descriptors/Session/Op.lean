import Descriptors.Session.Doc
/-! The operations a session runs, one constructor per operation of the protocol. Handles,
buffers, monitors and observers are named; `$` names the descriptor an observer is told
about, and an absent monitor name or `$` the monitor that is dispatching. Bytes are given
as text, as hex, or as the counting pattern.

Most operations are read whole before they run. Those whose misuses come between their steps
(a handle looked up, a name found taken, bytes read, a buffer taken) keep their fields unread,
as `Field`s. -/
namespace Descriptors
namespace Session

/-- Bytes as an operation gives them. -/
inductive ByteSource where
  | text (s : String)
  | hex (s : String)
  | pattern (n : Nat)
  | missing
  deriving Repr, Inhabited

/-- A descriptor named by a handle, or a raw number. -/
inductive Target where
  | handle (name : String)
  | number (fd : Int)
  deriving Repr, Inhabited

/-- Log levels of the logging configuration. -/
inductive Level where
  | off | error | warn | info | debug | trace
  deriving Repr, DecidableEq

/-- A logging configuration, as the builder calls that make it. -/
structure LoggingSpec where
  fromDefault : Bool
  file : Option String
  noFile : Bool
  fileLevel : Option Level
  screen : Option Bool
  screenLevel : Option Level
  deriving Repr

/-- A field of an operation as its record gives it: the value, or the misuse that its absence
or kind is. An operation that reads such a field reads it when it comes to it, so its misuse
is answered only after the steps before it have run. -/
abbrev Field (α : Type) := Except String α

/-- What a helper thread does after interrupting a blocked transfer: an operation on a
handle, which must be a read of `n` bytes or a write of the given bytes. -/
structure FollowUp where
  h : Field String
  op : Field String
  bytes : Field ByteSource
  n : Field Nat
  deriving Repr

/-- An interrupted transfer: after `afterMs` a signal arrives, and the follow-up runs. -/
structure Interrupt where
  afterMs : Nat
  followUp : Option FollowUp
  deriving Repr

/-- What a completion callback does besides recording its event. A callback may also panic
once its event is recorded; the worker catches the panic and goes on as after a return, so
nothing here tells the two apart. -/
structure CallbackSpec where
  tag : Option Doc
  hold : Bool
  deriving Repr

/-- The buffer an asynchronous read fills. -/
inductive ReadInto where
  | fresh (n : Field Nat) (size : Field (Option Nat))
  | named (b : String) (n : Field (Option Nat))
  deriving Repr

/-- The buffer an asynchronous write sends. -/
inductive WriteFrom where
  | bytes (src : Field ByteSource) (size : Field (Option Nat)) (n : Field (Option Nat))
  | named (b : String) (n : Field (Option Nat))
  deriving Repr

/-- The memory a raw asynchronous write sends: given bytes, `n` of them by default all, or
`n` zero bytes. -/
inductive RawSource where
  | given (src : Field ByteSource) (n : Field (Option Nat))
  | zeros (n : Field Nat)
  deriving Repr

/-- One operation. -/
inductive Op where
  | bufNew (b : Field String) (size : Field Nat)
  | bufFrom (b : Field String) (bytes : Field ByteSource)
  | bufFill (b : Field String) (bytes : Field ByteSource)
  | bufFillFrom (b src : Field String) (n : Field Nat)
  | bufCompare (b : Field String) (bytes : Field ByteSource) (n : Field Nat)
  | bufGet (b : Field String) (i : Field Nat)
  | bufSet (b : Field String) (i v : Field Nat)
  | bufInfo (b : String)
  | bufEq (b other : Field String)
  | pipe (name : Field String) (flags : Field (Option Int))
  | split (name : String)
  | fileCreate (name path : Field String)
  | fileOpen (name path : Field String) (flags : Field Int) (mode : Field (Option Nat))
  | fileLen (h : String)
  | fileIsEmpty (h : String)
  | intoDescriptor (h name : String)
  | fifoCreate (path : String) (mode : Nat)
  | fifoOpen (name path : Field String) (flags : Field Int)
  | fifoCapacity (h : String)
  | serverBind (name path : Field String) (backlog : Field (Option Int))
  | serverAccept (h name : Field String)
  | serverPath (h : String)
  | connect (name path : Field String)
  | raw (name : Field String) (fd : Field Int)
  | read (interrupt : Field (Option Interrupt)) (h : Field String) (n : Field Nat)
      (size : Field (Option Nat))
  | pipeRead (h : Field String) (n : Field Nat) (size : Field (Option Nat))
  | readBuffer (h b : Field String) (n : Field Nat)
  | write (interrupt : Field (Option Interrupt)) (h : Field String) (bytes : Field ByteSource)
      (size n : Field (Option Nat))
  | pipeWrite (h : Field String) (bytes : Field ByteSource) (size n : Field (Option Nat))
  | writeBuffer (h b : Field String) (n : Field Nat)
  | writeStr (h s : Field String)
  | pipeWriteStr (h s : Field String)
  | asyncRead (h : Field String) (into : ReadInto) (cb : CallbackSpec)
  | asyncWrite (h : Field String) (src : WriteFrom) (cb : CallbackSpec)
  | asyncReadRaw (h : Field String) (n : Field Nat) (null : Bool) (cb : CallbackSpec)
  | asyncWriteRaw (h : Field String) (src : RawSource) (null : Bool) (cb : CallbackSpec)
  | await (h : Field String) (count : Field Nat)
  | state (h : String)
  | pending (h : String)
  | tryClone (h name : Field String)
  | duplicateFrom (h src : Field String)
  | close (h : String)
  | drop (h : String)
  | rewrap (h name : String)
  | monitorNew (m : String)
  | monitorDrop (m : String)
  | observer (o : String) (actions : List Op)
  | monitorStart (m : Option String) (obs : Field String) (target : Field Target)
  | monitorStop (m : Option String) (target : Field Target)
  | monitorIs (m : Option String) (target : Field Target)
  | monitorInfo (m : Option String)
  | monitorWait (m : Option String)
  | monitorWaitTimeout (m : Option String) (micros : Nat)
  | debug (h : String)
  | loggingInit (spec : LoggingSpec)
  /-- An operation that could not be read; running it answers the message. -/
  | invalid (message : String)
  deriving Repr, Inhabited

/-- The largest buffer an operation may ask for: 16 MiB. -/
def allocationLimit : Nat := 16 * 1024 * 1024

/-- Why an operation's bytes cannot be had: a misuse of the protocol, or a panic of the
reading itself (hex text cut inside a character). -/
inductive ByteFault where
  | misuse (message : String)
  | panic
  deriving Repr

namespace ByteSource

/-- The bytes given, or why there are none. -/
def resolve : ByteSource → Except ByteFault (List UInt8)
  | text s => .ok (Bytes.ofText s)
  | hex s =>
    match Bytes.ofHex s with
    | .ok bs => .ok bs
    | .error .oddLength => .error (.misuse "odd hex length")
    | .error .splitCharacter => .error .panic
    | .error .notHex => .error (.misuse "bad hex")
  | pattern n =>
    if allocationLimit < n then .error (.misuse "allocation too large")
    else .ok (Bytes.pattern n)
  | missing => .error (.misuse "missing data/hex/pattern")

end ByteSource

end Session
end Descriptors
