import Descriptors.Session.Op
import Descriptors.Kernel.Flags
import Descriptors.Text.WhiteSpace
/-! Reading a script from its document: a record with the list of operations under `ops`,
each operation a record named by its `op` field.

A field that is missing or of the wrong kind is a misuse, answered in place of the operation
it belongs to; the rest of the script still runs. The rules differ by kind of field:

* a required text or unsigned number must be there and of its kind;
* an optional unsigned number may be missing or null, and otherwise must be one;
* an optional text or switch of the wrong kind counts as missing;
* flags and a backlog, once present, must be valid, null included.

Unsigned numbers are those of a 64-bit word; flags, a backlog and a raw descriptor number are
signed 32-bit numbers. -/
namespace Descriptors
namespace Session

/-- Reading part of a script: the value, or the misuse that its field is. -/
abbrev Decode := Except String

namespace Doc

/-- The value under name `k` of a record, null included. -/
def field? (d : Doc) (k : String) : Option Doc :=
  match d with
  | .record fields => ((fields.reverse.find? (·.1 == k)).map Prod.snd)
  | _ => none

/-- The value under name `k` of a record; null counts as missing. -/
def given? (d : Doc) (k : String) : Option Doc :=
  match d.field? k with
  | some .null => none
  | v => v

def asText? : Doc → Option String
  | .text s => some s
  | _ => none

def asBool? : Doc → Option Bool
  | .bool b => some b
  | _ => none

/-- An exact integer that fits an unsigned 64-bit word. -/
def asUnsigned? : Doc → Option Nat
  | .num n => if 0 ≤ n && n < Int.pow 2 64 then some n.toNat else none
  | _ => none

/-- An exact integer that fits a signed 64-bit word. -/
def asSigned? : Doc → Option Int
  | .num n => if -Int.pow 2 63 ≤ n && n < Int.pow 2 63 then some n else none
  | _ => none

mutual

/-- How deeply lists and records nest in a document. -/
def depth : Doc → Nat
  | .list items => depthItems items + 1
  | .record fields => depthFields fields + 1
  | _ => 0

def depthItems : List Doc → Nat
  | [] => 0
  | d :: ds => max d.depth (depthItems ds)

def depthFields : List (String × Doc) → Nat
  | [] => 0
  | (_, d) :: rest => max d.depth (depthFields rest)

end

end Doc

namespace Request

def text (d : Doc) (k : String) : Decode String :=
  match (d.field? k).bind Doc.asText? with
  | some s => pure s
  | none => throw s!"missing string field {k}"

def unsigned (d : Doc) (k : String) : Decode Nat :=
  match (d.field? k).bind Doc.asUnsigned? with
  | some n => pure n
  | none => throw s!"missing unsigned field {k}"

def unsigned? (d : Doc) (k : String) : Decode (Option Nat) :=
  match d.given? k with
  | none => pure none
  | some v =>
    match v.asUnsigned? with
    | some n => pure (some n)
    | none => throw s!"field {k} is not unsigned"

def text? (d : Doc) (k : String) : Option String := (d.field? k).bind Doc.asText?

def switch? (d : Doc) (k : String) : Option Bool := (d.field? k).bind Doc.asBool?

/-- A switch that is off unless set to true. -/
def switch (d : Doc) (k : String) : Bool := (switch? d k).getD false

/-- Whether a number fits a signed 32-bit word. -/
def isInt32 (n : Int) : Bool := -Int.pow 2 31 ≤ n && n < Int.pow 2 31

/-- Bytes given as text under `data`, as hex under `hex`, or as the counting pattern of the
length under `pattern`, in that order of preference; `missing` when none is given. -/
def bytes (d : Doc) : Decode ByteSource := do
  if let some s := text? d "data" then return .text s
  if let some s := text? d "hex" then return .hex s
  match ← unsigned? d "pattern" with
  | some n => pure (.pattern n)
  | none => pure .missing

/-- The bit of a flag name, white space around it ignored. -/
def flagBits (name : String) : Decode Nat :=
  let name := Text.trim name
  match Kernel.OpenFlags.named? name with
  | some bit => pure bit
  | none => throw s!"unknown flag {name}"

/-- Flags given as a number, as names joined by bars (an empty text is no flag), or as a list
of names. -/
def flags (v : Doc) : Decode Int :=
  match v with
  | .num _ | .real _ =>
    match v.asSigned? with
    | some n => if isInt32 n then pure n else throw "flags out of range"
    | none => throw "flags out of range"
  | .text s =>
    let s := Text.trim s
    if s.isEmpty then pure 0
    else Int.ofNat <$> (s.splitOn "|").foldlM (fun acc part => (acc ||| ·) <$> flagBits part) 0
  | .list names =>
    Int.ofNat <$> names.foldlM (fun acc item =>
      match item with
      | .text s => (acc ||| ·) <$> flagBits s
      | _ => throw "flag names must be strings") 0
  | _ => throw "bad flags"

def flags? (d : Doc) : Decode (Option Int) :=
  match d.field? "flags" with
  | none => pure none
  | some v => some <$> flags v

/-- A listening backlog: a signed 32-bit number. -/
def backlog? (d : Doc) : Decode (Option Int) :=
  match d.field? "backlog" with
  | none => pure none
  | some v =>
    match v.asSigned? with
    | some n => if isInt32 n then pure (some n) else throw "bad backlog"
    | none => throw "bad backlog"

/-- A raw descriptor number under `fd`: a signed 32-bit number that is negative or at least
1024, so that it never names a descriptor of the process. Once the field is there, null
included, it must be such a number. -/
def rawNumber (d : Doc) : Decode Int :=
  match d.field? "fd" with
  | none => throw "missing fd"
  | some v =>
    match v.asSigned? with
    | some n =>
      if isInt32 n && (n < 0 || 1024 ≤ n) then pure n
      else throw "raw fd must be an i32 that is negative or >= 1024"
    | none => throw "raw fd must be an i32 that is negative or >= 1024"

/-- A descriptor named by the raw number under `fd` when that field is given at all, or else
by the handle under `h`. -/
def target (d : Doc) : Decode Target :=
  match d.field? "fd" with
  | some _ => .number <$> rawNumber d
  | none => .handle <$> text d "h"

def level? (d : Doc) (k : String) : Decode (Option Level) :=
  match text? d k with
  | none => pure none
  | some "OFF" => pure (some .off)
  | some "ERROR" => pure (some .error)
  | some "WARN" => pure (some .warn)
  | some "INFO" => pure (some .info)
  | some "DEBUG" => pure (some .debug)
  | some "TRACE" => pure (some .trace)
  | some other => throw s!"unknown level {other}"

/-- A follow-up read from its record; each of its fields is read when the helper is
prepared. -/
def followUp (d : Doc) : FollowUp :=
  { h := text d "h", op := text d "op", bytes := bytes d, n := unsigned d "n" }

/-- The longest delay of an interruption, in milliseconds. -/
def interruptLimit : Nat := 100

/-- The interruption under `interrupt`: once the field is there, null included, it must be a
record with a delay of at most 100 ms; its follow-up, under `then`, is optional. -/
def interrupt? (d : Doc) : Decode (Option Interrupt) := do
  match d.field? "interrupt" with
  | none => pure none
  | some i =>
    let after ← unsigned i "after_ms"
    if interruptLimit < after then throw "after_ms above 100"
    pure (some ⟨after, (i.field? "then").map followUp⟩)

/-- Whether an operation gives its bytes at all: one of their fields is there, null
included. -/
def givesBytes (d : Doc) : Bool :=
  ["data", "hex", "pattern"].any fun k => (d.field? k).isSome

/-- A job's callback; whether it panics (`panic`) changes nothing the session shows. -/
def callback (d : Doc) : CallbackSpec :=
  { tag := d.given? "tag", hold := switch d "hold" }

/-- The longest wait with a timeout, in microseconds. -/
def waitLimit : Nat := 200000

/-- A wait's timeout in microseconds: under `us`, or else in milliseconds under `ms`. The
microseconds of a timeout in milliseconds are counted in a 64-bit word, which wraps. -/
def waitMicros (d : Doc) : Decode Nat := do
  let micros ← match ← unsigned? d "us" with
    | some us => pure us
    | none => do pure ((← unsigned d "ms") * 1000 % Nat.pow 2 64)
  if waitLimit < micros then throw "timeout above 200 ms"
  pure micros

/-- An operation of the name `name`, read from `d`; `sub` reads the operations an observer
runs. -/
def opNamed (sub : Doc → Op) (d : Doc) : String → Decode Op
  | "buf_new" => pure (.bufNew (text d "b") (unsigned d "size"))
  | "buf_from" => pure (.bufFrom (text d "b") (bytes d))
  | "buf_fill" => pure (.bufFill (text d "b") (bytes d))
  | "buf_fill_from" => pure (.bufFillFrom (text d "b") (text d "src") (unsigned d "n"))
  | "buf_compare" => pure (.bufCompare (text d "b") (bytes d) (unsigned d "n"))
  | "buf_get" => pure (.bufGet (text d "b") (unsigned d "i"))
  | "buf_set" => pure (.bufSet (text d "b") (unsigned d "i") (unsigned d "v"))
  | "buf_info" => do pure (.bufInfo (← text d "b"))
  | "buf_eq" => pure (.bufEq (text d "b") (text d "other"))
  | "pipe" => pure (.pipe (text d "name") (flags? d))
  | "split" => do pure (.split (← text d "name"))
  | "file_create" => pure (.fileCreate (text d "name") (text d "path"))
  | "file_open" =>
    pure (.fileOpen (text d "name") (text d "path") ((flags? d).map (·.getD 0))
      (unsigned? d "mode"))
  | "file_len" => do pure (.fileLen (← text d "h"))
  | "file_is_empty" => do pure (.fileIsEmpty (← text d "h"))
  | "into_descriptor" => do pure (.intoDescriptor (← text d "h") (← text d "name"))
  | "fifo_create" => do pure (.fifoCreate (← text d "path") ((← unsigned? d "mode").getD 0o600))
  | "fifo_open" => pure (.fifoOpen (text d "name") (text d "path") ((flags? d).map (·.getD 0)))
  | "fifo_capacity" => do pure (.fifoCapacity (← text d "h"))
  | "server_bind" => pure (.serverBind (text d "name") (text d "path") (backlog? d))
  | "server_accept" => pure (.serverAccept (text d "h") (text d "name"))
  | "server_path" => do pure (.serverPath (← text d "h"))
  | "connect" => pure (.connect (text d "name") (text d "path"))
  | "raw" => pure (.raw (text d "name") (rawNumber d))
  | "read" => pure (.read (interrupt? d) (text d "h") (unsigned d "n") (unsigned? d "size"))
  | "pipe_read" => pure (.pipeRead (text d "h") (unsigned d "n") (unsigned? d "size"))
  | "read_buffer" => pure (.readBuffer (text d "h") (text d "b") (unsigned d "n"))
  | "write" =>
    pure (.write (interrupt? d) (text d "h") (bytes d) (unsigned? d "size") (unsigned? d "n"))
  | "pipe_write" => pure (.pipeWrite (text d "h") (bytes d) (unsigned? d "size") (unsigned? d "n"))
  | "write_buffer" => pure (.writeBuffer (text d "h") (text d "b") (unsigned d "n"))
  | "write_str" => pure (.writeStr (text d "h") (text d "data"))
  | "pipe_write_str" => pure (.pipeWriteStr (text d "h") (text d "data"))
  | "async_read" =>
    let into := match text? d "b" with
      | some b => ReadInto.named b (unsigned? d "n")
      | none => ReadInto.fresh (unsigned d "n") (unsigned? d "size")
    pure (.asyncRead (text d "h") into (callback d))
  | "async_write" =>
    let src := match text? d "b" with
      | some b => WriteFrom.named b (unsigned? d "n")
      | none => WriteFrom.bytes (bytes d) (unsigned? d "size") (unsigned? d "n")
    pure (.asyncWrite (text d "h") src (callback d))
  | "async_read_raw" =>
    pure (.asyncReadRaw (text d "h") (unsigned d "n") (switch d "null") (callback d))
  | "async_write_raw" =>
    let src := if givesBytes d then RawSource.given (bytes d) (unsigned? d "n")
      else RawSource.zeros (unsigned d "n")
    pure (.asyncWriteRaw (text d "h") src (switch d "null") (callback d))
  | "await" => pure (.await (text d "h") (unsigned d "count"))
  | "state" => do pure (.state (← text d "h"))
  | "pending" => do pure (.pending (← text d "h"))
  | "try_clone" => pure (.tryClone (text d "h") (text d "name"))
  | "duplicate_from" => pure (.duplicateFrom (text d "h") (text d "src"))
  | "close" => do pure (.close (← text d "h"))
  | "drop" => do pure (.drop (← text d "h"))
  | "rewrap" => do pure (.rewrap (← text d "h") (← text d "name"))
  | "monitor_new" => do pure (.monitorNew (← text d "m"))
  | "monitor_drop" => do pure (.monitorDrop (← text d "m"))
  | "observer" => do
    let o ← text d "o"
    match d.field? "actions" with
    | none => pure (.observer o [])
    | some (.list actions) => pure (.observer o (actions.map sub))
    | some _ => throw "actions must be a list"
  | "monitor_start" => pure (.monitorStart (text? d "m") (text d "obs") (target d))
  | "monitor_stop" => pure (.monitorStop (text? d "m") (target d))
  | "monitor_is" => pure (.monitorIs (text? d "m") (target d))
  | "monitor_info" => pure (.monitorInfo (text? d "m"))
  | "monitor_wait" => pure (.monitorWait (text? d "m"))
  | "monitor_wait_timeout" => do pure (.monitorWaitTimeout (text? d "m") (← waitMicros d))
  | "debug" => do pure (.debug (← text d "h"))
  | "logging_init" => do
    pure (.loggingInit { fromDefault := switch d "default", file := text? d "file",
                         noFile := switch d "no_file", fileLevel := ← level? d "file_level",
                         screen := switch? d "screen", screenLevel := ← level? d "screen_level" })
  | other => throw s!"unknown op {other}"

/-- An operation read from `d`. Only `read` and `write` may be interrupted. -/
def opOf (sub : Doc → Op) (d : Doc) : Decode Op := do
  let name ← text d "op"
  if (d.field? "interrupt").isSome && name != "read" && name != "write" then
    throw "interrupt only applies to read and write"
  opNamed sub d name

end Request

/-- An operation read from a document, or the misuse it is; observers may nest `fuel` deep. -/
def Op.ofDoc : Nat → Doc → Op
  | 0, _ => .invalid "operations nest too deeply"
  | fuel + 1, d =>
    match Request.opOf (Op.ofDoc fuel) d with
    | .ok op => op
    | .error message => .invalid message

/-- The operations of a script: the list under `ops`. -/
def Doc.script? (d : Doc) : Decode (List Op) :=
  match d.field? "ops" with
  | some (.list ops) => pure (ops.map (Op.ofDoc d.depth))
  | _ => throw "missing ops list"

end Session
end Descriptors
