import Descriptors.Session.Act
/-! Operations on named buffers. A buffer keeps its length for good: filling writes a prefix
and fails when the bytes do not fit, and reading or writing a byte outside it is a panic.
Bytes an operation gives, and the numbers it names, are read before the buffer it names is
looked up. -/
namespace Descriptors
namespace Session
namespace Act

/-- How a buffer's information is answered. -/
def bufferInfo (buf : Buffer) : Doc :=
  .record [("len", .num buf.len), ("is_empty", .bool buf.isEmpty), ("bytes", .ofBytes buf.bytes)]

/-- Runs an operation on buffers; `none` for any other operation. -/
def bufferOp : Op → Option (Act Doc)
  | .bufNew b size => some do
    let size ← allocation (← need size)
    setBuffer (← need b) (Buffer.zeros size)
    pure (.ok .null)
  | .bufFrom b src => some do
    let bs ← bytes (← need src)
    setBuffer (← need b) (Buffer.ofBytes bs)
    pure (.ok .null)
  | .bufFill b src => some do
    let bs ← bytes (← need src)
    let b ← need b
    let (n, buf) ← orFail ((← buffer b).fill bs)
    setBuffer b buf
    pure (.ok (.num n))
  | .bufFillFrom b src n => some do
    let n ← need n
    let src ← need src
    let other ← match lookupIn (← get).buffers src with
      | some other => pure other
      | none => misuse "no source buffer"
    let b ← need b
    let (n, buf) ← orFail ((← buffer b).fillFrom other n)
    setBuffer b buf
    pure (.ok (.num n))
  | .bufCompare b src n => some do
    let bs ← bytes (← need src)
    let n ← need n
    let buf ← buffer (← need b)
    pure (.ok (.bool (buf.compare bs n)))
  | .bufGet b i => some do
    let i ← need i
    let buf ← buffer (← need b)
    match buf.get? i with
    | some v => pure (.ok (.num v.toNat))
    | none => pure .panicked
  | .bufSet b i v => some do
    let i ← need i
    let v ← need v
    if 255 < v then misuse "byte value > 255"
    let b ← need b
    match (← buffer b).set? i v.toUInt8 with
    | some buf => do setBuffer b buf; pure (.ok .null)
    | none => pure .panicked
  | .bufInfo b => some do
    let buf ← buffer b
    pure (.ok (bufferInfo buf))
  | .bufEq b other => some do
    let b ← need b
    let other ← need other
    let w ← get
    match lookupIn w.buffers b, lookupIn w.buffers other with
    | some buf, some o => pure (.ok (.bool (buf.bytes == o.bytes)))
    | _, _ => misuse "no such buffer"
  | _ => none

end Act
end Session
end Descriptors
