import Descriptors.Session.Act
/-! Blocking transfers. The session's thread runs one transfer loop over a buffer, after the
capacity check; while it waits, every other thread goes on, and so does the helper of an
interrupt, which runs its follow-up on the peer once the transfer blocks. A signal only makes
a call fail with `EINTR`, which the loop retries, so the helper changes nothing but the bytes
it moves. -/
namespace Descriptors
namespace Session
namespace Act

/-- The transfer an interrupt's follow-up runs, made ready before the interrupted transfer
starts. The follow-up runs on a thread of its own, outside any observer, so `$` names nothing
there. The handle is looked up, then the operation must be a read or a write, whose size is
allocated or whose bytes are read. A read gets a buffer of at least one byte, so reading
nothing answers an empty read; the capacity check is the helper's own, made when it runs. -/
def followUpTask (f : FollowUp) : Act (Direction × Except Error Task) := do
  let d ← desc ⟨none⟩ (← need f.h)
  let fd ← number d
  match ← need f.op with
  | "write" =>
    let bs ← bytes (← need f.bytes)
    pure (.write, (checkCapacity bs.length bs.length).map fun () =>
      .transfer fd (Transfer.start .write bs bs.length) .answer)
  | "read" =>
    let n ← allocation (← need f.n)
    let size := max n 1
    pure (.read, (checkCapacity n size).map fun () =>
      .transfer fd (Transfer.start .read (List.replicate size 0) n) .answer)
  | _ => misuse "helper op must be read or write"

/-- A helper made ready: nothing to do after the signal, or the transfer of its follow-up. -/
abbrev Helper := Option (Direction × Except Error Task)

/-- The helper an operation asks for, made ready: `none` without an interruption. Whatever is
wrong with it is the operation's answer. -/
def prepareHelper (i : Field (Option Interrupt)) : Act (Option Helper) := do
  match ← need i with
  | none => pure none
  | some i =>
    match i.followUp with
    | none => pure (some none)
    | some f => pure (some (some (← followUpTask f)))

/-- The answer of a helper that ran a transfer in direction `dir`. -/
def helperAnswer (dir : Direction) (w : World) : Doc :=
  match w.helperOutcome with
  | some (.transferred got count err) =>
    match transferResult dir 0 count err, dir with
    | .ok k, .read => .okWith (.num k) [("data", .ofBytes got)]
    | .ok k, .write => .ok (.num k)
    | .error e, _ => .failure e.label []
  | _ => .ok .null

/-- What a transfer's answer says of its helper, once the helper is done. -/
def helperReport (helper : Option Helper) (w : World) : List (String × Doc) :=
  match helper with
  | none => []
  | some none => [("helper", Doc.ok .null)]
  | some (some (_, .error e)) => [("helper", errorOnly (w.errorDoc e))]
  | some (some (dir, .ok _)) => [("helper", helperAnswer dir w)]

/-- The answer of a transfer that fails with `e` before it starts: its helper still runs to
its end, and the answer says what it did. -/
def failBeside (e : Error) (helper : Option Helper) : Act Doc := do
  perform []
  let w ← get
  pure ((w.errorDoc e).extend (helperReport helper w))

/-- Runs an interruptible transfer: its helper is made ready and set going first, and is
done before the transfer's answer is given, whatever that answer is. -/
def interruptible (i : Field (Option Interrupt)) (transfer : Option Helper → Act Doc) :
    Act Doc := do
  let helper ← prepareHelper i
  if let some (some (_, .ok task)) := helper then
    modify fun w => { w with helperStack := [task], helperOutcome := none }
  tryCatch (transfer helper) fun answer => do
    perform []
    throw answer

/-- A blocking transfer of `n` bytes over `region` on descriptor `d`, beside the helper
`helper`. The answer is the count, with the received bytes when `showData`; `keep` stores
what a read received. -/
def blocking (d : Nat) (dir : Direction) (region : List UInt8) (n : Nat)
    (helper : Option Helper) (showData : Bool) (keep : List UInt8 → Act Unit) : Act Doc := do
  let fd ← number d
  match checkCapacity n region.length with
  | .error e => failBeside e helper
  | .ok () =>
    perform [Task.transfer fd (Transfer.start dir region n) .answer]
    let w ← get
    match w.mainOutcome with
    | some (.transferred got count err) =>
      keep got
      match transferResult dir fd count err with
      | .ok k =>
        let data := if showData then [("data", Doc.ofBytes got)] else []
        pure (.okWith (.num k) (data ++ helperReport helper w))
      | .error e => pure ((w.errorDoc e).extend (helperReport helper w))
    | _ => misuse "the transfer blocks for ever"

/-- The end of a pipe a pipe operation uses, from the resource its handle names. -/
def pipeEnd (r : Resource) (reader : Bool) : Act Nat :=
  match r with
  | .pipe dr dw => pure (if reader then dr else dw)
  | _ => misuse "not a pipe"

/-- The bytes a write sends: the given bytes, or a buffer of `size` zero bytes filled with
them, which fails when they do not fit. -/
def writeRegion (src : Field ByteSource) (size : Field (Option Nat)) :
    Act (Except Error (List UInt8)) := do
  let bs ← bytes (← need src)
  match ← need size with
  | none => pure (.ok bs)
  | some s =>
    let s ← allocation s
    pure (((Buffer.zeros s).fill bs).map fun (_, buf) => buf.bytes)

/-- A read of `n` bytes into a fresh buffer of `size` zero bytes, `n` of them by default,
answering the bytes received. Once `n` is read, `locate` looks up the handle; the buffer is
had after that, and then the step `locate` gave finds the descriptor. -/
def readFresh (locate : Act (Act Nat)) (n : Field Nat) (size : Field (Option Nat))
    (helper : Option Helper) : Act Doc := do
  let n ← need n
  let find ← locate
  let size ← allocation ((← need size).getD n)
  blocking (← find) .read (List.replicate size 0) n helper true fun _ => pure ()

/-- A write of the given bytes, `n` of them by default all; the descriptor is found by `d`
once the bytes and `n` are had. -/
def writeBytes (d : Act Nat) (src : Field ByteSource) (size n : Field (Option Nat))
    (helper : Option Helper) : Act Doc := do
  match ← writeRegion src size with
  | .error e => failBeside e helper
  | .ok region =>
    let n ← need n
    blocking (← d) .write region (n.getD region.length) helper false fun _ => pure ()

/-- A write of a text's bytes; the descriptor is found by `d` once the text is had. -/
def writeText (d : Act Nat) (s : Field String) : Act Doc := do
  let bs := Bytes.ofText (← need s)
  blocking (← d) .write bs bs.length none false fun _ => pure ()

/-- The resource a pipe operation's handle names, looked up before its other fields are read;
whether it is a pipe is asked only when the transfer is about to start. -/
def pipeEntry (ctx : Ctx) (h : Field String) : Act Resource := do
  let (_, _, r) ← entryOf ctx (← need h)
  pure r

/-- Runs a blocking transfer operation; `none` for any other operation. A read reads `n`,
then looks up the handle, then allocates its buffer. A write looks up the handle before it
reads its bytes. -/
def transferOp (ctx : Ctx) : Op → Option (Act Doc)
  | .read i h n size => some do
    interruptible i fun helper => readFresh (do
      let d ← desc ctx (← need h)
      pure (pure d)) n size helper
  | .pipeRead h n size => some do
    readFresh (do pure (pipeEnd (← pipeEntry ctx h) true)) n size none
  | .readBuffer h b n => some do
    let n ← need n
    let d ← desc ctx (← need h)
    let b ← need b
    let buf ← takenBuffer b
    blocking d .read buf.bytes n none false fun got =>
      setBuffer b ⟨Job.handBack buf.bytes got⟩
  | .write i h src size n => some do
    interruptible i fun helper => do
      let d ← desc ctx (← need h)
      writeBytes (pure d) src size n helper
  | .pipeWrite h src size n => some do
    writeBytes (pipeEnd (← pipeEntry ctx h) false) src size n none
  | .writeBuffer h b n => some do
    let d ← desc ctx (← need h)
    let n ← need n
    let buf ← takenBuffer (← need b)
    blocking d .write buf.bytes n none false fun _ => pure ()
  | .writeStr h s => some do
    let d ← desc ctx (← need h)
    writeText (pure d) s
  | .pipeWriteStr h s => some do writeText (pipeEnd (← pipeEntry ctx h) false) s
  | _ => none

end Act
end Session
end Descriptors
