import Descriptors.Session.Act
import Descriptors.Session.Transfers
/-! Asynchronous jobs. A submission checks the capacity, starts the descriptor's worker on
its first job and queues the job; its callback records an event under the job's key. A
callback that holds its entry keeps it alive until the job is done. Waiting for events lets
the other threads run until enough of them arrived or none can move. -/
namespace Descriptors
namespace Session
namespace Act

/-- How a log shows an event. -/
def eventDoc (ev : Event) : Doc :=
  .record ([("op", .text ev.op), ("n", .num ev.count)]
    ++ (ev.buf.map fun bs => ("buf", Doc.ofBytes bs)).toList
    ++ (ev.mem.map fun bs => ("mem", Doc.ofBytes bs)).toList
    ++ (ev.tag.map fun t => ("tag", t)).toList)

/-- Queues a job on descriptor `d`, starting its worker on the first one. Its callback
records under `key` and, when `holds`, keeps that entry alive until it has run. -/
def submit (key : String) (d : Nat) (holds : Option Nat) (cb : CallbackSpec) (kind : JobKind)
    (size : Nat) (region : List UInt8) : Act Doc := do
  let w ← get
  match w.desc? d with
  | none => misuse "no such descriptor"
  | some dsc =>
    let wk := dsc.worker.getD ⟨dsc.fd, JobQueue.new, [], false⟩
    -- a session's threads are always made: no input can make thread creation fail
    match wk.queue.accept (.ok ()) with
    | .error e => fail e
    | .ok (started, q) =>
      let job : SessionJob := { kind, size, region, callback := ⟨key, cb.tag, holds⟩ }
      let wk := { wk with queue := q.push job,
                          stack := if started then [.serve] else wk.stack,
                          live := wk.live || started }
      let w := w.modifyDesc d fun dsc => { dsc with worker := some wk }
      set { w with submitted := w.submitted + 1, logs := setIn w.logs key (w.events key) }
      match holds with
      | some e => setOwners e ((← owners e) + 1)
      | none => pure ()
      pure (.ok .null)

/-- An asynchronous submission of the library (`async_read`, `async_write` and their raw
forms): the capacity check first, then the job is queued. -/
def submitChecked (key : String) (d : Nat) (holds : Option Nat) (cb : CallbackSpec)
    (kind : JobKind) (n capacity : Nat) (region : List UInt8) : Act Doc := do
  orFail (checkCapacity n capacity)
  submit key d holds cb kind n region

/-- The descriptor, log key and held entry of an asynchronous submission. -/
def submission (ctx : Ctx) (h : String) (cb : CallbackSpec) :
    Act (Nat × String × Option Nat) := do
  let (key, hd) ← handle ctx h
  let d ← desc ctx h
  pure (d, key, if cb.hold then some hd.entry else none)

/-- Runs an operation on asynchronous jobs; `none` for any other operation. The handle is
looked up first; a named buffer is taken before its count is read, and is gone even if that
read fails. -/
def asyncOp (ctx : Ctx) : Op → Option (Act Doc)
  | .asyncRead h into cb => some do
    let (d, key, holds) ← submission ctx (← need h) cb
    let (region, n) ← match into with
      | .fresh n size => do
        let n ← need n
        let size ← allocation ((← need size).getD n)
        pure (List.replicate size 0, n)
      | .named b n => do
        let buf ← takeBuffer b
        pure (buf.bytes, (← need n).getD buf.len)
    submitChecked key d holds cb .readBuffer n region.length region
  | .asyncWrite h src cb => some do
    let (d, key, holds) ← submission ctx (← need h) cb
    let (region, n) ← match src with
      | .bytes src size n => do
        let region ← orFail (← writeRegion src size)
        pure (region, (← need n).getD region.length)
      | .named b n => do
        let buf ← takeBuffer b
        pure (buf.bytes, (← need n).getD buf.len)
    submitChecked key d holds cb .writeBuffer n region.length region
  | .asyncReadRaw h n null cb => some do
    let (d, key, holds) ← submission ctx (← need h) cb
    let n ← allocation (← need n)
    submitChecked key d holds cb .readRaw n (rawCapacity null n) (List.replicate n 0)
  | .asyncWriteRaw h src null cb => some do
    let (d, key, holds) ← submission ctx (← need h) cb
    match src with
    | .given src n =>
      let bs ← bytes (← need src)
      let n := (← need n).getD bs.length
      -- behind a null pointer the capacity check answers before the data is measured
      if !null && bs.length < n then misuse "raw write larger than its data"
      submitChecked key d holds cb .writeRaw n (rawCapacity null n) bs
    | .zeros n =>
      let n ← allocation (← need n)
      submitChecked key d holds cb .writeRaw n (rawCapacity null n) (List.replicate n 0)
  | .await h count => some do
    let key ← handleName ctx (← need h)
    let count ← need count
    modify (World.blockUntil fun w => count ≤ (w.events key).length)
    let w ← get
    let evs := (w.events key).map eventDoc
    if count ≤ evs.length then pure (.ok (.list evs))
    else pure (.failure "AwaitTimeout" [("events", .list evs)])
  | .state h => some do
    let d ← desc ctx h
    let w ← get
    pure (.ok (.text (w.workerState d).name))
  | .pending h => some do
    let d ← desc ctx h
    let w ← get
    pure (.ok (.num (((w.worker? d).map (·.queue.pending)).getD 0)))
  | _ => none

end Act
end Session
end Descriptors
