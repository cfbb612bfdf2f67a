import Descriptors.Session.World
/-! The threads of a session and how they take turns. Every thread is a stack of tasks. A
step runs the task on top of one thread; a task that must wait (a transfer the kernel would
block, a worker with nothing queued, a flush still going on elsewhere) leaves the state as it
was. The scheduler gives the turn to the first thread that can move, the main thread first and
the helper last, until a goal holds or no thread can move: the other threads run only while the
main thread waits. -/
namespace Descriptors

/-- The operation name a job's event carries. -/
def JobKind.eventName : JobKind → String
  | .readBuffer => "read"
  | .readRaw => "read_raw"
  | .writeBuffer => "write"
  | .writeRaw => "write_raw"

namespace Session

namespace World

/-- The stack of a thread. -/
def stackOf (w : World) : ThreadId → List Task
  | .main => w.mainStack
  | .helper => w.helperStack
  | .worker d => ((w.worker? d).map (·.stack)).getD []
  | .dropper i => (w.droppers[i]?).getD []

/-- Replaces the stack of a thread. -/
def setStack (w : World) : ThreadId → List Task → World
  | .main, s => { w with mainStack := s }
  | .helper, s => { w with helperStack := s }
  | .worker d, s => w.modifyWorker d fun wk => { wk with stack := s }
  | .dropper i, s => { w with droppers := w.droppers.modify i fun _ => s }

/-- Hands an outcome to the thread that asked for it. -/
def setOutcome (w : World) (t : ThreadId) (o : Outcome) : World :=
  match t with
  | .helper => { w with helperOutcome := some o }
  | _ => { w with mainOutcome := some o }

/-- The event a job's callback records. -/
def jobEvent (c : Completion) (kind : JobKind) (region got : List UInt8) (count : Nat) : Event :=
  let back := Job.handBack region got
  { op := kind.eventName, count := count,
    buf := if kind == .readBuffer then some back else none,
    mem := if kind == .readRaw then some back else none,
    tag := c.tag }

/-- Where a finished transfer's outcome goes. -/
def finishTransfer (w : World) (t : ThreadId) (finish : Finish) (got : List UInt8) (count : Nat)
    (err : Option IoError) (rest : List Task) : World :=
  match finish with
  | .callback c kind region => w.setStack t (.complete c kind region got count :: rest)
  | .answer => (w.setOutcome t (.transferred got count err)).setStack t rest

/-- One call of a transfer loop through the session's `read(2)` or `write(2)`: `none` when the
kernel would block. -/
def transferStep (w : World) (fd : Int) : Transfer → Option (Transfer × World)
  | .reading l =>
    let (reply, k) := w.io.read w.kernel fd l.request
    let w := { w with kernel := k }
    match reply with
    | .wouldBlock => none
    | .data bs => some (.reading (l.step (.received bs)), w)
    | .endOfStream => some (.reading (l.step .endOfStream), w)
    | .failed e => some (.reading (l.step (.ofFailure e)), w)
  | .writing l =>
    let (reply, k) := w.io.write w.kernel fd l.pending
    let w := { w with kernel := k }
    match reply with
    | .wouldBlock => none
    | .accepted 0 => some (.writing (l.step .refused), w)
    | .accepted n => some (.writing (l.step (.accepted n)), w)
    | .failed e => some (.writing (l.step (.ofFailure e)), w)

/-- The task that runs a queued job and hands its outcome to the callback. -/
def runJob (fd : Int) (j : SessionJob) : Task :=
  .transfer fd j.transfer (.callback j.callback j.kind j.region)

/-- Runs the task on top of thread `t`; `none` when it has to wait. -/
def stepTask (w : World) (t : ThreadId) (task : Task) (rest : List Task) : Option World :=
  match task with
  | .serve =>
    match t with
    | .worker d =>
      match w.worker? d with
      | some wk =>
        match wk.queue.pop with
        | (some j, _, q) =>
          some ((w.modifyWorker d fun wk => { wk with queue := q }).setStack t
            (runJob wk.fd j :: .serve :: rest))
        | (none, false, q) =>
          if q.drained then none
          else some (w.modifyWorker d fun wk => { wk with queue := q.signalEmpty })
        | (none, true, q) =>
          some (w.modifyWorker d fun wk =>
            { wk with queue := q.signalEmpty, stack := [], live := false })
      | none => some (w.setStack t rest)
    | _ => some (w.setStack t rest)
  | .transfer fd tr finish =>
    match tr.outcome? with
    | some (got, count, err) => some (w.finishTransfer t finish got count err rest)
    | none =>
      match w.transferStep fd tr with
      | none => none
      | some (tr, w) =>
        match tr.outcome? with
        | some (got, count, err) => some (w.finishTransfer t finish got count err rest)
        | none => some (w.setStack t (.transfer fd tr finish :: rest))
  | .complete c kind region got count =>
    let ev := jobEvent c kind region got count
    some (w.setStack t ((c.holds.map Task.dropRef).toList ++ .record c.key ev :: rest))
  | .record key ev => some ((w.addEvent key ev).setStack t rest)
  | .dropRef e =>
    match w.entries[e]? with
    | none => some (w.setStack t rest)
    | some en =>
      let w := w.modifyEntry e fun en => { en with refs := en.refs - 1 }
      if en.refs ≤ 1 then
        some (w.setStack t (en.resource.descs.map (Task.release · false) ++ rest))
      else some (w.setStack t rest)
  | .release d report =>
    match w.desc? d with
    | some desc =>
      if desc.fd < 0 then
        let w := if report then w.setOutcome t (.closed (.ok ())) else w
        some (w.setStack t rest)
      else some (w.setStack t (.shutdown d :: .closeNumber d report :: rest))
    | none => some (w.setStack t rest)
  | .shutdown d =>
    match w.worker? d with
    | none => some (w.setStack t rest)
    | some wk =>
      let (running, q) := wk.queue.requestClose
      let w := w.modifyWorker d fun wk => { wk with queue := q }
      if !running then some (w.setStack t rest)
      else if t == .worker d then some (w.setStack t (.drainInline d :: rest))
      else some (w.setStack t (.join d :: rest))
  | .join d =>
    match w.worker? d with
    | none => some (w.setStack t rest)
    | some wk =>
      if !wk.queue.flushed || (wk.queue.thread && wk.live) then none
      else
        let w := w.modifyWorker d fun wk =>
          { wk with queue := wk.queue.takeThread.2.markTerminated }
        some (w.setStack t rest)
  | .drainInline d =>
    match w.worker? d with
    | none => some (w.setStack t rest)
    | some wk =>
      match wk.queue.pop with
      | (some j, _, q) =>
        let w := w.modifyWorker d fun wk => { wk with queue := q }
        some (w.setStack t (runJob wk.fd j :: .drainInline d :: rest))
      | (none, _, q) =>
        let w := w.modifyWorker d fun wk =>
          { wk with queue := q.signalEmpty.takeThread.2.markTerminated }
        some (w.setStack t rest)
  | .closeNumber d report =>
    match w.desc? d with
    | none => some (w.setStack t rest)
    | some desc =>
      let (res, k) := w.kernel.close desc.fd
      let w := ({ w with kernel := k }).modifyDesc d fun desc => { desc with fd := -1 }
      let w := if report then w.setOutcome t (.closed res) else w
      some (w.setStack t rest)

/-- One step of thread `t`, if it has work it can do now. -/
def step (w : World) (t : ThreadId) : Option World :=
  match w.stackOf t with
  | [] => none
  | task :: rest => w.stepTask t task rest

/-- The threads in the order they get the turn. -/
def threads (w : World) : List ThreadId :=
  [.main] ++ (List.range w.descs.size).map ThreadId.worker
    ++ (List.range w.droppers.size).map ThreadId.dropper ++ [.helper]

/-- One step of the first thread that can move. -/
def stepAny (w : World) : Option World :=
  w.threads.findSome? w.step

/-- Steps until `goal` holds or no thread can move, for at most `fuel` steps. -/
def runUntil (goal : World → Bool) : Nat → World → World
  | 0, w => w
  | fuel + 1, w =>
    if goal w then w
    else match w.stepAny with
      | none => w
      | some w' => runUntil goal fuel w'

/-- The most steps one wait of the main thread may take. -/
def stepBudget : Nat := 10000000

/-- Lets every thread run until none can move. -/
def settle (w : World) : World := runUntil (fun _ => false) stepBudget w

/-- Waits on the session's thread until `goal` holds, the other threads running meanwhile. -/
def blockUntil (goal : World → Bool) (w : World) : World := runUntil goal stepBudget w

/-- Runs `tasks` on the main thread until they and the helper's are done, the other threads
running meanwhile. Work that can never go on is given up, so that it cannot take bytes meant
for a later operation. -/
def perform (w : World) (tasks : List Task) : World :=
  let w := runUntil (fun w => w.mainStack.isEmpty && w.helperStack.isEmpty) stepBudget
    { w with mainStack := tasks, mainOutcome := none }
  { w with mainStack := [], helperStack := [] }

end World

end Session
end Descriptors
