import Descriptors.Session.Buffers
import Descriptors.Session.Resources
import Descriptors.Session.Transfers
import Descriptors.Session.Async
import Descriptors.Session.Lifecycle
import Descriptors.Session.Watch
import Descriptors.Session.Logging
import Descriptors.Session.Debug
/-! Running a script of operations. The session's own thread goes first: the other threads
run only while it waits, so an answer never depends on timing. A wait dispatches its observers,
which run operations of their own, possibly waiting again; the depth of that nesting is
bounded. After the last operation the session is cleaned up: monitors and observers go
without notice, then every handle is dropped on a thread of its own, which lets blocked jobs
on both sides of a pipe finish, and the logs of the jobs are collected. -/
namespace Descriptors
namespace Session

/-- The ready subset of the watched numbers; a number that is not open fails the wait. -/
def readySet (k : Kernel.State) : List Int → Except IoError (List Int)
  | [] => .ok []
  | fd :: rest =>
    match k.readable fd, readySet k rest with
    | .error e, _ => .error (.os e)
    | .ok _, .error e => .error e
    | .ok r, .ok xs => .ok (if r then fd :: xs else xs)

/-- Whether a select would return now: some number is ready, or the call fails. -/
def selectReturns : Except IoError (List Int) → Bool
  | .ok [] => false
  | _ => true

/-- The answer of a finished wait. -/
def waitAnswer (w : World) : Except Error WaitOutcome → Doc
  | .ok (.ready k) => .ok (.record [("ready", .num k)])
  | .ok .timedOut => .ok (.text "timed_out")
  | .error e => w.errorDoc e

namespace Act

/-- A wait on a monitor, its observers' operations run by `run`. The monitor dispatches out
of the session; afterwards it is back under its name, changed as its observers left it. The
answer lists what each notified observer did, with the number shown as it stood when the
observer was told. -/
def waitWith (run : Ctx → Op → StateM World Doc) (m : Option String) (limited : Bool) :
    Act Doc := do
  let ref ← monitorRef m
  let mon ← getMonitor ref
  let w ← get
  let name := ref.getD ((w.active.map (·.name)).getD "")
  let saved := w.active
  let savedNotices := w.notices
  set { w with monitors := if ref.isSome then eraseIn w.monitors name else w.monitors,
               active := some ⟨name, mon⟩, notices := [] }
  let select : List Int → Int → StateM World (Except IoError (List Int)) := fun watched _ => do
    modify (World.blockUntil fun w => selectReturns (readySet w.kernel watched))
    let w ← get
    pure (readySet w.kernel watched)
  let notify : Monitor Observer → Association Observer → StateM World (Monitor Observer) :=
    fun mon a => do
      modify fun w => { w with active := some ⟨name, mon⟩ }
      let shown := (← get).showNumber a.fd
      let results ← a.observer.actions.mapM (run ⟨some a.fd⟩)
      let w ← get
      let notice := Doc.record [("observer", .text a.observer.name), ("fd", shown),
        ("results", .list results)]
      set { w with notices := w.notices ++ [notice] }
      pure ((w.active.map (·.monitor)).getD mon)
  let (result, mon) ← (Monitor.wait select notify limited mon : StateM World _)
  let w ← get
  let notices := w.notices
  set { w with monitors := if ref.isSome then setIn w.monitors name mon else w.monitors,
               active := if ref.isSome then saved else some ⟨name, mon⟩,
               notices := savedNotices }
  pure ((waitAnswer w result).extend [("notified", .list notices)])

/-- Runs one operation that waits on nothing but the kernel, or a wait whose observers'
operations are run by `run`. -/
def dispatch (run : Ctx → Op → StateM World Doc) (ctx : Ctx) (op : Op) : Act Doc := do
  match op with
  | .monitorWait m => waitWith run m false
  | .monitorWaitTimeout m _ => waitWith run m true
  | .invalid message => misuse message
  | op =>
    (bufferOp op <|> resourceOp ctx op <|> transferOp ctx op <|> asyncOp ctx op
      <|> lifecycleOp ctx op <|> watchOp ctx op <|> loggingOp op <|> debugOp ctx op).getD
      (misuse "unsupported operation")

end Act

/-- How deep observers may nest waits. -/
def nestingLimit : Nat := 1000

/-- Runs one operation; `depth` bounds the nesting of the waits of observers. -/
def runOp : Nat → Ctx → Op → StateM World Doc
  | 0, _, _ => pure (Doc.misuse "observers nest too deeply")
  | depth + 1, ctx, op => Act.answer (Act.dispatch (runOp depth) ctx op)

/-- What a script produced: one answer per operation, the events of each log key, and
whether some job never reported. -/
structure Transcript where
  results : List Doc
  logs : List (String × List Doc)
  incomplete : Bool

/-- Cleans up after the last operation: monitors and observers go without notice, every
handle is dropped on a thread of its own, and every thread runs until none can move. -/
def cleanup (w : World) : World :=
  let w := w.settle
  let w := { w with monitors := [], observers := [], active := none }
  let droppers := w.handles.map fun (_, e) => [Task.dropRef e]
  World.settle { w with droppers := droppers.toArray, handles := [], buffers := [] }

/-- Runs a script from a fresh session whose transfers call the kernel through `io`. -/
def runScript (io : Kernel.Io) (ops : List Op) : Transcript :=
  let (results, w) := (ops.mapM (runOp nestingLimit ⟨none⟩)).run (World.initial io)
  let w := cleanup w
  { results := results,
    logs := w.logs.map fun (key, evs) => (key, evs.map Act.eventDoc),
    incomplete := w.reported < w.submitted }

end Session
end Descriptors
