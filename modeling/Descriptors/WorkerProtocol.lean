import Descriptors.JobQueue
/-! # The threads around one job queue

A descriptor's asynchronous machinery at the grain of its queue's lock: every operation of
the queue is one atomic step, and between two of them any thread may act. The threads are

* the owners, who submit jobs: `accept` (the queue's `start_once`, which starts the worker
  thread on the first job, or refuses the job when that thread cannot be made), then, in a
  later step, `push`;
* the worker thread, whose loop pops a job, runs its transfer and invokes its callback, or
  finding nothing reports the queue empty and sleeps until a push or a close; a callback runs
  on that thread and may submit jobs of its own, panic, or drop the last owner;
* the shutdown, called once, when the last owner is dropped: on another thread it asks for the
  close, waits until the worker reported the queue drained, joins the thread and marks the
  worker terminated; inside a callback it runs the queued jobs inline instead.

Whether a thread can be made is the environment's choice, given with each submission.
Dropping the last owner needs every borrow of it gone, so a shutdown starts only while no
submission stands between `accept` and `push`. A ghost log records, in order, what the threads
did; the statements about jobs are statements about it. -/
namespace Descriptors
namespace WorkerProtocol

/-- Where the worker thread stands. A job is run either by the loop (`outer = none`) or
inline, by the shutdown that the callback of `outer` called. -/
inductive Pc (J : Type) where
  /-- No worker thread was started. -/
  | unborn
  /-- About to pop. -/
  | loop
  /-- The pop found nothing and no close was asked: `signal_empty` next. -/
  | idle
  /-- Asleep in `wait_not_empty`. -/
  | sleep
  /-- The pop found nothing during a close: `signal_empty`, then the thread ends. -/
  | leave
  | exited
  /-- `k` was popped; its transfer runs next. -/
  | transfer (k : J) (outer : Option J)
  /-- `k`'s transfer is done; its callback is invoked next. -/
  | invoke (k : J) (outer : Option J)
  /-- Inside `k`'s callback. -/
  | callback (k : J) (outer : Option J)
  /-- `k`'s callback got `new` accepted and pushes it next. -/
  | pushing (k : J) (outer : Option J) (new : J)
  /-- The shutdown called from `k`'s callback pops the next job to run inline. -/
  | drain (k : J)
  /-- The inline drain found the queue empty: `signal_empty` next. -/
  | drainSignal (k : J)
  /-- Then the join handle is dropped, which detaches the thread. -/
  | drainRelease (k : J)
  /-- Then the worker is marked terminated and the shutdown returns into `k`'s callback. -/
  | drainMark (k : J)
  deriving Repr

/-- Where a shutdown called on another thread stands. -/
inductive Closer where
  | idle | waitEmpty | take | join | mark | done
  deriving Repr, DecidableEq

/-- What the log records. -/
inductive Event (J : Type) where
  /-- The queue took `k` in, starting the worker thread when `spawned`. -/
  | accepted (k : J) (spawned : Bool)
  | refused (k : J) (e : Error)
  | pushed (k : J)
  | transferred (k : J)
  | invoked (k : J)
  /-- `k`'s callback returned, or panicked and was caught. -/
  | finished (k : J) (panicked : Bool)
  /-- The shutdown asked for the close, from a callback when `inline`. -/
  | closeRequested (inline : Bool)
  | exited
  | shutdownReturned
  deriving Repr

/-- Who moves next, and what a callback does when it is the callback's turn. -/
inductive Action (J : Type) where
  /-- An owner on another thread submits `k`; `spawn` is what making the worker thread would
  give, should this submission have to. -/
  | submit (k : J) (spawn : Except IoError Unit)
  /-- The `i`-th accepted submission of another thread pushes its job. -/
  | push (i : Nat)
  /-- The last owner is dropped on another thread. -/
  | close
  /-- The shutdown on another thread takes its next step. -/
  | closer
  /-- The worker thread takes its next step outside a callback's own choices. -/
  | worker
  /-- The running callback returns, or panics. -/
  | finish (panicked : Bool)
  /-- The running callback submits `k`. -/
  | callbackSubmit (k : J) (spawn : Except IoError Unit)
  /-- The running callback drops the last owner. -/
  | callbackClose
  deriving Repr

/-- The queue, the threads' positions and the log. `pending` holds the jobs that other
threads got accepted and have not pushed yet. -/
structure Sys (J : Type) where
  queue : JobQueue J
  worker : Pc J
  pending : List J
  closer : Closer
  log : List (Event J)
  deriving Repr

namespace Pc

variable {J : Type}

/-- Whether the thread has ended. -/
def isExited : Pc J → Bool
  | exited => true
  | _ => false

/-- Whether the thread is between `accept` and `push` of a job of its own. -/
def isPushing : Pc J → Bool
  | pushing .. => true
  | _ => false

end Pc

namespace Sys

variable {J : Type}

/-- No thread, an empty queue, nothing logged. -/
def initial : Sys J := ⟨JobQueue.new, .unborn, [], .idle, []⟩

def record (s : Sys J) (e : Event J) : Sys J := { s with log := s.log ++ [e] }

@[simp] theorem log_record (s : Sys J) (e : Event J) : (s.record e).log = s.log ++ [e] := rfl

@[simp] theorem queue_record (s : Sys J) (e : Event J) : (s.record e).queue = s.queue := rfl

@[simp] theorem worker_record (s : Sys J) (e : Event J) : (s.record e).worker = s.worker := rfl

@[simp] theorem pending_record (s : Sys J) (e : Event J) : (s.record e).pending = s.pending := rfl

@[simp] theorem closer_record (s : Sys J) (e : Event J) : (s.record e).closer = s.closer := rfl

/-- An owner's submission meets the queue: an accepted job waits to be pushed, and the
first job it takes starts the worker thread. -/
def submit (s : Sys J) (k : J) (spawn : Except IoError Unit) : Sys J :=
  match s.queue.accept spawn with
  | .error e => s.record (.refused k e)
  | .ok (spawned, q) =>
    { s with queue := q, pending := s.pending ++ [k],
             worker := if spawned then .loop else s.worker }.record (.accepted k spawned)

/-- An accepted submission of another thread pushes its job. -/
def pushPending (s : Sys J) (i : Nat) : Option (Sys J) :=
  match s.pending[i]? with
  | none => none
  | some k => some ({ s with queue := s.queue.push k, pending := s.pending.eraseIdx i }.record
      (.pushed k))

/-- Whether the last owner can be dropped now: once, and with no submission half done. -/
def canClose (s : Sys J) : Bool :=
  !s.queue.closing && s.pending.isEmpty && !s.worker.isPushing

/-- The last owner is dropped on another thread. A running worker is awaited; otherwise the
shutdown returns at once. -/
def close (s : Sys J) : Option (Sys J) :=
  if !s.canClose then none
  else
    let r := s.queue.requestClose
    let s := { s with queue := r.2 }.record (.closeRequested false)
    if r.1 then some { s with closer := .waitEmpty }
    else some ({ s with closer := .done }.record .shutdownReturned)

/-- The next step of a shutdown on another thread: `wait_empty`, taking the join handle,
joining the thread, marking the worker terminated. -/
def closerStep (s : Sys J) : Option (Sys J) :=
  match s.closer with
  | .waitEmpty => if s.queue.flushed then some { s with closer := .take } else none
  | .take =>
    let r := s.queue.takeThread
    some { s with queue := r.2, closer := if r.1 then .join else .mark }
  | .join => if s.worker.isExited then some { s with closer := .mark } else none
  | .mark => some ({ s with queue := s.queue.markTerminated, closer := .done }.record
      .shutdownReturned)
  | .idle | .done => none

/-- The next step of the worker thread, unless it is inside a callback, whose steps are the
callback's own. -/
def workerStep (s : Sys J) : Option (Sys J) :=
  match s.worker with
  | .loop =>
    match s.queue.pop with
    | (some k, _, q) => some { s with queue := q, worker := .transfer k none }
    | (none, false, q) => some { s with queue := q, worker := .idle }
    | (none, true, q) => some { s with queue := q, worker := .leave }
  | .idle => some { s with queue := s.queue.signalEmpty, worker := .sleep }
  | .sleep =>
    if !s.queue.jobs.isEmpty || s.queue.closing then some { s with worker := .loop } else none
  | .leave => some ({ s with queue := s.queue.signalEmpty, worker := .exited }.record .exited)
  | .transfer k o => some ({ s with worker := .invoke k o }.record (.transferred k))
  | .invoke k o => some ({ s with worker := .callback k o }.record (.invoked k))
  | .pushing k o new =>
    some ({ s with queue := s.queue.push new, worker := .callback k o }.record (.pushed new))
  | .drain k =>
    match s.queue.pop with
    | (some j, _, q) => some { s with queue := q, worker := .transfer j (some k) }
    | (none, _, q) => some { s with queue := q, worker := .drainSignal k }
  | .drainSignal k => some { s with queue := s.queue.signalEmpty, worker := .drainRelease k }
  | .drainRelease k => some { s with queue := s.queue.takeThread.2, worker := .drainMark k }
  | .drainMark k =>
    some ({ s with queue := s.queue.markTerminated, worker := .callback k none }.record
      .shutdownReturned)
  | .unborn | .exited | .callback .. => none

/-- The running callback returns (or panics): back to the loop, or to the inline drain that
called it. -/
def finish (s : Sys J) (panicked : Bool) : Option (Sys J) :=
  match s.worker with
  | .callback k o =>
    some ({ s with worker := o.elim .loop .drain }.record (.finished k panicked))
  | _ => none

/-- The running callback submits `new`. -/
def callbackSubmit (s : Sys J) (new : J) (spawn : Except IoError Unit) : Option (Sys J) :=
  match s.worker with
  | .callback k o =>
    match s.queue.accept spawn with
    | .error e => some (s.record (.refused new e))
    | .ok (spawned, q) =>
      some ({ s with queue := q, worker := .pushing k o new }.record (.accepted new spawned))
  | _ => none

/-- The callback of a job the loop took drops the last owner: the shutdown runs on the
worker thread and drains the queue inline. -/
def callbackClose (s : Sys J) : Option (Sys J) :=
  match s.worker with
  | .callback k none =>
    if !s.canClose then none
    else
      let r := s.queue.requestClose
      let s := { s with queue := r.2 }.record (.closeRequested true)
      if r.1 then some { s with worker := .drain k } else some (s.record .shutdownReturned)
  | _ => none

/-- One atomic step; `none` when the thread named cannot move. -/
def step (s : Sys J) : Action J → Option (Sys J)
  | .submit k spawn => some (s.submit k spawn)
  | .push i => s.pushPending i
  | .close => s.close
  | .closer => s.closerStep
  | .worker => s.workerStep
  | .finish panicked => s.finish panicked
  | .callbackSubmit k spawn => s.callbackSubmit k spawn
  | .callbackClose => s.callbackClose

/-- One interleaving: the actions taken in turn, `none` as soon as one of them cannot be. -/
def run (s : Sys J) : List (Action J) → Option (Sys J)
  | [] => some s
  | a :: as => (s.step a).bind (·.run as)

end Sys

/-- The states some interleaving of the threads reaches from the start. -/
inductive Reachable {J : Type} : Sys J → Prop where
  | initial : Reachable Sys.initial
  | step {s s' : Sys J} (a : Action J) : Reachable s → s.step a = some s' → Reachable s'

end WorkerProtocol
end Descriptors
