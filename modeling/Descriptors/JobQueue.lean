import Descriptors.Error
/-! The job queue of a descriptor and the lifecycle of its worker. The worker moves only
forward: `idle → running → draining → terminated`, or `idle → terminated` when the
descriptor is closed before any job. The first accepted job starts the worker, and a
submission whose thread cannot be made is refused with the queue left idle; jobs are
taken in the order they were pushed; closing asks a running worker to finish what is
queued, and the queue reports itself drained once the worker found it empty. -/
namespace Descriptors

/-- The lifecycle of a descriptor's worker. -/
inductive WorkerState where
  | idle | running | draining | terminated
  deriving Repr, DecidableEq, Inhabited

/-- The name a state is reported under. -/
def WorkerState.name : WorkerState → String
  | .idle => "Idle"
  | .running => "Running"
  | .draining => "Draining"
  | .terminated => "Terminated"

/-- The queue shared by a descriptor and its worker. `drained` holds once the worker found
the queue empty after the last push; `thread` while the worker's join handle is held. -/
structure JobQueue (J : Type) where
  jobs : List J
  closing : Bool
  drained : Bool
  state : WorkerState
  thread : Bool
  deriving Repr

namespace JobQueue

variable {J : Type}

/-- A queue with no worker yet. -/
def new : JobQueue J := ⟨[], false, true, .idle, false⟩

/-- Queues a job behind the others. -/
def push (q : JobQueue J) (j : J) : JobQueue J :=
  { q with jobs := q.jobs ++ [j], drained := false }

/-- Takes the oldest job, and reports whether closing was asked for. -/
def pop (q : JobQueue J) : Option J × Bool × JobQueue J :=
  match q.jobs with
  | [] => (none, q.closing, q)
  | j :: rest => (some j, q.closing, { q with jobs := rest })

/-- The worker found nothing to do: the queue is drained if it is still empty. -/
def signalEmpty (q : JobQueue J) : JobQueue J :=
  if q.jobs.isEmpty then { q with drained := true } else q

/-- Asks the worker to finish: a running worker starts draining (`true`), an idle one is
terminated on the spot (`false`), a later state stays. -/
def requestClose (q : JobQueue J) : Bool × JobQueue J :=
  let q := { q with closing := true }
  match q.state with
  | .running => (true, { q with state := .draining })
  | .idle => (false, { q with state := .terminated })
  | _ => (false, q)

/-- The error refusing a worker once closing has begun. -/
def shuttingDown : IoError := .custom .brokenPipe "descriptor worker is shutting down"

/-- Starts the worker on the first submission (`true`), where `spawn` is what creating its
thread gives: a thread that cannot be made refuses the submission and leaves the queue idle.
Later submissions find it running (`false`); after closing began none is started. -/
def startOnce (q : JobQueue J) (spawn : Except IoError Unit) :
    Except IoError (Bool × JobQueue J) :=
  match q.state with
  | .idle =>
    match spawn with
    | .ok () => .ok (true, { q with state := .running, thread := true })
    | .error e => .error e
  | .running => .ok (false, q)
  | _ => .error shuttingDown

/-- A submission's turn at the queue: `startOnce`, a refusal reported as a failed spawn. -/
def accept (q : JobQueue J) (spawn : Except IoError Unit) : Except Error (Bool × JobQueue J) :=
  match q.startOnce spawn with
  | .error e => .error (.spawn e)
  | .ok r => .ok r

/-- Gives up the join handle, reporting whether it was held. -/
def takeThread (q : JobQueue J) : Bool × JobQueue J :=
  (q.thread, { q with thread := false })

def markTerminated (q : JobQueue J) : JobQueue J :=
  { q with state := .terminated }

/-- The jobs still queued. -/
def pending (q : JobQueue J) : Nat := q.jobs.length

/-- Whether a waiter for the flush may go on: nothing queued and the worker saw it. -/
def flushed (q : JobQueue J) : Bool := q.jobs.isEmpty && q.drained

@[simp] theorem jobs_push (q : JobQueue J) (j : J) : (q.push j).jobs = q.jobs ++ [j] := rfl

@[simp] theorem state_push (q : JobQueue J) (j : J) : (q.push j).state = q.state := rfl

@[simp] theorem closing_push (q : JobQueue J) (j : J) : (q.push j).closing = q.closing := rfl

@[simp] theorem drained_push (q : JobQueue J) (j : J) : (q.push j).drained = false := rfl

@[simp] theorem thread_push (q : JobQueue J) (j : J) : (q.push j).thread = q.thread := rfl

theorem pop_of_nil {q : JobQueue J} (h : q.jobs = []) : q.pop = (none, q.closing, q) := by
  simp [pop, h]

theorem pop_of_cons {q : JobQueue J} {j : J} {rest : List J} (h : q.jobs = j :: rest) :
    q.pop = (some j, q.closing, { q with jobs := rest }) := by
  simp [pop, h]

@[simp] theorem jobs_signalEmpty (q : JobQueue J) : q.signalEmpty.jobs = q.jobs := by
  unfold signalEmpty; split <;> rfl

@[simp] theorem state_signalEmpty (q : JobQueue J) : q.signalEmpty.state = q.state := by
  unfold signalEmpty; split <;> rfl

@[simp] theorem closing_signalEmpty (q : JobQueue J) : q.signalEmpty.closing = q.closing := by
  unfold signalEmpty; split <;> rfl

@[simp] theorem thread_signalEmpty (q : JobQueue J) : q.signalEmpty.thread = q.thread := by
  unfold signalEmpty; split <;> rfl

@[simp] theorem drained_signalEmpty (q : JobQueue J) :
    q.signalEmpty.drained = (q.drained || q.jobs.isEmpty) := by
  unfold signalEmpty; split <;> simp_all

@[simp] theorem jobs_requestClose (q : JobQueue J) : q.requestClose.2.jobs = q.jobs := by
  simp only [requestClose]
  split <;> rfl

theorem requestClose_of_running {q : JobQueue J} (h : q.state = .running) :
    q.requestClose = (true, { q with closing := true, state := .draining }) := by
  simp [requestClose, h]

theorem requestClose_of_idle {q : JobQueue J} (h : q.state = .idle) :
    q.requestClose = (false, { q with closing := true, state := .terminated }) := by
  simp [requestClose, h]

/-- Once closing began, a second request changes nothing but the flag. -/
theorem requestClose_of_closed {q : JobQueue J} (h : q.state = .draining ∨ q.state = .terminated) :
    q.requestClose = (false, { q with closing := true }) := by
  rcases h with h | h <;> simp [requestClose, h]

theorem accept_of_idle {q : JobQueue J} (h : q.state = .idle) :
    q.accept (.ok ()) = .ok (true, { q with state := .running, thread := true }) := by
  simp [accept, startOnce, h]

/-- A thread that cannot be made refuses the first submission with its error. -/
theorem accept_of_spawn_failure {q : JobQueue J} (h : q.state = .idle) (e : IoError) :
    q.accept (.error e) = .error (.spawn e) := by
  simp [accept, startOnce, h]

theorem accept_of_running {q : JobQueue J} (h : q.state = .running)
    (spawn : Except IoError Unit) : q.accept spawn = .ok (false, q) := by
  simp [accept, startOnce, h]

theorem accept_of_closed {q : JobQueue J} (h : q.state = .draining ∨ q.state = .terminated)
    (spawn : Except IoError Unit) : q.accept spawn = .error (.spawn shuttingDown) := by
  rcases h with h | h <;> simp [accept, startOnce, h]

/-- Taking a job in queues nothing yet: the job is pushed in a later step. -/
theorem jobs_of_accept {q q' : JobQueue J} {spawn : Except IoError Unit} {started : Bool}
    (h : q.accept spawn = .ok (started, q')) : q'.jobs = q.jobs := by
  unfold accept startOnce at h
  cases hs : q.state <;> cases spawn <;> simp [hs] at h <;> obtain ⟨-, rfl⟩ := h <;> rfl

/-- A queue that takes a job without starting the worker is left as it was. -/
theorem eq_of_accept_not_started {q q' : JobQueue J} {spawn : Except IoError Unit}
    (h : q.accept spawn = .ok (false, q')) : q' = q := by
  unfold accept startOnce at h
  cases hs : q.state <;> cases spawn <;> simp [hs] at h <;> exact h.symm

@[simp] theorem fst_takeThread (q : JobQueue J) : q.takeThread.1 = q.thread := rfl

@[simp] theorem jobs_takeThread (q : JobQueue J) : q.takeThread.2.jobs = q.jobs := rfl

@[simp] theorem state_takeThread (q : JobQueue J) : q.takeThread.2.state = q.state := rfl

@[simp] theorem closing_takeThread (q : JobQueue J) : q.takeThread.2.closing = q.closing := rfl

@[simp] theorem drained_takeThread (q : JobQueue J) : q.takeThread.2.drained = q.drained := rfl

@[simp] theorem thread_takeThread (q : JobQueue J) : q.takeThread.2.thread = false := rfl

@[simp] theorem jobs_markTerminated (q : JobQueue J) : q.markTerminated.jobs = q.jobs := rfl

@[simp] theorem state_markTerminated (q : JobQueue J) : q.markTerminated.state = .terminated :=
  rfl

@[simp] theorem closing_markTerminated (q : JobQueue J) :
    q.markTerminated.closing = q.closing := rfl

@[simp] theorem drained_markTerminated (q : JobQueue J) :
    q.markTerminated.drained = q.drained := rfl

@[simp] theorem thread_markTerminated (q : JobQueue J) : q.markTerminated.thread = q.thread :=
  rfl

@[simp] theorem flushed_eq_true (q : JobQueue J) :
    q.flushed = true ↔ q.jobs = [] ∧ q.drained = true := by
  simp [flushed]

end JobQueue

end Descriptors
