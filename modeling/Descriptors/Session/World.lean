import Descriptors.Session.Op
import Descriptors.Job
import Descriptors.JobQueue
import Descriptors.Monitor
import Descriptors.Buffer
import Descriptors.Kernel.Io
/-! The state of a session. Handles name entries; an entry owns descriptors (two for a pipe
that was not split) and counts its owners: the session's name and every callback that keeps
a clone. A descriptor has a number and, once it took a job, a worker with a queue and a
thread. Threads are explicit: each holds a stack of tasks, and a task that has to wait
leaves the thread blocked until the state lets it go on. -/
namespace Descriptors
namespace Session

/-- An observer: a name and the operations it runs when notified. -/
structure Observer where
  name : String
  actions : List Op
  deriving Repr

/-- What a job's callback does: record its event under `key`, after dropping the clone of
entry `holds` it kept, if any. -/
structure Completion where
  key : String
  tag : Option Doc
  holds : Option Nat
  deriving Repr

/-- A completion event as the log records it. -/
structure Event where
  op : String
  count : Nat
  buf : Option (List UInt8)
  mem : Option (List UInt8)
  tag : Option Doc
  deriving Repr

/-- Where a finished transfer's outcome goes. -/
inductive Finish where
  /-- To a job's callback, with the region the job works on. -/
  | callback (c : Completion) (kind : JobKind) (region : List UInt8)
  /-- To the thread that asked, as its outcome. -/
  | answer
  deriving Repr

/-- A step of work on a thread. -/
inductive Task where
  /-- The worker loop: take the next job, wait for one, or end once closing. -/
  | serve
  /-- A transfer loop on a number. -/
  | transfer (fd : Int) (t : Transfer) (finish : Finish)
  /-- Runs a job's callback on what its transfer gave. -/
  | complete (c : Completion) (kind : JobKind) (region got : List UInt8) (count : Nat)
  | record (key : String) (event : Event)
  /-- Gives up one owner of an entry, releasing its descriptors with the last one. -/
  | dropRef (entry : Nat)
  /-- Closes a descriptor for good: stops its worker, then closes its number. -/
  | release (desc : Nat) (report : Bool)
  /-- Stops a descriptor's worker, flushing its queue. -/
  | shutdown (desc : Nat)
  /-- Waits until another thread's worker has flushed and ended. -/
  | join (desc : Nat)
  /-- Runs the still queued jobs of the thread's own worker. -/
  | drainInline (desc : Nat)
  /-- Closes the descriptor's number. -/
  | closeNumber (desc : Nat) (report : Bool)
  deriving Repr

/-- A job of the session. -/
abbrev SessionJob := Job Completion

/-- A descriptor's worker: its queue and its thread's stack. -/
structure Worker where
  fd : Int
  queue : JobQueue SessionJob
  stack : List Task
  live : Bool
  deriving Repr

/-- A descriptor of the library: a number (`-1` once closed) and maybe a worker. -/
structure Desc where
  fd : Int
  worker : Option Worker
  deriving Repr

/-- What an entry owns. -/
inductive Resource where
  | pipe (reader writer : Nat)
  | desc (d : Nat)
  | file (d : Nat)
  | fifo (d : Nat)
  | server (d : Nat) (path : String)
  deriving Repr

namespace Resource

/-- The descriptors of a resource, in the order they are dropped. -/
def descs : Resource → List Nat
  | pipe r w => [r, w]
  | desc d | file d | fifo d | server d _ => [d]

/-- The name of the resource's type. -/
def typeName : Resource → String
  | pipe .. => "Pipe"
  | desc .. => "Descriptor"
  | file .. => "File"
  | fifo .. => "Fifo"
  | server .. => "StreamSocketServer"

end Resource

/-- An entry and the number of its owners. -/
structure Entry where
  resource : Resource
  refs : Nat
  deriving Repr

/-- What a thread's finished work reports. -/
inductive Outcome where
  | transferred (got : List UInt8) (count : Nat) (error : Option IoError)
  | closed (result : Except Errno Unit)
  deriving Repr

/-- The threads of a session. -/
inductive ThreadId where
  | main
  | helper
  | worker (desc : Nat)
  | dropper (i : Nat)
  deriving Repr, DecidableEq

/-- A monitor taken out of the session while it dispatches. -/
structure Dispatching where
  name : String
  monitor : Monitor Observer
  deriving Repr

/-- The state of a session. `io` is how the kernel answers the calls of a transfer; `logStamp`
is the time part of the session's log files, once the first one is made. -/
structure World where
  io : Kernel.Io
  kernel : Kernel.State
  descs : Array Desc
  entries : Array Entry
  handles : List (String × Nat)
  buffers : List (String × Buffer)
  monitors : List (String × Monitor Observer)
  observers : List (String × Observer)
  numberNames : List (Int × String)
  lastNumbers : List (String × Int)
  logs : List (String × List Event)
  submitted : Nat
  reported : Nat
  mainStack : List Task
  helperStack : List Task
  droppers : Array (List Task)
  mainOutcome : Option Outcome
  helperOutcome : Option Outcome
  active : Option Dispatching
  notices : List Doc
  logStamp : Option String

/-- A value of an association list under a key. -/
def lookupIn {α : Type} (xs : List (String × α)) (key : String) : Option α :=
  (xs.find? fun e => e.1 == key).map Prod.snd

/-- An association list with `key` set to `v`, in place if present, else at the end. -/
def setIn {α : Type} (xs : List (String × α)) (key : String) (v : α) : List (String × α) :=
  if xs.any (·.1 == key) then xs.map fun e => if e.1 == key then (key, v) else e
  else xs ++ [(key, v)]

/-- An association list without `key`. -/
def eraseIn {α : Type} (xs : List (String × α)) (key : String) : List (String × α) :=
  xs.filter (·.1 != key)

namespace World

/-- A fresh session whose transfers call the kernel through `io`. -/
def initial (io : Kernel.Io) : World where
  io := io
  kernel := Kernel.State.initial
  descs := #[]
  entries := #[]
  handles := []
  buffers := []
  monitors := []
  observers := []
  numberNames := []
  lastNumbers := []
  logs := []
  submitted := 0
  reported := 0
  mainStack := []
  helperStack := []
  droppers := #[]
  mainOutcome := none
  helperOutcome := none
  active := none
  notices := []
  logStamp := none

/-- How an answer shows a descriptor number: the name of the handle that got it last, or
the number itself when it is negative or nobody got it. -/
def showNumber (w : World) (fd : Int) : Doc :=
  if fd < 0 then .num fd
  else match (w.numberNames.find? fun e => e.1 == fd) with
    | some (_, name) => .text name
    | none => .num fd

/-- A library error as an answer of this session. -/
def errorDoc (w : World) (e : Error) : Doc := Doc.ofError w.showNumber e

/-- Records that handle `name` got number `fd`. -/
def nameNumber (w : World) (fd : Int) (name : String) : World :=
  { w with numberNames := if fd < 0 then w.numberNames else (fd, name) :: w.numberNames,
           lastNumbers := setIn w.lastNumbers name fd }

def desc? (w : World) (d : Nat) : Option Desc := w.descs[d]?

def modifyDesc (w : World) (d : Nat) (f : Desc → Desc) : World :=
  { w with descs := w.descs.modify d f }

/-- Adds a descriptor with number `fd`. -/
def addDesc (w : World) (fd : Int) : Nat × World :=
  (w.descs.size, { w with descs := w.descs.push ⟨fd, none⟩ })

def modifyEntry (w : World) (e : Nat) (f : Entry → Entry) : World :=
  { w with entries := w.entries.modify e f }

/-- The events recorded under a key. -/
def events (w : World) (key : String) : List Event := (lookupIn w.logs key).getD []

/-- Appends an event under a key. -/
def addEvent (w : World) (key : String) (ev : Event) : World :=
  { w with logs := setIn w.logs key (w.events key ++ [ev]), reported := w.reported + 1 }

/-- The worker of a descriptor, if it has one. -/
def worker? (w : World) (d : Nat) : Option Worker := (w.desc? d).bind (·.worker)

def modifyWorker (w : World) (d : Nat) (f : Worker → Worker) : World :=
  w.modifyDesc d fun desc => { desc with worker := desc.worker.map f }

/-- The state a descriptor's worker reports: idle before any job. -/
def workerState (w : World) (d : Nat) : WorkerState :=
  ((w.worker? d).map (·.queue.state)).getD .idle

end World

end Session
end Descriptors
