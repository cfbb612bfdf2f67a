import Descriptors.Error
/-! The readiness monitor. It associates descriptor numbers with observers, keeps the set
of watched numbers and the highest of them, and waits until some watched number is
readable. A wait works on a snapshot of the associations taken when it begins: it notifies,
in registration order, each association whose number came back ready, even when an observer
stops it meanwhile, and none that an observer adds. Observers receive the monitor and may
change it, or wait on it again. -/
namespace Descriptors

/-- A watched number and the observer told about it. -/
structure Association (α : Type) where
  fd : Int
  observer : α
  deriving Repr

/-- A monitor: the watched set, its highest number (`-1` when empty) and the associations
in registration order. -/
structure Monitor (α : Type) where
  watched : List Int
  highest : Int
  associations : List (Association α)
  deriving Repr

/-- How a wait ended when it did not fail. -/
inductive WaitOutcome where
  | ready (dispatched : Nat)
  | timedOut
  deriving Repr, DecidableEq

namespace Monitor

variable {α : Type}

/-- Numbers from 0 to 1023 fit the readiness set. -/
def setSize : Int := 1024

def inRange (fd : Int) : Bool := 0 ≤ fd && fd < setSize

def empty : Monitor α := ⟨[], -1, []⟩

/-- Whether a number is watched; numbers outside the range never are. -/
def isMonitored (m : Monitor α) (fd : Int) : Bool :=
  inRange fd && m.watched.contains fd

def len (m : Monitor α) : Nat := m.associations.length

def isEmpty (m : Monitor α) : Bool := m.associations.isEmpty

/-- The largest number of a list of associations, or `-1`. -/
def highestOf (as : List (Association α)) : Int :=
  as.foldl (fun h a => max h a.fd) (-1)

/-- Starts watching `fd` for `observer`: refused outside the range, then when already
watched. -/
def start (m : Monitor α) (observer : α) (fd : Int) : Except Error (Monitor α) :=
  if !inRange fd then .error (.outOfRange fd)
  else if m.watched.contains fd then .error (.alreadyMonitored fd)
  else .ok { watched := m.watched ++ [fd], highest := max m.highest fd,
             associations := m.associations ++ [⟨fd, observer⟩] }

/-- Stops watching `fd`, recomputing the highest number when it was the highest. -/
def stop (m : Monitor α) (fd : Int) : Except Error (Monitor α) :=
  if !m.isMonitored fd then .error (.notMonitored fd)
  else
    let as := m.associations.filter (·.fd != fd)
    .ok { watched := m.watched.erase fd, associations := as,
          highest := if fd == m.highest then highestOf as else m.highest }

/-- The associations of a snapshot whose number came back ready, in order. -/
def due (snapshot : List (Association α)) (ready : List Int) : List (Association α) :=
  snapshot.filter fun a => ready.contains a.fd

/-- One wait. `select` is asked for the ready subset of the watched set (empty means the
time ran out); `notify` runs an observer and gives back the monitor it left. A wait without
a time limit on a monitor with no association fails at once. -/
def wait {μ : Type → Type} [Monad μ]
    (select : List Int → Int → μ (Except IoError (List Int)))
    (notify : Monitor α → Association α → μ (Monitor α)) (limited : Bool) (m : Monitor α) :
    μ (Except Error WaitOutcome × Monitor α) := do
  if !limited && m.isEmpty then
    return (.error (.wait IoError.nothingMonitored), m)
  let snapshot := m.associations
  match ← select m.watched m.highest with
  | .error e => return (.error (.wait e), m)
  | .ok [] => return (.ok .timedOut, m)
  | .ok ready =>
    let todo := due snapshot ready
    let m ← todo.foldlM notify m
    return (.ok (.ready todo.length), m)

end Monitor

end Descriptors
