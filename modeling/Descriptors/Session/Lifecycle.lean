import Descriptors.Session.Act
/-! The life of a descriptor: a clone under a new number, a number pointed at another
descriptor's resource, an explicit close that reports its outcome, a drop, and the trip
through a raw number. Closing and dropping stop the worker first, so queued jobs still run. -/
namespace Descriptors
namespace Session
namespace Act

/-- Closes an entry that nobody else holds and reports the outcome of its close. -/
def closeEntry (name : String) (e d : Nat) : Act Doc := do
  unbind name
  let refs ← owners e
  if 1 < refs then
    setOwners e (refs - 1)
    pure (.ok (.text "shared"))
  else
    setOwners e 0
    perform [.release d true]
    let w ← get
    match w.mainOutcome with
    | some (.closed (.error code)) => fail (.os .close (.os code))
    | _ => pure (.ok .null)

/-- The descriptor of an entry that can be closed or rewrapped: a bare descriptor, a file or
a FIFO. -/
def closable (r : Resource) : Act Nat :=
  match r with
  | .desc d | .file d | .fifo d => pure d
  | _ => misuse "close/rewrap needs a descriptor, file or fifo"

/-- Runs an operation on a descriptor's life; `none` for any other operation. The entry that
a close, drop or rewrap takes is named as written, since a pipe end is no entry of its own. -/
def lifecycleOp (ctx : Ctx) : Op → Option (Act Doc)
  | .tryClone h name => some do
    let d ← desc ctx (← need h)
    let name ← newName name
    let fd ← number d
    match ← onKernel (·.dup fd) with
    | .error e => fail (.os .dup (.os e))
    | .ok n =>
      adopt name n .desc
      pure (.ok .null)
  | .duplicateFrom h src => some do
    let d ← desc ctx (← need h)
    let s ← descOf (← handleAt (← need src))
    let dfd ← number d
    let sfd ← number s
    match ← onKernel (·.dup2 sfd dfd) with
    | .error e => fail (.os .dup2 (.os e))
    | .ok () => pure (.ok .null)
  | .close h => some do
    let (e, r) ← takeName h
    closeEntry h e (← closable r)
  | .drop h => some do
    let (e, _) ← takeName h
    unbind h
    perform [.dropRef e]
    pure (.ok .null)
  | .rewrap h name => some do
    let name ← freshName name
    let (e, r) ← takeName h
    let d ← closable r
    unbind h
    let refs ← owners e
    if 1 < refs then
      setOwners e (refs - 1)
      pure (.ok (.text "shared"))
    else
      perform [.shutdown d]
      let fd ← number d
      modify fun w => w.modifyDesc d fun dsc => { dsc with fd := -1 }
      setOwners e 0
      adopt name fd .desc
      pure (.ok .null)
  | _ => none

end Act
end Session
end Descriptors
