import Descriptors.Session.Threads
/-! Running an operation: the monad of session steps, which may stop early with the answer
(a misuse or a library error), and how names resolve. A handle name is an entry; for a pipe
that was not split, `name.r` and `name.w` are its ends. Inside an observer, `$` is the handle
that last got the notified number. -/
namespace Descriptors
namespace Session

/-- A step of a session that may stop early with its answer. -/
abbrev Act := ExceptT Doc (StateM World)

/-- What an observer's actions know: the number being notified. -/
structure Ctx where
  dollar : Option Int

/-- What a handle name stands for. -/
inductive Handle where
  | whole (entry : Nat)
  | pipeEnd (entry : Nat) (reader : Bool)
  deriving Repr

/-- The entry of a handle. -/
def Handle.entry : Handle → Nat
  | .whole e | .pipeEnd e _ => e

namespace Act

/-- The answer of a step, whether it ran through or stopped early. -/
def answer (a : Act Doc) : StateM World Doc := do
  match ← a.run with
  | .ok d => pure d
  | .error d => pure d

def misuse {α : Type} (message : String) : Act α := throw (Doc.misuse message)

/-- Stops with a library error. -/
def fail {α : Type} (e : Error) : Act α := do
  let w ← get
  throw (w.errorDoc e)

/-- The value of a library result, or its error as the answer. -/
def orFail {α : Type} : Except Error α → Act α
  | .ok a => pure a
  | .error e => fail e

/-- The value of a check of the protocol, or its misuse as the answer. -/
def orMisuse {α : Type} : Except String α → Act α
  | .ok a => pure a
  | .error m => misuse m

/-- What a handle name stands for, if anything. -/
def lookupHandle (w : World) (name : String) : Option Handle :=
  match lookupIn w.handles name with
  | some e => some (.whole e)
  | none =>
    let base := name.dropEnd 2 |>.toString
    let pipeOf (reader : Bool) : Option Handle :=
      match lookupIn w.handles base with
      | some e =>
        match w.entries[e]? with
        | some ⟨.pipe .., _⟩ => some (.pipeEnd e reader)
        | _ => none
      | none => none
    if name.endsWith ".r" then pipeOf true
    else if name.endsWith ".w" then pipeOf false
    else none

/-- Resolves a handle name as written. -/
def handleAt (name : String) : Act Handle := do
  let w ← get
  match lookupHandle w name with
  | some hd => pure hd
  | none => misuse s!"no handle {name}"

/-- The handle name an operation means: `$` is the handle that last got the notified number,
which must still exist. -/
def handleName (ctx : Ctx) (h : String) : Act String := do
  if h == "$" then
    match ctx.dollar with
    | none => misuse "$ outside observer"
    | some fd =>
      let w ← get
      let name := match w.showNumber fd with
        | .text name => name
        | _ => toString fd
      let _ ← handleAt name
      pure name
  else pure h

/-- Resolves a handle, `$` included. -/
def handle (ctx : Ctx) (h : String) : Act (String × Handle) := do
  let name ← handleName ctx h
  pure (name, ← handleAt name)

/-- The resource of an entry. -/
def resource (e : Nat) : Act Resource := do
  let w ← get
  match w.entries[e]? with
  | some en => pure en.resource
  | none => misuse "no such entry"

/-- The descriptor a handle operates on: a pipe that was not split operates on its reader. -/
def descOf (hd : Handle) : Act Nat := do
  match hd, ← resource hd.entry with
  | .pipeEnd _ true, .pipe r _ | .whole _, .pipe r _ => pure r
  | .pipeEnd _ false, .pipe _ wr => pure wr
  | _, .desc d | _, .file d | _, .fifo d | _, .server d _ => pure d

/-- The descriptor a handle operates on, `$` included. -/
def desc (ctx : Ctx) (h : String) : Act Nat := do
  descOf (← handle ctx h).2

/-- The entry a handle names, whole pipes and pipe ends alike, with its resource. -/
def entryOf (ctx : Ctx) (h : String) : Act (String × Nat × Resource) := do
  let (name, hd) ← handle ctx h
  pure (name, hd.entry, ← resource hd.entry)

/-- An entry taken by its name as written: only whole entries can be taken. -/
def takeName (name : String) : Act (Nat × Resource) := do
  let w ← get
  match lookupIn w.handles name with
  | some e => pure (e, ← resource e)
  | none => misuse s!"no handle {name} (pipe ends cannot be taken)"

/-- The current number of a descriptor. -/
def number (d : Nat) : Act Int := do
  let w ← get
  match w.desc? d with
  | some desc => pure desc.fd
  | none => misuse "no such descriptor"

/-- A named buffer. -/
def buffer (b : String) : Act Buffer := do
  let w ← get
  match lookupIn w.buffers b with
  | some buf => pure buf
  | none => misuse s!"no buffer {b}"

/-- A named buffer an operation takes out of the session for its duration. -/
def takenBuffer (b : String) : Act Buffer := do
  let w ← get
  match lookupIn w.buffers b with
  | some buf => pure buf
  | none => misuse "no buffer"

def setBuffer (b : String) (buf : Buffer) : Act Unit :=
  modify fun w => { w with buffers := setIn w.buffers b buf }

/-- A buffer moved out of the session: it is gone even if the call then fails. -/
def takeBuffer (b : String) : Act Buffer := do
  let buf ← takenBuffer b
  modify fun w => { w with buffers := eraseIn w.buffers b }
  pure buf

/-- Bytes of an operation. -/
def bytes (src : ByteSource) : Act (List UInt8) :=
  match src.resolve with
  | .ok bs => pure bs
  | .error (.misuse m) => misuse m
  | .error .panic => throw Doc.panicked

/-- A size the session may allocate. -/
def allocation (n : Nat) : Act Nat :=
  if allocationLimit < n then misuse "allocation too large" else pure n

/-- Reads a field of an operation: its value, or its misuse as the operation's answer. -/
def need {α : Type} : Field α → Act α
  | .ok a => pure a
  | .error message => misuse message

/-- A name for a new handle, which no handle may hold already. -/
def freshName (name : String) : Act String := do
  if (lookupIn (← get).handles name).isSome then misuse s!"handle {name} exists"
  pure name

/-- The name an operation gives a new handle, read from its field. -/
def newName (name : Field String) : Act String := do freshName (← need name)

/-- Runs a kernel call. -/
def onKernel {α : Type} (f : Kernel.State → α × Kernel.State) : Act α := do
  let w ← get
  let (a, k) := f w.kernel
  set { w with kernel := k }
  pure a

/-- Lets the session's own thread run `tasks`, every other thread running meanwhile. -/
def perform (tasks : List Task) : Act Unit := modify fun w => w.perform tasks

/-- Puts entry `e` under `name`; what the name held before is dropped. -/
def bindHandle (name : String) (e : Nat) : Act Unit := do
  let w ← get
  let old := lookupIn w.handles name
  set { w with handles := setIn w.handles name e }
  match old with
  | some o => if o == e then pure () else perform [.dropRef o]
  | none => pure ()

/-- Names a new entry owning resource `r`. -/
def bindEntry (name : String) (r : Resource) : Act Unit := do
  let w ← get
  set { w with entries := w.entries.push ⟨r, 1⟩ }
  bindHandle name w.entries.size

/-- Names a new entry for a fresh descriptor with number `fd`. -/
def adopt (name : String) (fd : Int) (mk : Nat → Resource) : Act Unit := do
  let w ← get
  let (d, w) := w.addDesc fd
  set (w.nameNumber fd name)
  bindEntry name (mk d)

/-- Takes a handle's name away from its entry, which keeps its other owners. -/
def unbind (name : String) : Act Unit :=
  modify fun w => { w with handles := eraseIn w.handles name }

/-- The number of owners of an entry. -/
def owners (e : Nat) : Act Nat := do
  let w ← get
  pure ((w.entries[e]?.map (·.refs)).getD 0)

/-- Sets the number of owners of an entry. -/
def setOwners (e refs : Nat) : Act Unit :=
  modify fun w => w.modifyEntry e fun en => { en with refs := refs }

/-- Only the error field of a failure document: what a helper reports. -/
def errorOnly : Doc → Doc
  | .record fields => .record (fields.filter (·.1 == "error"))
  | d => d

end Act

end Session
end Descriptors
