import Descriptors.Session.Act
import Descriptors.SocketAddress
import Descriptors.Kernel.Sockets
/-! Making resources: pipes, files, FIFOs, listening sockets, connected clients and
descriptors around raw numbers. Each takes the lowest free numbers, in the order the kernel
hands them out, and names a new entry; a failed call names nothing and keeps no number. -/
namespace Descriptors
namespace Session
namespace Act

open Kernel in
/-- The flags of a new file: read and write, create, truncate, close on exec. -/
def createFlags : OpenFlags :=
  ⟨OpenFlags.readWrite ||| OpenFlags.create ||| OpenFlags.truncate ||| OpenFlags.closeOnExec⟩

/-- Whether a path holds a NUL byte, which no system call can be given. -/
def hasNul (path : String) : Bool := path.toList.contains '\x00'

/-- Opens a path, creating a file with the bits of `mode`, and names a new entry around its
number. -/
def openAs (name path : String) (flags : Kernel.OpenFlags) (mode : Nat) (mk : Nat → Resource) :
    Act Doc := do
  if hasNul path then fail (.os .openFile .nulInPath)
  match ← onKernel (·.openPath path flags mode) with
  | .error e => fail (.os .openFile (.os e))
  | .ok fd =>
    adopt name fd mk
    pure (.ok .null)

/-- A file's length: the end offset, found by seeking there and back. -/
def fileLength (d : Nat) : Act Nat := do
  let fd ← number d
  let seek (offset : Nat) (whence : Kernel.Whence) : Act Nat := do
    match ← onKernel (·.lseek fd offset whence) with
    | .ok pos => pure pos
    | .error e => fail (.os .lseek (.os e))
  let current ← seek 0 .current
  let finish ← seek 0 .finish
  let _ ← seek current .start
  pure finish

/-- The file entry a handle names. -/
def fileOf (ctx : Ctx) (h : String) : Act Nat := do
  let (_, _, r) ← entryOf ctx h
  match r with
  | .file d => pure d
  | _ => misuse "not a file"

/-- Drops a number that no descriptor took. -/
def discard (fd : Nat) : Act Unit := onKernel fun k => ((), (k.close fd).2)

/-- Binds a new listening socket to `path`. -/
def listenOn (name path : String) : Act Doc := do
  let fd ← onKernel (·.socket)
  match SocketAddress.ofPath path with
  | .error e => discard fd; fail (.os .bind e)
  | .ok _ =>
    match ← onKernel (·.bind fd path) with
    | .error e => discard fd; fail (.os .bind (.os e))
    | .ok () =>
      match ← onKernel (·.listen fd) with
      | .error e => discard fd; fail (.os .listen (.os e))
      | .ok () =>
        adopt name fd fun d => .server d path
        pure (.ok .null)

/-- The refusal of a client connection. -/
def connectFailed {α : Type} (e : IoError) : Act α :=
  throw (Doc.failure "ConnectFailed" [("io", .ofIoError e)])

/-- The longest path a client address holds. -/
def clientPathLimit : Nat := 108

/-- Connects a client socket to the server listening at `path`. -/
def connectTo (name path : String) : Act Doc := do
  if hasNul path then
    connectFailed (.custom .invalidInput "paths must not contain interior null bytes")
  if clientPathLimit ≤ path.utf8ByteSize then
    connectFailed (.custom .invalidInput "path must be shorter than SUN_LEN")
  let fd ← onKernel (·.socket)
  match ← onKernel (·.connect fd path) with
  | .error e => discard fd; connectFailed (.os e)
  | .ok () =>
    adopt name fd .desc
    pure (.ok .null)

/-- The permission bits of a new file. -/
def createMode : Nat := 0o644

/-- Runs an operation that makes or inspects a resource; `none` for any other operation. -/
def resourceOp (ctx : Ctx) : Op → Option (Act Doc)
  | .pipe name flags => some do
    let name ← newName name
    let flags := ((← need flags).map Kernel.OpenFlags.ofInt).getD ⟨Kernel.OpenFlags.closeOnExec⟩
    match ← onKernel (·.pipe2 flags) with
    | .error e => fail (.os .pipe (.os e))
    | .ok (r, wr) =>
      let w ← get
      let (dr, w) := w.addDesc r
      let (dw, w) := w.addDesc wr
      set ((w.nameNumber r s!"{name}.r").nameNumber wr s!"{name}.w")
      bindEntry name (.pipe dr dw)
      pure (.ok (.record [("r", .text s!"{name}.r"), ("w", .text s!"{name}.w")]))
  | .split name => some do
    let (e, r) ← takeName name
    match r with
    | .pipe dr dw =>
      if 1 < (← owners e) then misuse "pipe is shared"
      setOwners e 0
      unbind name
      bindEntry s!"{name}.r" (.desc dr)
      bindEntry s!"{name}.w" (.desc dw)
      pure (.ok .null)
    | _ =>
      -- the entry was taken out to be split, and goes with the refusal
      unbind name
      perform [.dropRef e]
      misuse "not a pipe"
  | .fileCreate name path => some do
    let name ← newName name
    openAs name (← need path) createFlags createMode .file
  | .fileOpen name path flags mode => some do
    let name ← newName name
    let path ← need path
    let flags ← need flags
    openAs name path (Kernel.OpenFlags.ofInt flags) ((← need mode).getD 0) .file
  | .fileLen h => some do
    let d ← fileOf ctx h
    pure (.ok (.num (← fileLength d)))
  | .fileIsEmpty h => some do
    let d ← fileOf ctx h
    pure (.ok (.bool ((← fileLength d) == 0)))
  | .intoDescriptor h name => some do
    let name ← freshName name
    let (e, r) ← takeName h
    match r with
    | .file d | .fifo d =>
      if 1 < (← owners e) then misuse "handle is shared"
      modify fun w => w.modifyEntry e fun en => { en with resource := .desc d }
      unbind h
      let fd ← number d
      modify fun w => w.nameNumber fd name
      bindHandle name e
      pure (.ok .null)
    | _ => misuse "not a file or fifo"
  | .fifoCreate path mode => some do
    if hasNul path then fail (.os .mkfifo .nulInPath)
    match ← onKernel (·.mkfifo path mode) with
    | .error e => fail (.os .mkfifo (.os e))
    | .ok () => pure (.ok .null)
  | .fifoOpen name path flags => some do
    let name ← newName name
    let flags ← need flags
    openAs name (← need path) (Kernel.OpenFlags.ofInt flags) 0 .fifo
  | .fifoCapacity h => some do
    let (_, _, r) ← entryOf ctx h
    match r with
    | .fifo d =>
      let fd ← number d
      match Kernel.State.pipeBuf fd with
      | .ok n => pure (.ok (.num n))
      | .error e => fail (.os .fpathconf (.os e))
    | _ => misuse "not a fifo"
  | .serverBind name path backlog => some do
    let name ← newName name
    let path ← need path
    let _ ← need backlog
    listenOn name path
  | .serverAccept h name => some do
    let (_, _, r) ← entryOf ctx (← need h)
    let name ← newName name
    match r with
    | .server d _ =>
      let fd ← number d
      match ← onKernel (·.accept fd) with
      | .accepted n =>
        adopt name n .desc
        pure (.ok .null)
      | .failed e => fail (.os .accept (.os e))
      | .wouldBlock => misuse "no connection is pending"
    | _ => misuse "not a server"
  | .serverPath h => some do
    let (_, _, r) ← entryOf ctx h
    match r with
    | .server _ path => pure (.ok (.text path))
    | _ => misuse "not a server"
  | .connect name path => some do
    let name ← newName name
    connectTo name (← need path)
  | .raw name fd => some do
    let name ← newName name
    adopt name (← need fd) .desc
    pure (.ok .null)
  | _ => none

end Act
end Session
end Descriptors
