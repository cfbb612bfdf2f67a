import Descriptors.Kernel.PipeRing
import Descriptors.Kernel.Tree
/-! The kernel state a process sees: its descriptor table, the open files the numbers refer
to, and the objects behind them (pipes, inodes of the file tree, sockets). A new number is
always the lowest free one. An open file lives while some number refers to it; when the last
one goes, its pipe end or socket is released.

Releasing one end of a stream connection shuts the other end down: it can send no more, and
its reads end once it has read what it holds. If the released end still held unread bytes, or
was a connection nobody had accepted yet, the other end also gets a pending `ECONNRESET`,
which its next read that finds nothing to return reports once. -/
namespace Descriptors
namespace Kernel

/-- An open file: the object, the access it was opened with, and its position. A file opened
with `O_PATH` only marks a place: it can be duplicated and closed, nothing else. `direct` is
`O_DIRECT`, packet mode on a pipe. `hupMark` is the count of writer openings a FIFO reader saw
when it opened without any writer; the reader reports hang-up only once that count has moved. -/
structure OpenFile where
  target : Target
  readable : Bool
  writable : Bool
  nonblocking : Bool := false
  appending : Bool := false
  direct : Bool := false
  pathOnly : Bool := false
  offset : Nat := 0
  hupMark : Nat := 0
  refs : Nat := 1
  deriving Repr

/-- A pipe, anonymous or behind a FIFO (`named`): its pages, its open ends, and how often a
reader or writer end has been opened. -/
structure PipeState where
  ring : PipeRing := PipeRing.empty
  readers : Nat
  writers : Nat
  readerOpenings : Nat := 1
  writerOpenings : Nat := 1
  named : Bool := false
  deriving Repr

/-- One end of a stream connection: its peer, the bytes sent to it and not read yet, whether
the peer is gone (`shutdown`), and the error its next empty read reports. -/
structure Stream where
  peer : Nat
  inbox : List UInt8 := []
  shutdown : Bool := false
  error : Option Errno := none
  deriving Repr, DecidableEq

/-- A Unix stream socket. A listening socket queues the server ends of the connections made
to it until they are accepted. -/
inductive SocketState where
  | unbound
  | bound
  | listening (pending : List Nat)
  | connected (s : Stream)
  | closed
  deriving Repr, DecidableEq

/-- The kernel's state. Pipe and socket identifiers index their arrays and are never reused.
An abstract socket name is the whole address field, its trailing NUL bytes dropped. -/
structure State where
  table : Array (Option Nat)
  files : Array OpenFile
  pipes : Array PipeState
  sockets : Array SocketState
  tree : Tree
  abstractNames : List (List UInt8 × Nat)

namespace State

/-- Numbers 0, 1 and 2 are the standard streams and number 3 is the log file the process
opened before the session started; nothing else is open. -/
def initial : State where
  table := #[some 0, some 0, some 0, some 1]
  files := #[{ target := .console, readable := true, writable := true, refs := 3 },
    { target := .inode Tree.logFile, readable := false, writable := true, appending := true }]
  pipes := #[]
  sockets := #[]
  tree := Tree.initial
  abstractNames := []

/-- The highest number a process may hold, plus one: its limit on open files. -/
def numberLimit : Nat := 20000

/-- The open file a number refers to. -/
def entry? (k : State) (fd : Int) : Option Nat :=
  if fd < 0 then none else (k.table[fd.toNat]?).getD none

def file? (k : State) (fd : Int) : Option OpenFile :=
  (k.entry? fd).bind fun i => k.files[i]?

/-- What each open number refers to, as the descriptor directory shows it. -/
def links (k : State) (fd : Nat) : Option Target := (k.file? fd).map (·.target)

/-- The lowest free number at or above `low`. -/
def lowestFree (k : State) (low : Nat) : Nat :=
  ((List.range k.table.size).find? fun i => low ≤ i && k.table[i]?.getD none == none).getD
    (max low k.table.size)

/-- Points number `fd` at open file `i`, growing the table as needed. -/
def setNumber (k : State) (fd : Nat) (i : Option Nat) : State :=
  let table := if fd < k.table.size then k.table
    else k.table ++ Array.replicate (fd + 1 - k.table.size) none
  { k with table := table.modify fd fun _ => i }

/-- Registers an open file under the lowest free number. -/
def install (k : State) (f : OpenFile) : Nat × State :=
  let fd := k.lowestFree 0
  let k := { k with files := k.files.push f }
  (fd, k.setNumber fd (some (k.files.size - 1)))

def modifyPipe (k : State) (id : Nat) (f : PipeState → PipeState) : State :=
  { k with pipes := k.pipes.modify id f }

def modifyFile (k : State) (i : Nat) (f : OpenFile → OpenFile) : State :=
  { k with files := k.files.modify i f }

def setSocket (k : State) (id : Nat) (s : SocketState) : State :=
  { k with sockets := k.sockets.modify id fun _ => s }

def setTree (k : State) (t : Tree) : State := { k with tree := t }

/-- The other end of a connection learns that `id` is gone: it is shut down, and gets a
pending reset when `reset`. -/
def peerGone (k : State) (peer id : Nat) (reset : Bool) : State :=
  match k.sockets[peer]? with
  | some (.connected s) =>
    if s.peer == id then
      let error := if reset then some .econnreset else s.error
      k.setSocket peer (.connected { s with shutdown := true, error := error })
    else k
  | _ => k

/-- Releases a connected end; `embryo` when nobody had accepted it. -/
def releaseStream (k : State) (id : Nat) (embryo : Bool) : State :=
  match k.sockets[id]? with
  | some (.connected s) =>
    (k.peerGone s.peer id (embryo || !s.inbox.isEmpty)).setSocket id .closed
  | _ => k.setSocket id .closed

/-- Closes a socket: a connected end is released, a listening socket releases the
connections still waiting in its queue and gives up its abstract name. -/
def closeSocket (k : State) (id : Nat) : State :=
  match k.sockets[id]? with
  | some (.listening pending) =>
    let k := pending.foldl (fun k e => k.releaseStream e true) k
    { k.setSocket id .closed with
      abstractNames := k.abstractNames.filter (·.2 != id) }
  | some (.connected _) => k.releaseStream id false
  | _ =>
    { k.setSocket id .closed with
      abstractNames := k.abstractNames.filter (·.2 != id) }

/-- Drops a FIFO's pipe once no end of it is open. -/
def forgetIdleFifo (k : State) (id : Nat) : State :=
  match k.pipes[id]? with
  | some p =>
    if p.readers == 0 && p.writers == 0 then
      let inodes := k.tree.inodes.map fun i =>
        match i.node with
        | .fifo (some p) => if p == id then { i with node := .fifo none } else i
        | _ => i
      k.setTree { k.tree with inodes := inodes }
    else k
  | none => k

/-- Releases what an open file held once its last number is gone. -/
def release (k : State) (f : OpenFile) : State :=
  match f.target with
  | .pipe id =>
    let k := k.modifyPipe id fun p =>
      { p with readers := if f.readable then p.readers - 1 else p.readers
               writers := if f.writable then p.writers - 1 else p.writers }
    k.forgetIdleFifo id
  | .socket id => k.closeSocket id
  | _ => k

/-- Removes number `fd`, releasing its open file if nothing else refers to it. -/
def unlink (k : State) (fd : Nat) : State :=
  match (k.table[fd]?).getD none with
  | none => k
  | some i =>
    let k := k.setNumber fd none
    match k.files[i]? with
    | none => k
    | some f =>
      let k := k.modifyFile i fun f => { f with refs := f.refs - 1 }
      if f.refs ≤ 1 then k.release f else k

/-- `close(2)`. -/
def close (k : State) (fd : Int) : Except Errno Unit × State :=
  match k.entry? fd with
  | none => (.error .ebadf, k)
  | some _ => (.ok (), k.unlink fd.toNat)

/-- `fcntl(F_DUPFD_CLOEXEC, 0)`: the lowest free number, sharing the open file. -/
def dup (k : State) (fd : Int) : Except Errno Nat × State :=
  match k.entry? fd with
  | none => (.error .ebadf, k)
  | some i =>
    let n := k.lowestFree 0
    let k := k.modifyFile i fun f => { f with refs := f.refs + 1 }
    (.ok n, k.setNumber n (some i))

/-- `dup2(2)`: number `dst` comes to share `src`'s open file, after closing what `dst`
held. The same number twice is left alone. -/
def dup2 (k : State) (src dst : Int) : Except Errno Unit × State :=
  match k.entry? src with
  | none => (.error .ebadf, k)
  | some i =>
    if dst < 0 || numberLimit ≤ dst.toNat then (.error .ebadf, k)
    else if src == dst then (.ok (), k)
    else
      let k := k.unlink dst.toNat
      let k := k.modifyFile i fun f => { f with refs := f.refs + 1 }
      (.ok (), k.setNumber dst.toNat (some i))

end State

end Kernel
end Descriptors
