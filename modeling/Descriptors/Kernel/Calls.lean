import Descriptors.Kernel.State
import Descriptors.Kernel.Flags
/-! The system calls, as functions of the kernel state. A call that would have to wait (an
empty pipe with writers, a full pipe with readers, an empty socket, no pending connection)
answers `wouldBlock` and changes nothing when its descriptor blocks; a non-blocking one
fails with `EAGAIN` instead. Regular files never wait. -/
namespace Descriptors
namespace Kernel

/-- What one `read(2)` call did. -/
inductive ReadReply where
  | data (bytes : List UInt8)
  | endOfStream
  | failed (code : Errno)
  | wouldBlock
  deriving Repr, DecidableEq

/-- What one `write(2)` call did. -/
inductive WriteReply where
  | accepted (count : Nat)
  | failed (code : Errno)
  | wouldBlock
  deriving Repr, DecidableEq

/-- Where `lseek(2)` counts from. -/
inductive Whence where
  | start | current | finish
  deriving Repr, DecidableEq

namespace State

/-- The bytes a connected stream socket holds for its reader, at most. -/
def socketCapacity : Nat := 212992

/-- The end a directory reports for `SEEK_END`: the largest file offset. -/
def directoryEnd : Nat := 9223372036854775807

/-- The open file behind a number, with its index. -/
def openFile? (k : State) (fd : Int) : Option (Nat × OpenFile) :=
  (k.entry? fd).bind fun i => (k.files[i]?).map fun f => (i, f)

/-- Reading a pipe: what is there, end of stream once no writer is left, else a wait. -/
def readPipe (k : State) (id want : Nat) (f : OpenFile) : ReadReply × State :=
  match k.pipes[id]? with
  | none => (.failed .ebadf, k)
  | some p =>
    if p.ring.isEmpty then
      if p.writers == 0 then (.endOfStream, k)
      else if f.nonblocking then (.failed .eagain, k)
      else (.wouldBlock, k)
    else
      let (got, ring) := p.ring.read want
      (.data got, k.modifyPipe id fun p => { p with ring := ring })

/-- Reading a connected socket: what it holds, then its pending error once, then end of
stream once its peer is gone, else a wait. -/
def readSocket (k : State) (id want : Nat) (f : OpenFile) : ReadReply × State :=
  match k.sockets[id]? with
  | some (.connected s) =>
    if s.inbox.isEmpty then
      match s.error with
      | some e => (.failed e, k.setSocket id (.connected { s with error := none }))
      | none =>
        if s.shutdown then (.endOfStream, k)
        else if f.nonblocking then (.failed .eagain, k)
        else (.wouldBlock, k)
    else
      (.data (s.inbox.take want), k.setSocket id (.connected { s with inbox := s.inbox.drop want }))
  | _ => (.failed .einval, k)

/-- Reading an inode: a directory refuses, a regular file gives what lies past the offset,
the null device and a report are always at their end and the other devices give zeros. A
direct read of a
regular file on a disk can only report its end: the session's buffers never meet the
alignment a direct transfer there needs. -/
def readInode (k : State) (i n want : Nat) (f : OpenFile) : ReadReply × State :=
  match k.tree.node? n with
  | some (.directory ..) => (.failed .eisdir, k)
  | some (.regular data) =>
    if f.direct && !k.tree.inMemory n then
      if data.length ≤ f.offset then (.endOfStream, k) else (.failed .einval, k)
    else
      let got := (data.drop f.offset).take want
      if got.isEmpty then (.endOfStream, k)
      else (.data got, k.modifyFile i fun f => { f with offset := f.offset + got.length })
  | some (.device .null) | some .report => (.endOfStream, k)
  | some (.device _) => (.data (List.replicate want 0), k)
  | _ => (.failed .einval, k)

/-- `read(2)` of up to `want` bytes. -/
def read (k : State) (fd : Int) (want : Nat) : ReadReply × State :=
  match k.openFile? fd with
  | none => (.failed .ebadf, k)
  | some (i, f) =>
    if f.pathOnly || !f.readable then (.failed .ebadf, k)
    else match f.target with
      | .console => (.wouldBlock, k)
      | .inode n => k.readInode i n want f
      | .pipe id => k.readPipe id want f
      | .socket id => k.readSocket id want f

/-- The contents with `bs` written at `pos`, zero-filled up to `pos`. -/
def overwrite (contents bs : List UInt8) (pos : Nat) : List UInt8 :=
  let head := contents.take pos ++ List.replicate (pos - contents.length) 0
  head ++ bs ++ contents.drop (pos + bs.length)

/-- Writing an inode: a regular file takes every byte at the offset, or at its end when
appending (a direct write to a disk fails, as a direct read does); the full device is
always full and the other devices take everything. -/
def writeInode (k : State) (i n : Nat) (bs : List UInt8) (f : OpenFile) : WriteReply × State :=
  match k.tree.node? n with
  | some (.regular data) =>
    if f.direct && !k.tree.inMemory n then (.failed .einval, k)
    else
      let pos := if f.appending then data.length else f.offset
      let k := k.setTree (k.tree.setNode n (.regular (overwrite data bs pos)))
      (.accepted bs.length, k.modifyFile i fun f => { f with offset := pos + bs.length })
  | some (.device .full) => (.failed .enospc, k)
  | some (.device _) => (.accepted bs.length, k)
  | some (.directory ..) => (.failed .eisdir, k)
  | _ => (.failed .einval, k)

/-- Writing a connected socket: nothing once it is shut down, else as much as the peer's
queue has room for. -/
def writeSocket (k : State) (id : Nat) (bs : List UInt8) (f : OpenFile) : WriteReply × State :=
  match k.sockets[id]? with
  | some (.connected s) =>
    if s.shutdown then (.failed .epipe, k)
    else match k.sockets[s.peer]? with
      | some (.connected p) =>
        let room := socketCapacity - p.inbox.length
        if room == 0 then
          if f.nonblocking then (.failed .eagain, k) else (.wouldBlock, k)
        else
          let n := min room bs.length
          (.accepted n, k.setSocket s.peer (.connected { p with inbox := p.inbox ++ bs.take n }))
      | _ => (.failed .epipe, k)
  | _ => (.failed .enotconn, k)

/-- Writing a pipe: a pipe without readers refuses, a full one waits. -/
def writePipe (k : State) (id : Nat) (bs : List UInt8) (f : OpenFile) : WriteReply × State :=
  match k.pipes[id]? with
  | none => (.failed .ebadf, k)
  | some p =>
    if p.readers == 0 then (.failed .epipe, k)
    else
      let (n, ring) := p.ring.write bs f.direct
      if n == 0 then
        if f.nonblocking then (.failed .eagain, k) else (.wouldBlock, k)
      else (.accepted n, k.modifyPipe id fun p => { p with ring := ring })

/-- `write(2)` of `bs`. -/
def write (k : State) (fd : Int) (bs : List UInt8) : WriteReply × State :=
  match k.openFile? fd with
  | none => (.failed .ebadf, k)
  | some (i, f) =>
    if f.pathOnly || !f.writable then (.failed .ebadf, k)
    else match f.target with
      | .console => (.accepted bs.length, k)
      | .inode n => k.writeInode i n bs f
      | .pipe id => k.writePipe id bs f
      | .socket id => k.writeSocket id bs f

/-- `lseek(2)` to `offset` from `whence`. Pipes, FIFOs and sockets cannot seek; a device
always seeks to 0. A directory's end is the largest offset on the disk, 0 on the process
filesystem, and refused on the memory filesystem; a report has no end to seek to. -/
def lseek (k : State) (fd : Int) (offset : Nat) (whence : Whence) : Except Errno Nat × State :=
  match k.openFile? fd with
  | none => (.error .ebadf, k)
  | some (i, f) =>
    let place (size : Nat) : Except Errno Nat × State :=
      let pos := match whence with
        | .start => offset
        | .current => f.offset + offset
        | .finish => size + offset
      (.ok pos, k.modifyFile i fun f => { f with offset := pos })
    if f.pathOnly then (.error .ebadf, k)
    else match f.target with
      | .inode n =>
        match k.tree.node? n with
        | some (.regular data) => place data.length
        | some (.directory ..) =>
          match k.tree.filesystem n with
          | .disk => place directoryEnd
          | .memory => if whence == .finish then (.error .einval, k) else place 0
          | .process => place 0
        | some (.descriptors _) | some (.descriptorInfo ..) => place 0
        | some .report => if whence == .finish then (.error .einval, k) else place 0
        | some (.device _) => (.ok 0, k.modifyFile i fun f => { f with offset := 0 })
        | _ => (.error .espipe, k)
      | _ => (.error .espipe, k)

/-- `pipe2(2)`: a reader and a writer number, in that order. Only close-on-exec,
non-blocking and packet mode are taken; a notification pipe needs a facility this kernel
lacks, so asking for one fails with `ENOPKG`. -/
def pipe2 (k : State) (flags : OpenFlags) : Except Errno (Nat × Nat) × State :=
  if !flags.pipeFlagsKnown then (.error .einval, k)
  else if flags.has OpenFlags.notification then (.error .enopkg, k)
  else
    let id := k.pipes.size
    let k := { k with pipes := k.pipes.push { readers := 1, writers := 1 } }
    let nb := flags.has OpenFlags.nonblocking
    let pk := flags.has OpenFlags.direct
    let (r, k) := k.install
      { target := .pipe id, readable := true, writable := false, nonblocking := nb, direct := pk }
    let (w, k) := k.install
      { target := .pipe id, readable := false, writable := true, nonblocking := nb, direct := pk }
    (.ok (r, w), k)

/-- Opens pipe `id` for the access `flags` ask, as opening a FIFO does; access mode 3 asks
for neither end and fails with `EINVAL`. Behind a FIFO, a writer that may not wait finds no
reader and fails with `ENXIO`, and a reader that finds no writer reports hang-up only once a
writer has come. A pipe made by `pipe2`, reached through the descriptor directory, has
neither rule. -/
def openPipe (k : State) (id : Nat) (flags : OpenFlags) : Except Errno Nat × State :=
  match k.pipes[id]? with
  | none => (.error .enxio, k)
  | some p =>
    let nb := flags.has OpenFlags.nonblocking
    let base : OpenFile := { target := .pipe id, readable := false, writable := false,
                             nonblocking := nb, direct := flags.has OpenFlags.direct }
    match flags.mode with
    | 0 =>
      let mark := if p.named && p.writers == 0 && nb then p.writerOpenings else 0
      let k := k.modifyPipe id fun p =>
        { p with readers := p.readers + 1, readerOpenings := p.readerOpenings + 1 }
      let (fd, k) := k.install { base with readable := true, hupMark := mark }
      (.ok fd, k)
    | 1 =>
      if p.named && p.readers == 0 && nb then (.error .enxio, k.forgetIdleFifo id)
      else
        let k := k.modifyPipe id fun p =>
          { p with writers := p.writers + 1, writerOpenings := p.writerOpenings + 1 }
        let (fd, k) := k.install { base with writable := true }
        (.ok fd, k)
    | 2 =>
      let k := k.modifyPipe id fun p =>
        { p with readers := p.readers + 1, writers := p.writers + 1,
                 readerOpenings := p.readerOpenings + 1, writerOpenings := p.writerOpenings + 1 }
      let (fd, k) := k.install { base with readable := true, writable := true }
      (.ok fd, k)
    | _ => (.error .einval, k.forgetIdleFifo id)

/-- Opens the pipe of FIFO inode `n`, making the pipe on first use. -/
def openFifo (k : State) (n : Nat) (flags : OpenFlags) : Except Errno Nat × State :=
  let (id, k) := match k.tree.node? n with
    | some (.fifo (some id)) => (id, k)
    | _ =>
      let id := k.pipes.size
      (id, { k with pipes := k.pipes.push { readers := 0, writers := 0, named := true },
                    tree := k.tree.setNode n (.fifo (some id)) })
  k.openPipe id flags

/-- The flags an open acts on: the valid bits only, and with `O_PATH` only the few bits it
keeps. -/
def effectiveFlags (flags : OpenFlags) : OpenFlags :=
  let f := flags.keep OpenFlags.valid
  if f.has OpenFlags.pathOnly then f.keep OpenFlags.pathKept else f

/-- The open file of `target` opened with `flags`. -/
def openedFile (target : Target) (flags : OpenFlags) : OpenFile :=
  { target := target, readable := flags.reads, writable := flags.writes,
    nonblocking := flags.has OpenFlags.nonblocking, appending := flags.has OpenFlags.append,
    direct := flags.has OpenFlags.direct }

/-- Installs an open file that must support direct transfers when `O_DIRECT` is asked for:
only regular files do, any other open is undone and fails with `EINVAL`. -/
def finishOpen (flags : OpenFlags) (direct : Bool) :
    Except Errno Nat × State → Except Errno Nat × State
  | (.ok fd, k) =>
    if flags.has OpenFlags.direct && !direct then (.error .einval, k.unlink fd) else (.ok fd, k)
  | (.error e, k) => (.error e, k)

/-- Opens inode `n`, which a lookup found, as `may_open` and `vfs_open` do: a directory
cannot be opened for writing, the permission bits must grant the access asked for, a socket
cannot be opened, and truncation applies to regular files only. `created` skips the checks
for a file this open made. -/
def openInode (k : State) (n : Nat) (flags : OpenFlags) (created : Bool) :
    Except Errno Nat × State :=
  match k.tree.inode? n with
  | none => (.error .enoent, k)
  | some ino =>
    let access : Access := { read := flags.asksRead, write := flags.asksWrite }
    let granted := if created then .ok () else k.tree.permission n access
    if ino.isDirectory && flags.asksWrite then (.error .eisdir, k)
    else if let .error e := granted then (.error e, k)
    else match ino.node with
      | .socket _ => (.error .enxio, k)
      | .fifo _ => finishOpen flags false (k.openFifo n flags)
      | .regular _ =>
        let k := if flags.has OpenFlags.truncate && !created then
            k.setTree (k.tree.setNode n (.regular [])) else k
        let (fd, k) := k.install (openedFile (.inode n) flags)
        finishOpen flags true (.ok fd, k)
      | _ =>
        let (fd, k) := k.install (openedFile (.inode n) flags)
        finishOpen flags false (.ok fd, k)

/-- Opens an existing object: an inode as `openInode` does, a pipe reached through the
descriptor directory as its FIFO would be, a standard stream anew; a socket cannot be
opened. -/
def openTarget (k : State) (target : Target) (flags : OpenFlags) : Except Errno Nat × State :=
  match target with
  | .inode n => k.openInode n flags false
  | .pipe id => finishOpen flags false (k.openPipe id flags)
  | .socket _ => (.error .enxio, k)
  | .console =>
    let (fd, k) := k.install (openedFile .console flags)
    finishOpen flags false (.ok fd, k)

/-- Installs an open file that only marks `target`, as an `O_PATH` open makes. -/
def mark (k : State) (target : Target) : Except Errno Nat × State :=
  let (fd, k) := k.install { target := target, readable := false, writable := false,
                             pathOnly := true }
  (.ok fd, k)

/-- An `O_PATH` open: the path must exist (and be a directory when asked), no permission is
checked, and the open file marks the place only. A last link is followed unless
`O_NOFOLLOW` is given, and then the link itself is the place. -/
def openPlace (k : State) (path : String) (flags : OpenFlags) : Except Errno Nat × State :=
  let follow := !flags.has OpenFlags.noFollow
  let landed := do
    let (dir, last) ← k.tree.walk k.links path
    let landing ← k.tree.land k.links (Tree.walkFuel path) dir last follow
    pure (last, landing)
  match landed with
  | .error e => (.error e, k)
  | .ok (_, .missing ..) => (.error .enoent, k)
  | .ok (_, .link (some n)) =>
    if flags.has OpenFlags.directory then (.error .enotdir, k) else k.mark (.inode n)
  | .ok (_, .link none) =>
    -- a descriptor's own link has no inode of its own here: it gets one when marked
    if flags.has OpenFlags.directory then (.error .enotdir, k)
    else
      let (n, t) := k.tree.addInode ⟨.symlink "", 0o700, .process, false⟩
      (k.setTree t).mark (.inode n)
  | .ok (last, .found x) =>
    if (flags.has OpenFlags.directory || last.slash) && !k.tree.isDirectoryTarget x then
      (.error .enotdir, k)
    else k.mark x

/-- An `O_TMPFILE` open: the path names a directory the process may write, on a filesystem
that has unnamed files, and the open file is a new regular file that no name reaches. -/
def openUnnamed (k : State) (path : String) (flags : OpenFlags) (mode : Nat) :
    Except Errno Nat × State :=
  match k.tree.resolve k.links path with
  | .error e => (.error e, k)
  | .ok (.inode dir) =>
    if !k.tree.isDirectory dir then (.error .enotdir, k)
    else match k.tree.permission dir { write := true, exec := true } with
      | .error e => (.error e, k)
      | .ok () =>
        if k.tree.filesystem dir == .process then (.error .eopnotsupp, k)
        else
          let (n, t) := k.tree.addInode
            ⟨.regular [], Tree.newPerm mode, k.tree.filesystem dir, false⟩
          let (fd, k) := (k.setTree t).install (openedFile (.inode n) flags)
          (.ok fd, k)
  | .ok _ => (.error .enotdir, k)

/-- An open with `O_CREAT`: a name that exists is opened (unless `O_EXCL`, which also keeps
a last link from being followed), a missing one is made in a directory the process may
write; the process filesystem has no such name to make. A trailing slash, `.`, `..` or the
root name a directory, which cannot be created as a file. -/
def openCreating (k : State) (path : String) (dir : Nat) (last : Last) (flags : OpenFlags)
    (mode : Nat) : Except Errno Nat × State :=
  let exclusive := flags.has OpenFlags.exclusive
  match last with
  | .name _ slash =>
    if slash then (.error .eisdir, k)
    else
      let follow := !exclusive && !flags.has OpenFlags.noFollow
      match k.tree.land k.links (Tree.walkFuel path) dir last follow with
      | .error e => (.error e, k)
      | .ok (.found x) =>
        if exclusive then (.error .eexist, k)
        else if k.tree.isDirectoryTarget x then (.error .eisdir, k)
        else k.openTarget x flags
      | .ok (.link _) => (.error (if exclusive then .eexist else .eloop), k)
      | .ok (.missing d name) =>
        if k.tree.filesystem d == .process then (.error .enoent, k)
        else match k.tree.permission d { write := true, exec := true } with
          | .error e => (.error e, k)
          | .ok () =>
            let (n, t) := k.tree.link d name (.regular []) mode
            (k.setTree t).openInode n flags true
  | _ => (.error (if exclusive then .eexist else .eisdir), k)

/-- `open(2)` of a path with `flags` and, for a file it creates, the permission bits of
`mode`. The flag combinations that cannot work are refused first: `O_CREAT` with
`O_DIRECTORY`, and `O_TMPFILE` without write access. A last link is followed unless
`O_NOFOLLOW` is given; then it cannot be opened (`ELOOP`), or is no directory when one is
asked for. -/
def openPath (k : State) (path : String) (flags : OpenFlags) (mode : Nat) :
    Except Errno Nat × State :=
  let f := effectiveFlags flags
  if f.has OpenFlags.create && f.has OpenFlags.directory then (.error .einval, k)
  else if f.has OpenFlags.tmpfileBit && (!f.has OpenFlags.directory || f.mode == 0) then
    (.error .einval, k)
  else if f.has OpenFlags.pathOnly then k.openPlace path f
  else if f.has OpenFlags.tmpfileBit then k.openUnnamed path f mode
  else match k.tree.walk k.links path with
    | .error e => (.error e, k)
    | .ok (dir, last) =>
      if f.has OpenFlags.create then k.openCreating path dir last f mode
      else
        let wantsDir := f.has OpenFlags.directory || last.slash
        match k.tree.land k.links (Tree.walkFuel path) dir last (!f.has OpenFlags.noFollow) with
        | .error e => (.error e, k)
        | .ok (.missing ..) => (.error .enoent, k)
        | .ok (.link _) => (.error (if wantsDir then .enotdir else .eloop), k)
        | .ok (.found x) =>
          if wantsDir && !k.tree.isDirectoryTarget x then (.error .enotdir, k)
          else k.openTarget x f

/-- Makes a new node under the last component of `path` the way `mknod(2)` does: `.` and
`..` and a name that exists, a link included, are taken (`EEXIST`), a missing name with a
trailing slash or on the process filesystem is `ENOENT`, and the directory must be
writable. -/
def makeNode (k : State) (path : String) (node : Node) (mode : Nat) : Except Errno Nat × State :=
  match k.tree.walk k.links path with
  | .error e => (.error e, k)
  | .ok (dir, .name name slash) =>
    match k.tree.child? k.links dir name with
    | .error e => (.error e, k)
    | .ok (some _) => (.error .eexist, k)
    | .ok none =>
      if slash || k.tree.filesystem dir == .process then (.error .enoent, k)
      else match k.tree.permission dir { write := true, exec := true } with
        | .error e => (.error e, k)
        | .ok () =>
          let (n, t) := k.tree.link dir name node mode
          (.ok n, k.setTree t)
  | .ok _ => (.error .eexist, k)

/-- `mkfifo(3)` with the bits of `mode`, which the call carries in 16 bits. A mode whose type
bits name anything but a FIFO is refused before the path is looked at. -/
def mkfifo (k : State) (path : String) (mode : Nat) : Except Errno Unit × State :=
  let m := mode % 65536
  if (m ||| 0o10000) &&& 0o170000 != 0o10000 then (.error .einval, k)
  else match k.makeNode path (.fifo none) m with
    | (.ok _, k) => (.ok (), k)
    | (.error e, k) => (.error e, k)

/-- `fpathconf(_PC_PIPE_BUF)`: the size of an atomic pipe write, the same for every
non-negative number. -/
def pipeBuf (fd : Int) : Except Errno Nat :=
  if fd < 0 then .error .ebadf else .ok PipeRing.pageSize

/-- Whether `select(2)` reports a number readable. A read end is readable when its pipe
holds bytes or has lost its writers; a write end when its pipe has lost its readers. A
connected socket is readable when it holds bytes, has lost its peer or has an error; a
listening one when a connection waits. An `O_PATH` number is never ready. -/
def readable (k : State) (fd : Int) : Except Errno Bool :=
  match k.openFile? fd with
  | none => .error .ebadf
  | some (_, f) =>
    if f.pathOnly then .ok false
    else match f.target with
      | .pipe id =>
        match k.pipes[id]? with
        | none => .ok false
        | some p =>
          let hungUp := p.writers == 0 && f.hupMark != p.writerOpenings
          .ok ((f.readable && (!p.ring.isEmpty || hungUp)) || (f.writable && p.readers == 0))
      | .socket id =>
        match k.sockets[id]? with
        | some (.listening pending) => .ok !pending.isEmpty
        | some (.connected s) => .ok (!s.inbox.isEmpty || s.shutdown || s.error.isSome)
        | _ => .ok true
      | _ => .ok true

end State

end Kernel
end Descriptors
