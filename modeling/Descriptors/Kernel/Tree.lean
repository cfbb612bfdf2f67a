import Descriptors.Error
/-! The file tree a process sees. Inodes are numbered; a directory lists its names and knows
its parent, so `..` of the root is the root again. The tree holds the root; `/dev` with the
null, zero, full and random devices and the links to the standard streams; `/etc`; `/proc`
with the reports of the system, the directory of the first process and the process's own
directory, its thread and its reports; and `/tmp` with the private directory of the process,
which holds the scratch directory it works in. The process owns every inode, and has no privilege
over permission bits: the owner's bits decide every access, but for the two directories of the
process filesystem that decide for themselves.

A path is walked as Linux walks it: every directory on the way must be searchable, a missing
name is `ENOENT`, a name that is neither a directory nor a link to one in the middle of a path
is `ENOTDIR`, a name of more than 255 bytes is `ENAMETOOLONG` on the filesystems that keep
names (the process filesystem has no such limit: the name is merely missing), and so is a
path of 4096 bytes or more. A symbolic link in the middle of a path is followed; the last component is handled
by each call in its own way. The descriptor directory of the process (`/proc/self/fd`) holds
one link per open number, which leads to whatever that number refers to, even an object no
path names, such as a pipe; the descriptor information directory (`/proc/self/fdinfo`) holds
one report per open number. -/
namespace Descriptors
namespace Kernel

/-- What an open file refers to. -/
inductive Target where
  | pipe (id : Nat)
  /-- A regular file, a directory, a device or any other inode of the tree. -/
  | inode (n : Nat)
  | socket (id : Nat)
  /-- One of the three standard streams. -/
  | console
  deriving Repr, DecidableEq

/-- The character devices of the tree. The random devices give bytes no one can foresee;
here they read as zeros. -/
inductive Device where
  | null | zero | full | random
  deriving Repr, DecidableEq

/-- The filesystem an inode lives on. The disk filesystem holds the root, `/etc` and `/tmp`.
The memory filesystem of `/dev` keeps files in memory only, so it serves a direct transfer as
any other, with no alignment asked of it. The process filesystem of `/proc` makes its entries
up as they are looked up: a name it lacks is missing even to a call that would create it, and
it has no unnamed files. -/
inductive Filesystem where
  | disk
  | memory
  | process
  deriving Repr, DecidableEq

/-- What an inode is. A directory knows its parent and its names, oldest first. A FIFO
holds the pipe behind it while one of its ends is open; a socket inode, the socket bound to
it. A report is a text the process filesystem writes afresh on every read, such as a
process's status; its text is not kept here, so it reads as empty. A symbolic link holds the
path it stands for; the links of the process directory stand for the working directory and
the root. The descriptor directory lists the open numbers; the descriptor information
directory lists them too, each standing for the report inode it holds. -/
inductive Node where
  | directory (parent : Nat) (names : List (String × Nat))
  | regular (data : List UInt8)
  | fifo (pipe : Option Nat)
  | socket (sock : Nat)
  | device (d : Device)
  | report
  | symlink (target : String)
  | workingDirectory
  | rootDirectory
  | descriptors (parent : Nat)
  | descriptorInfo (parent : Nat) (report : Nat)
  deriving Repr

/-- An inode: what it is, its twelve permission bits, its filesystem, and whether it refuses
to be written into whatever its bits say, as a process's own directory under `/proc` does. -/
structure Inode where
  node : Node
  perm : Nat
  fs : Filesystem
  sealed : Bool := false
  deriving Repr

/-- The access a permission check asks for. -/
structure Access where
  read : Bool := false
  write : Bool := false
  exec : Bool := false
  deriving Repr

namespace Inode

/-- The three bits that apply to the process: the owner's. -/
def bits (i : Inode) : Nat := i.perm / 64 % 8

/-- Whether the bits grant every access asked for. -/
def permits (i : Inode) (a : Access) : Bool :=
  (!a.read || i.bits / 4 % 2 == 1) && (!a.write || i.bits / 2 % 2 == 1)
    && (!a.exec || i.bits % 2 == 1)

def isDirectory (i : Inode) : Bool :=
  match i.node with
  | .directory .. | .descriptors _ | .descriptorInfo .. => true
  | _ => false

/-- Whether following the inode leads elsewhere. -/
def isLink (i : Inode) : Bool :=
  match i.node with
  | .symlink _ | .workingDirectory | .rootDirectory => true
  | _ => false

end Inode

/-- The last component of a path, as a call sees it: the root itself (a path of slashes
only), `.`, `..`, or a name, with whether the path ends in a slash. -/
inductive Last where
  | root
  | dot
  | dotdot
  | name (n : String) (slash : Bool)
  deriving Repr, DecidableEq

/-- Whether a last component ends in a slash, which asks for a directory. -/
def Last.slash : Last → Bool
  | .name _ s => s
  | _ => false

/-- What a name in a directory stands for: an inode of the tree, or, in the descriptor
directory, what an open number refers to. -/
inductive Entry where
  | inode (n : Nat)
  | descriptor (t : Target)
  deriving Repr, DecidableEq

/-- Where the last component of a path leads: to an existing object, to a link that is not
followed (the inode of the link when it has one), or to a name that is missing in its
directory. -/
inductive Landing where
  | found (t : Target)
  | link (n : Option Nat)
  | missing (dir : Nat) (name : String)
  deriving Repr, DecidableEq

/-- The file tree and the working directory. -/
structure Tree where
  inodes : Array Inode
  cwd : Nat
  deriving Repr

namespace Tree

def pathMax : Nat := 4096

def nameMax : Nat := 255

/-- The bits the process clears from the permissions of what it makes. -/
def umask : Nat := 0o022

/-- The name of the process's own directory under `/proc`. -/
def processName : String := "4242"

/-- What the log file holds when the session starts: the diagnostics written before it. Their
text carries times, so only its being there is kept. -/
def logStart : List UInt8 := "log\n".toUTF8.toList

/-- The tree every run starts with; the working directory is the empty scratch directory.
Inode 8 is the log file the process opened before the session started; no name reaches it.
The directories of processes and threads under `/proc` are sealed. -/
def initial : Tree where
  inodes := #[
    -- 0: the root, 1: /dev, 2: /tmp
    ⟨.directory 0 [("dev", 1), ("etc", 19), ("proc", 9), ("tmp", 2)], 0o755, .disk, false⟩,
    ⟨.directory 0 [("fd", 15), ("full", 3), ("null", 4), ("random", 20), ("stderr", 18),
      ("stdin", 16), ("stdout", 17), ("urandom", 21), ("zero", 5)], 0o755, .memory, false⟩,
    ⟨.directory 0 [("driver", 6)], 0o1777, .disk, false⟩,
    -- 3 to 5: the devices
    ⟨.device .full, 0o666, .memory, false⟩,
    ⟨.device .null, 0o666, .memory, false⟩,
    ⟨.device .zero, 0o666, .memory, false⟩,
    -- 6, 7: the private and scratch directories; 8: the log file
    ⟨.directory 2 [("session", 7)], 0o700, .disk, false⟩,
    ⟨.directory 6 [], 0o700, .disk, false⟩,
    ⟨.regular logStart, 0o644, .disk, false⟩,
    -- 9: /proc, 10: /proc/self, 11: the process's directory
    ⟨.directory 0 [("1", 23), ("cpuinfo", 38), ("loadavg", 39), ("meminfo", 40),
      ("mounts", 41), ("self", 10), ("stat", 42), ("thread-self", 43), ("uptime", 44),
      ("version", 45), (processName, 11)], 0o555, .process, false⟩,
    ⟨.symlink processName, 0o777, .process, false⟩,
    ⟨.directory 9 [("cwd", 12), ("fd", 13), ("fdinfo", 25), ("io", 27), ("limits", 28),
      ("maps", 29), ("mountinfo", 30), ("mounts", 31), ("root", 14), ("stat", 32),
      ("statm", 33), ("status", 22), ("task", 34)], 0o555, .process, true⟩,
    -- 12 to 14: its working directory, descriptors and root
    ⟨.workingDirectory, 0o777, .process, false⟩,
    ⟨.descriptors 11, 0o500, .process, false⟩,
    ⟨.rootDirectory, 0o777, .process, false⟩,
    -- 15 to 18: the links of /dev
    ⟨.symlink "/proc/self/fd", 0o777, .memory, false⟩,
    ⟨.symlink "/proc/self/fd/0", 0o777, .memory, false⟩,
    ⟨.symlink "/proc/self/fd/1", 0o777, .memory, false⟩,
    ⟨.symlink "/proc/self/fd/2", 0o777, .memory, false⟩,
    -- 19: /etc, 20, 21: the random devices, 22: the process's status
    ⟨.directory 0 [], 0o755, .disk, false⟩,
    ⟨.device .random, 0o666, .memory, false⟩,
    ⟨.device .random, 0o666, .memory, false⟩,
    ⟨.report, 0o444, .process, false⟩,
    -- 23, 24: the first process and its status
    ⟨.directory 9 [("status", 24)], 0o555, .process, true⟩,
    ⟨.report, 0o444, .process, false⟩,
    -- 25, 26: the descriptor information directory and its reports
    ⟨.descriptorInfo 11 26, 0o555, .process, false⟩,
    ⟨.report, 0o444, .process, false⟩,
    -- 27 to 33: the process's reports
    ⟨.report, 0o400, .process, false⟩,
    ⟨.report, 0o444, .process, false⟩,
    ⟨.report, 0o444, .process, false⟩,
    ⟨.report, 0o444, .process, false⟩,
    ⟨.report, 0o444, .process, false⟩,
    ⟨.report, 0o444, .process, false⟩,
    ⟨.report, 0o444, .process, false⟩,
    -- 34 to 37: its threads, its one thread and that thread's reports
    ⟨.directory 11 [(processName, 35)], 0o555, .process, false⟩,
    ⟨.directory 34 [("stat", 36), ("status", 37)], 0o555, .process, true⟩,
    ⟨.report, 0o444, .process, false⟩,
    ⟨.report, 0o444, .process, false⟩,
    -- 38 to 45: the reports and links of /proc
    ⟨.report, 0o444, .process, false⟩,
    ⟨.report, 0o444, .process, false⟩,
    ⟨.report, 0o444, .process, false⟩,
    ⟨.symlink "self/mounts", 0o777, .process, false⟩,
    ⟨.report, 0o444, .process, false⟩,
    ⟨.symlink (processName ++ "/task/" ++ processName), 0o777, .process, false⟩,
    ⟨.report, 0o444, .process, false⟩,
    ⟨.report, 0o444, .process, false⟩]
  cwd := 7

def root : Nat := 0

/-- The inode of the log file the process holds from the start. -/
def logFile : Nat := 8

def inode? (t : Tree) (n : Nat) : Option Inode := t.inodes[n]?

def node? (t : Tree) (n : Nat) : Option Node := (t.inode? n).map (·.node)

/-- Replaces what inode `n` is. -/
def setNode (t : Tree) (n : Nat) (node : Node) : Tree :=
  { t with inodes := t.inodes.modify n fun i => { i with node := node } }

/-- Whether inode `n` is a directory. -/
def isDirectory (t : Tree) (n : Nat) : Bool := ((t.inode? n).map Inode.isDirectory).getD false

/-- Whether an object is a directory. -/
def isDirectoryTarget (t : Tree) : Target → Bool
  | .inode n => t.isDirectory n
  | _ => false

/-- Whether inode `n` grants the access. -/
def permits (t : Tree) (n : Nat) (a : Access) : Bool :=
  ((t.inode? n).map (·.permits a)).getD false

/-- Whether inode `n` grants the access, and why not: a sealed inode refuses writing with
`EPERM`, other refusals of the bits are `EACCES`. The descriptor directory grants its own
process every access. -/
def permission (t : Tree) (n : Nat) (a : Access) : Except Errno Unit :=
  match t.inode? n with
  | none => .error .enoent
  | some i =>
    match i.node with
    | .descriptors _ => .ok ()
    | _ =>
      if a.write && i.sealed then .error .eperm
      else if i.permits a then .ok () else .error .eacces

/-- The filesystem inode `n` lives on. -/
def filesystem (t : Tree) (n : Nat) : Filesystem := ((t.inode? n).map (·.fs)).getD .disk

/-- The parent of a directory; the root is its own parent. -/
def parent (t : Tree) (dir : Nat) : Nat :=
  match t.node? dir with
  | some (.directory p _) | some (.descriptors p) | some (.descriptorInfo p _) => p
  | _ => dir

/-- The names a directory lists, oldest first. -/
def names (t : Tree) (dir : Nat) : List (String × Nat) :=
  match t.node? dir with
  | some (.directory _ ns) => ns
  | _ => []

/-- The number a name of the descriptor directory spells: decimal digits without a leading
zero. -/
def descriptorNumber? (name : String) : Option Nat :=
  let cs := name.toList
  if cs.isEmpty || !cs.all Char.isDigit || (1 < cs.length && cs.head? == some '0') then none
  else some (cs.foldl (fun acc c => acc * 10 + (c.toNat - 48)) 0)

/-- What a name stands for in a directory; a name longer than 255 bytes cannot be looked up
at all outside the process filesystem. `links` tells what each open number refers to. -/
def child? (t : Tree) (links : Nat → Option Target) (dir : Nat) (name : String) :
    Except Errno (Option Entry) :=
  if nameMax < name.utf8ByteSize && t.filesystem dir != .process then .error .enametoolong
  else match t.node? dir with
    | some (.descriptors _) =>
      .ok ((descriptorNumber? name).bind links |>.map Entry.descriptor)
    | some (.descriptorInfo _ report) =>
      .ok ((descriptorNumber? name).bind links |>.map fun _ => Entry.inode report)
    | _ => .ok ((t.names dir).find? (·.1 == name) |>.map fun (_, n) => Entry.inode n)

/-- How a component ends a path. -/
def lastOf (c : String) (slash : Bool) : Last :=
  match c with
  | "." => .dot
  | ".." => .dotdot
  | _ => .name c slash

/-- The components of a path, empty ones dropped. -/
def components (path : String) : List String := (path.splitOn "/").filter (!·.isEmpty)

/-- Where the walk of a link's path starts: the root for an absolute path, else the
directory holding the link. -/
def startOf (dir : Nat) (path : String) : Nat :=
  if path.startsWith "/" then root else dir

/-- Walks the components `cs` from directory `dir` up to the last one: the directory that
holds it, and the component. Links met on the way are followed; `fuel` bounds the steps. -/
def walkFrom (t : Tree) (links : Nat → Option Target) :
    Nat → Nat → List String → Bool → Except Errno (Nat × Last)
  | 0, _, _, _ => .error .eloop
  | _ + 1, dir, [], _ => .ok (dir, .root)
  | _ + 1, dir, [c], slash =>
    if !t.permits dir { exec := true } then .error .eacces else .ok (dir, lastOf c slash)
  | fuel + 1, dir, c :: cs, slash => do
    if !t.permits dir { exec := true } then throw .eacces
    match c with
    | "." => walkFrom t links fuel dir cs slash
    | ".." => walkFrom t links fuel (t.parent dir) cs slash
    | _ =>
      match ← t.child? links dir c with
      | none => throw .enoent
      | some (.descriptor (.inode n)) =>
        if t.isDirectory n then walkFrom t links fuel n cs slash else throw .enotdir
      | some (.descriptor _) => throw .enotdir
      | some (.inode n) =>
        match t.node? n with
        | some (.symlink p) => walkFrom t links fuel (startOf dir p) (components p ++ cs) slash
        | some .workingDirectory => walkFrom t links fuel t.cwd cs slash
        | some .rootDirectory => walkFrom t links fuel root cs slash
        | _ => if t.isDirectory n then walkFrom t links fuel n cs slash else throw .enotdir

/-- The steps a walk of `path` may take: its components and a bounded number of links. -/
def walkFuel (path : String) : Nat := path.utf8ByteSize + 4096

/-- Walks a path up to its last component: the directory that holds it, and the component.
The directory must be searchable for the last component to be looked up in it. -/
def walk (t : Tree) (links : Nat → Option Target) (path : String) : Except Errno (Nat × Last) :=
  if path.isEmpty then .error .enoent
  else if pathMax ≤ path.utf8ByteSize then .error .enametoolong
  else
    let start := if path.startsWith "/" then root else t.cwd
    t.walkFrom links (walkFuel path) start (components path) (path.endsWith "/")

/-- Where the last component leads from `dir`. A link is followed when `follow` holds or a
slash comes after it; following a symbolic link walks its path from the link's directory. -/
def land (t : Tree) (links : Nat → Option Target) :
    Nat → Nat → Last → Bool → Except Errno Landing
  | 0, _, _, _ => .error .eloop
  | _ + 1, dir, .root, _ | _ + 1, dir, .dot, _ => .ok (.found (.inode dir))
  | _ + 1, dir, .dotdot, _ => .ok (.found (.inode (t.parent dir)))
  | fuel + 1, dir, .name c slash, follow => do
    let follows := follow || slash
    match ← t.child? links dir c with
    | none => pure (.missing dir c)
    | some (.descriptor x) => pure (if follows then .found x else .link none)
    | some (.inode n) =>
      match t.node? n with
      | some (.symlink p) =>
        if !follows then pure (.link (some n))
        else
          let (d, last) ← t.walkFrom links fuel (startOf dir p) (components p)
            (slash || p.endsWith "/")
          land t links fuel d last true
      | some .workingDirectory => pure (if follows then .found (.inode t.cwd) else .link (some n))
      | some .rootDirectory => pure (if follows then .found (.inode root) else .link (some n))
      | _ => pure (.found (.inode n))

/-- What an existing path names, links followed. A trailing slash asks for a directory. -/
def resolve (t : Tree) (links : Nat → Option Target) (path : String) : Except Errno Target := do
  let (dir, last) ← t.walk links path
  match ← t.land links (walkFuel path) dir last true with
  | .found x => if last.slash && !t.isDirectoryTarget x then throw .enotdir else pure x
  | .link _ => throw .eloop
  | .missing .. => throw .enoent

/-- Whether inode `n` lives on a filesystem that keeps files in memory only. -/
def inMemory (t : Tree) (n : Nat) : Bool := t.filesystem n == .memory

/-- Adds an inode that no name reaches yet. -/
def addInode (t : Tree) (i : Inode) : Nat × Tree :=
  (t.inodes.size, { t with inodes := t.inodes.push i })

/-- The permission bits of a new inode made with `mode`: the umask is cleared. -/
def newPerm (mode : Nat) : Nat := mode % 0o10000 &&& (0o7777 ^^^ umask)

/-- Makes a new inode under `name` in `dir`, with the permission bits of `mode` less the
umask. -/
def link (t : Tree) (dir : Nat) (name : String) (node : Node) (mode : Nat) : Nat × Tree :=
  let (n, t) := t.addInode ⟨node, newPerm mode, t.filesystem dir, false⟩
  match t.node? dir with
  | some (.directory p ns) => (n, t.setNode dir (.directory p (ns ++ [(name, n)])))
  | _ => (n, t)

end Tree

end Kernel
end Descriptors
