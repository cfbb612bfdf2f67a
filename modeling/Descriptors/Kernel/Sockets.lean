import Descriptors.Kernel.Calls
import Descriptors.Bytes
/-! Unix stream sockets. A socket is bound to a new node of the file tree, or to a name in
the abstract namespace when its address starts with a NUL byte, then listens; a connection
made to a listening socket waits in its queue until it is accepted. -/
namespace Descriptors
namespace Kernel

/-- What one `accept(2)` call did. -/
inductive AcceptReply where
  | accepted (fd : Nat)
  | failed (code : Errno)
  | wouldBlock
  deriving Repr, DecidableEq

namespace State

/-- `socket(AF_UNIX, SOCK_STREAM)`. -/
def socket (k : State) : Nat × State :=
  let id := k.sockets.size
  let k := { k with sockets := k.sockets.push .unbound }
  k.install { target := .socket id, readable := true, writable := true }

/-- The socket a number refers to. -/
def socketOf (k : State) (fd : Int) : Except Errno Nat :=
  match k.file? fd with
  | none => .error .ebadf
  | some f =>
    match f.target with
    | .socket id => if f.pathOnly then .error .ebadf else .ok id
    | _ => .error .enotsock

/-- The path the kernel reads from an address: its bytes up to the first NUL. -/
def addressPath (path : String) : String :=
  String.ofList (path.toList.takeWhile fun c => c != '\x00')

/-- The abstract name an address field holds: the field without its trailing NUL bytes, so
names that differ only in trailing NULs are the same name. -/
def abstractKey (path : String) : List UInt8 :=
  ((Bytes.ofText path).reverse.dropWhile (· == 0)).reverse

/-- `bind(2)` of a socket to a path, or to an abstract name when the path starts with NUL.
A name that is taken, in either namespace, is `EADDRINUSE`. -/
def bind (k : State) (fd : Int) (path : String) : Except Errno Unit × State :=
  match k.socketOf fd with
  | .error e => (.error e, k)
  | .ok id =>
    if k.sockets[id]? != some .unbound then (.error .einval, k)
    else if path.startsWith "\x00" then
      let key := abstractKey path
      if (k.abstractNames.find? (·.1 == key)).isSome then (.error .eaddrinuse, k)
      else
        (.ok (), { k.setSocket id .bound with abstractNames := (key, id) :: k.abstractNames })
    else
      match k.makeNode (addressPath path) (.socket id) 0o777 with
      | (.error .eexist, k) => (.error .eaddrinuse, k)
      | (.error e, k) => (.error e, k)
      | (.ok _, k) => (.ok (), k.setSocket id .bound)

/-- `listen(2)`. -/
def listen (k : State) (fd : Int) : Except Errno Unit × State :=
  match k.socketOf fd with
  | .error e => (.error e, k)
  | .ok id =>
    match k.sockets[id]? with
    | some .bound => (.ok (), k.setSocket id (.listening []))
    | some (.listening _) => (.ok (), k)
    | _ => (.error .einval, k)

/-- `accept(2)`: the oldest pending connection gets the lowest free number. -/
def accept (k : State) (fd : Int) : AcceptReply × State :=
  match k.socketOf fd with
  | .error e => (.failed e, k)
  | .ok id =>
    match k.sockets[id]?, k.file? fd with
    | some (.listening (e :: rest)), _ =>
      let k := k.setSocket id (.listening rest)
      let (n, k) := k.install { target := .socket e, readable := true, writable := true }
      (.accepted n, k)
    | some (.listening []), some f =>
      if f.nonblocking then (.failed .eagain, k) else (.wouldBlock, k)
    | _, _ => (.failed .einval, k)

/-- The socket listening at a path: the node must exist, be writable, and be a socket
that listens. -/
def listener? (k : State) (path : String) : Except Errno Nat := do
  let n ← match ← k.tree.resolve k.links (addressPath path) with
    | .inode n => pure n
    | _ => throw .econnrefused
  k.tree.permission n { write := true }
  match k.tree.node? n with
  | some (.socket id) =>
    match k.sockets[id]? with
    | some (.listening _) => pure id
    | _ => throw .econnrefused
  | _ => throw .econnrefused

/-- `connect(2)` of an unconnected socket to a listening one: the server's end of the new
connection joins the listener's queue. -/
def connect (k : State) (fd : Int) (path : String) : Except Errno Unit × State :=
  match k.socketOf fd with
  | .error e => (.error e, k)
  | .ok client =>
    if path.isEmpty then (.error .einval, k)
    else match k.listener? path with
    | .error e => (.error e, k)
    | .ok lid =>
      match k.sockets[lid]? with
      | some (.listening pending) =>
        let server := k.sockets.size
        let k := { k with sockets := k.sockets.push (.connected { peer := client }) }
        let k := k.setSocket client (.connected { peer := server })
        (.ok (), k.setSocket lid (.listening (pending ++ [server])))
      | _ => (.error .econnrefused, k)

end State

end Kernel
end Descriptors
