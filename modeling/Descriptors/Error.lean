/-! Failures. An `Errno` is a kernel error code, an `IoError` is either such a code or a
kind with a fixed message (errors raised before the kernel is asked), and `Error` is the
library's own error: which check or call failed, and the I/O error behind it. Each text a
caller sees comes from one function here: `Errno.symbol`, `IoKind.name`, `Error.message`. -/
namespace Descriptors

/-- The kernel error codes this model can raise (Linux numbering). -/
inductive Errno where
  | eperm | enoent | eintr | eio | enxio | ebadf | eagain | enomem | eacces | eexist
  | enotdir | eisdir | einval | emfile | enospc | espipe | epipe | enametoolong | eloop
  | enopkg | enobufs | enotsock | eopnotsupp | eaddrinuse | enotconn | econnrefused
  | econnreset
  deriving Repr, DecidableEq, Inhabited

namespace Errno

/-- The code's number on Linux. -/
def code : Errno → Nat
  | eperm => 1 | enoent => 2 | eintr => 4 | eio => 5 | enxio => 6 | ebadf => 9
  | eagain => 11 | enomem => 12 | eacces => 13 | eexist => 17 | enotdir => 20
  | eisdir => 21 | einval => 22 | emfile => 24 | enospc => 28 | espipe => 29 | epipe => 32
  | enametoolong => 36 | eloop => 40 | enopkg => 65 | enobufs => 105 | enotsock => 88
  | eopnotsupp => 95 | eaddrinuse => 98 | enotconn => 107 | econnrefused => 111
  | econnreset => 104

/-- The symbolic name, for the codes the answers' table knows. -/
def name? : Errno → Option String
  | eperm => "EPERM" | enoent => "ENOENT" | eintr => "EINTR" | eio => "EIO"
  | enxio => "ENXIO" | ebadf => "EBADF" | eagain => "EAGAIN" | enomem => "ENOMEM"
  | eacces => "EACCES" | eexist => "EEXIST" | enotdir => "ENOTDIR" | eisdir => "EISDIR"
  | einval => "EINVAL" | emfile => "EMFILE" | enospc => "ENOSPC" | espipe => "ESPIPE"
  | epipe => "EPIPE" | enametoolong => "ENAMETOOLONG" | eloop => "ELOOP"
  | enopkg => none | enobufs => "ENOBUFS" | enotsock => "ENOTSOCK"
  | eopnotsupp => "EOPNOTSUPP" | eaddrinuse => "EADDRINUSE" | enotconn => "ENOTCONN"
  | econnrefused => "ECONNREFUSED" | econnreset => "ECONNRESET"

/-- How an answer names a code: its symbol, or `errno N` for a code the table lacks. -/
def symbol (e : Errno) : String := e.name?.getD s!"errno {e.code}"

end Errno

/-- Kinds of I/O errors that carry no kernel code. -/
inductive IoKind where
  | invalidInput | other | brokenPipe
  deriving Repr, DecidableEq

/-- The name a kind is reported under. -/
def IoKind.name : IoKind → String
  | .invalidInput => "InvalidInput"
  | .other => "Other"
  | .brokenPipe => "BrokenPipe"

/-- An I/O error: a kernel code, or a kind with its message. -/
inductive IoError where
  | os (code : Errno)
  | custom (kind : IoKind) (message : String)
  deriving Repr, DecidableEq

namespace IoError

/-- A path handed to the kernel must not hold a NUL byte. -/
def nulInPath : IoError := .custom .invalidInput "data provided contains a nul byte"

/-- A socket address holds a non-empty path of fewer than 108 bytes. -/
def socketPathRejected : IoError := .custom .invalidInput "socket path is empty or too long"

/-- Waiting without any watched descriptor can never end. -/
def nothingMonitored : IoError := .custom .invalidInput "no descriptor is monitored"

end IoError

/-- The system calls whose failure the library reports as `Error.os`. -/
inductive OsCall where
  | openFile | pipe | dup | dup2 | close | lseek | mkfifo | fpathconf | socket | bind | listen
  | accept | setGlobalDefault | localtime
  deriving Repr, DecidableEq

/-- The call's name as reported. -/
def OsCall.name : OsCall → String
  | .openFile => "open" | .pipe => "pipe" | .dup => "dup" | .dup2 => "dup2"
  | .close => "close" | .lseek => "lseek" | .mkfifo => "mkfifo" | .fpathconf => "fpathconf"
  | .socket => "socket" | .bind => "bind" | .listen => "listen" | .accept => "accept"
  | .setGlobalDefault => "set_global_default" | .localtime => "localtime"

/-- The two directions of a transfer. -/
inductive Direction where
  | read | write
  deriving Repr, DecidableEq

/-- The name of a direction. -/
def Direction.name : Direction → String
  | .read => "read"
  | .write => "write"

/-- The library's errors. -/
inductive Error where
  /-- A transfer of `requested` bytes over a buffer of `capacity` bytes, refused before any
  call because the buffer is empty or too short. -/
  | bufferTooSmall (requested capacity : Nat)
  /-- A blocking transfer failed after moving `transferred` bytes. -/
  | transfer (op : Direction) (fd : Int) (transferred : Nat) (source : IoError)
  | alreadyMonitored (fd : Int)
  | notMonitored (fd : Int)
  /-- Only numbers in `[0, 1024)` fit the readiness set. -/
  | outOfRange (fd : Int)
  | wait (source : IoError)
  | spawn (source : IoError)
  | os (call : OsCall) (source : IoError)
  deriving Repr, DecidableEq

namespace Error

/-- The variant's name, which answers use as the error's label. -/
def label : Error → String
  | bufferTooSmall .. => "BufferTooSmall"
  | transfer .. => "Transfer"
  | alreadyMonitored .. => "AlreadyMonitored"
  | notMonitored .. => "NotMonitored"
  | outOfRange .. => "OutOfRange"
  | wait .. => "Wait"
  | spawn .. => "Spawn"
  | os .. => "Os"

/-- The display text of each error. -/
def message : Error → String
  | bufferTooSmall requested capacity =>
    s!"buffer of {capacity} bytes cannot serve a {requested}-byte transfer"
  | transfer op fd transferred _ =>
    s!"{op.name} on descriptor {fd} failed after {transferred} bytes"
  | alreadyMonitored fd => s!"descriptor {fd} is already monitored"
  | notMonitored fd => s!"descriptor {fd} is not monitored"
  | outOfRange fd => s!"descriptor {fd} is outside the range select() can watch"
  | wait _ => "waiting for readiness failed"
  | spawn _ => "failed to spawn the descriptor worker"
  | os call _ => s!"{call.name} failed"

/-- The I/O error behind an error, for the variants that have one. -/
def ioError? : Error → Option IoError
  | transfer _ _ _ source | wait source | spawn source | os _ source => some source
  | _ => none

end Error

end Descriptors
