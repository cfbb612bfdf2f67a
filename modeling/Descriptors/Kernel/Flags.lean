/-! Open flags as the bit values of Linux on x86-64. A flag set is a number; the named flags
are the ones the protocol accepts by name, and the access mode is its two low bits. -/
namespace Descriptors
namespace Kernel

/-- A set of open flags, as the number the kernel receives. -/
structure OpenFlags where
  bits : Nat
  deriving Repr, DecidableEq, Inhabited

namespace OpenFlags

def readOnly : Nat := 0
def writeOnly : Nat := 1
def readWrite : Nat := 2
def create : Nat := 0o100
def exclusive : Nat := 0o200
def truncate : Nat := 0o1000
def append : Nat := 0o2000
def nonblocking : Nat := 0o4000
def direct : Nat := 0o40000
def directory : Nat := 0o200000
def noFollow : Nat := 0o400000
def noAccessTime : Nat := 0o1000000
def closeOnExec : Nat := 0o2000000
def pathOnly : Nat := 0o10000000
def tmpfileBit : Nat := 0o20000000
/-- `O_EXCL` on a pipe asks for a notification pipe. -/
def notification : Nat := exclusive

/-- The bits `open(2)` looks at; it drops the others. -/
def valid : Nat := 0o37777703

/-- The bits an `O_PATH` open keeps. -/
def pathKept : Nat := directory ||| noFollow ||| closeOnExec ||| pathOnly

/-- The value of a flag given by its conventional name. -/
def named? : String → Option Nat
  | "O_RDONLY" => some readOnly
  | "O_WRONLY" => some writeOnly
  | "O_RDWR" => some readWrite
  | "O_CREAT" => some create
  | "O_EXCL" => some exclusive
  | "O_TRUNC" => some truncate
  | "O_APPEND" => some append
  | "O_NONBLOCK" => some nonblocking
  | "O_DIRECT" => some direct
  | "O_DIRECTORY" => some directory
  | "O_NOFOLLOW" => some noFollow
  | "O_CLOEXEC" => some closeOnExec
  | _ => none

/-- The flags a signed 32-bit argument carries: its two's complement bits. -/
def ofInt (n : Int) : OpenFlags := ⟨(n % Int.pow 2 32).toNat⟩

/-- Whether every bit of `flag` is set. -/
def has (f : OpenFlags) (flag : Nat) : Bool := f.bits &&& flag == flag

/-- The flags with only the bits of `mask` kept. -/
def keep (f : OpenFlags) (mask : Nat) : OpenFlags := ⟨f.bits &&& mask⟩

/-- The access mode, the two low bits. -/
def mode (f : OpenFlags) : Nat := f.bits % 4

/-- The open file may be read: modes 0 and 2. Mode 3 gives neither reading nor writing. -/
def reads (f : OpenFlags) : Bool := f.mode == 0 || f.mode == 2

/-- The open file may be written: modes 1 and 2. -/
def writes (f : OpenFlags) : Bool := f.mode == 1 || f.mode == 2

/-- The access the permission check asks for: reading in modes 0, 2 and 3, writing in modes
1, 2 and 3, and writing whenever the file is truncated. -/
def asksRead (f : OpenFlags) : Bool := f.mode != 1

def asksWrite (f : OpenFlags) : Bool := f.mode != 0 || f.has truncate

/-- Pipes take close-on-exec, non-blocking, packet mode and the notification bit. -/
def pipeFlagsKnown (f : OpenFlags) : Bool :=
  f.bits &&& (closeOnExec ||| nonblocking ||| direct ||| notification) == f.bits

end OpenFlags

end Kernel
end Descriptors
