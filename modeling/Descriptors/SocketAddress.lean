import Descriptors.Bytes
import Descriptors.Error
/-! Unix socket addresses. The path field holds 108 bytes and keeps one for the closing NUL,
so a path is accepted when it is non-empty and shorter than 108 bytes; the kernel reads the
field back up to its first NUL byte. -/
namespace Descriptors

/-- The path field of a Unix socket address. -/
structure SocketAddress where
  field : List UInt8
  deriving Repr, DecidableEq

namespace SocketAddress

/-- The size of the path field. -/
def fieldSize : Nat := 108

/-- The address of a path, zero-padded; refused when the path is empty or leaves no room
for the closing NUL. -/
def ofPath (p : String) : Except IoError SocketAddress :=
  let bytes := Bytes.ofText p
  if bytes.isEmpty || fieldSize ≤ bytes.length then .error IoError.socketPathRejected
  else .ok ⟨bytes ++ List.replicate (fieldSize - bytes.length) 0⟩

/-- The bytes the kernel takes as the path: the field up to its first NUL. -/
def decoded (a : SocketAddress) : List UInt8 :=
  a.field.takeWhile (· != 0)

/-- Whether the kernel reads the address as a name in the abstract namespace. -/
def isAbstract (a : SocketAddress) : Bool :=
  a.field.head? == some 0

end SocketAddress

end Descriptors
