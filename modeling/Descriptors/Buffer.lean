import Descriptors.Error
/-! Fixed-length byte buffers. A buffer's length never changes; `fill` overwrites a prefix,
`compare` checks a prefix, and indexing is defined only inside the buffer. -/
namespace Descriptors

/-- A byte buffer whose length is fixed when it is made. -/
structure Buffer where
  bytes : List UInt8
  deriving Repr, DecidableEq, Inhabited

namespace Buffer

/-- A buffer of `size` zero bytes. -/
def zeros (size : Nat) : Buffer := ⟨List.replicate size 0⟩

/-- A buffer holding a copy of the given bytes. -/
def ofBytes (bs : List UInt8) : Buffer := ⟨bs⟩

def len (b : Buffer) : Nat := b.bytes.length

def isEmpty (b : Buffer) : Bool := b.bytes.isEmpty

/-- Copies `src` over the first `src.length` bytes; refused when `src` is longer than the
buffer. An empty source always fits. -/
def fill (b : Buffer) (src : List UInt8) : Except Error (Nat × Buffer) :=
  if src.length ≤ b.len then .ok (src.length, ⟨src ++ b.bytes.drop src.length⟩)
  else .error (.bufferTooSmall src.length b.len)

/-- Copies the first `n` bytes of `other`; refused first when `other` is shorter than `n`,
then as `fill` refuses. -/
def fillFrom (b : Buffer) (other : Buffer) (n : Nat) : Except Error (Nat × Buffer) :=
  if n ≤ other.len then b.fill (other.bytes.take n)
  else .error (.bufferTooSmall n other.len)

/-- Whether the first `n` bytes of the buffer and of `other` agree; false when either is
shorter than `n`. -/
def compare (b : Buffer) (other : List UInt8) (n : Nat) : Bool :=
  n ≤ b.len && n ≤ other.length && b.bytes.take n == other.take n

/-- The byte at `i`, if `i` is inside the buffer. -/
def get? (b : Buffer) (i : Nat) : Option UInt8 := b.bytes[i]?

/-- The buffer with byte `i` replaced, if `i` is inside the buffer. -/
def set? (b : Buffer) (i : Nat) (v : UInt8) : Option Buffer :=
  if i < b.len then some ⟨b.bytes.set i v⟩ else none

@[simp] theorem len_zeros (n : Nat) : (zeros n).len = n := by
  simp [zeros, len]

@[simp] theorem len_ofBytes (bs : List UInt8) : (ofBytes bs).len = bs.length := rfl

end Buffer

end Descriptors
