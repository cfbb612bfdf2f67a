/-! The buffer of a pipe: a ring of at most sixteen pages of 4096 bytes. A write first
appends its last partial page (its length modulo 4096) to the newest page, when the pipe
is not empty and that page has room, then fills fresh pages. A read takes bytes from the
oldest pages on. In packet mode every page is one packet: no write appends to it, and a
read returns at most one packet and discards what it leaves of it. -/
namespace Descriptors
namespace Kernel

/-- One page of a pipe. `offset` counts the bytes of the page already read. -/
structure Page where
  offset : Nat
  data : List UInt8
  packet : Bool
  deriving Repr, DecidableEq

/-- The pages of a pipe, oldest first. -/
structure PipeRing where
  pages : List Page
  deriving Repr, DecidableEq, Inhabited

namespace PipeRing

def pageSize : Nat := 4096

def slots : Nat := 16

def empty : PipeRing := ⟨[]⟩

/-- The number of unread bytes. -/
def size (r : PipeRing) : Nat := (r.pages.map fun p => p.data.length).foldr (· + ·) 0

def isEmpty (r : PipeRing) : Bool := r.pages.isEmpty

def isFull (r : PipeRing) : Bool := slots ≤ r.pages.length

/-- The unread bytes, in order. -/
def contents (r : PipeRing) : List UInt8 := (r.pages.map Page.data).flatten

/-- The room behind the newest page when it takes appends: the pipe is not empty and the
page is not a packet. -/
def room (r : PipeRing) : Option Nat :=
  match r.pages.getLast? with
  | some last => if last.packet then none else some (pageSize - (last.offset + last.data.length))
  | none => none

/-- Appends `bs` to the newest page. -/
def append (r : PipeRing) (bs : List UInt8) : PipeRing :=
  match r.pages.getLast? with
  | some last => ⟨r.pages.dropLast ++ [{ last with data := last.data ++ bs }]⟩
  | none => r

/-- Fresh pages for `bs`, at most `free` of them: the pages and what is left over. -/
def freshPages (packet : Bool) : Nat → List UInt8 → List Page × List UInt8
  | 0, bs => ([], bs)
  | _ + 1, [] => ([], [])
  | free + 1, bs =>
    let (more, rest) := freshPages packet free (bs.drop pageSize)
    (⟨0, bs.take pageSize, packet⟩ :: more, rest)

/-- Writes as much of `bs` as fits now: the count taken and the new ring. The partial last
page of the write (its length modulo the page size) goes behind the newest page first, when
it fits there. -/
def write (r : PipeRing) (bs : List UInt8) (packet : Bool) : Nat × PipeRing :=
  let merged := match r.room with
    | some (room + 1) =>
      let tail := bs.length % pageSize
      if tail ≠ 0 ∧ tail ≤ room + 1 then tail else 0
    | _ => 0
  let r := if merged = 0 then r else r.append (bs.take merged)
  let (pages, _) := freshPages packet (slots - r.pages.length) (bs.drop merged)
  (merged + (pages.map fun p => p.data.length).foldr (· + ·) 0, ⟨r.pages ++ pages⟩)

/-- Takes up to `want` bytes from the oldest pages: the bytes and the new ring. -/
def takeFrom : List Page → Nat → List UInt8 × List Page
  | [], _ => ([], [])
  | pages, 0 => ([], pages)
  | p :: ps, want + 1 =>
    let chars := min p.data.length (want + 1)
    let got := p.data.take chars
    if p.packet then (got, ps)
    else if chars = p.data.length then
      let (more, rest) := takeFrom ps (want + 1 - chars)
      (got ++ more, rest)
    else (got, { p with offset := p.offset + chars, data := p.data.drop chars } :: ps)

/-- Reads up to `want` bytes. -/
def read (r : PipeRing) (want : Nat) : List UInt8 × PipeRing :=
  let (got, pages) := takeFrom r.pages want
  (got, ⟨pages⟩)

end PipeRing

end Kernel
end Descriptors
