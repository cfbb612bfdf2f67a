import Descriptors.Kernel.Calls
/-! # The calls a transfer makes

A transfer loop meets the kernel only through `read(2)` and `write(2)`. A session takes the two
calls as a parameter, together with what every kernel promises of them: a read delivers at most
the bytes it is asked for, and a write takes at most the bytes it is offered. These two facts
are what keep a loop within its region. The kernel state of this library is one such pair of
calls, and the two facts are proved of it here, down to its files, pipes and sockets. -/
namespace Descriptors
namespace Kernel

/-- `read(2)` and `write(2)` over a kernel state, with the bounds every kernel keeps. -/
structure Io where
  read : State → Int → Nat → ReadReply × State
  write : State → Int → List UInt8 → WriteReply × State
  read_data_le : ∀ {k : State} {fd : Int} {want : Nat} {bs : List UInt8},
    (read k fd want).1 = .data bs → bs.length ≤ want
  write_accepted_le : ∀ {k : State} {fd : Int} {bs : List UInt8} {m : Nat},
    (write k fd bs).1 = .accepted m → m ≤ bs.length

namespace PipeRing

theorem length_takeFrom_le (pages : List Page) (want : Nat) :
    (takeFrom pages want).1.length ≤ want := by
  fun_induction takeFrom pages want with
  | case1 | case2 => simp
  | case3 p ps want chars got => simp only [got, chars, List.length_take]; omega
  | case4 p ps want chars got _ _ more rest hmore ih =>
    rw [hmore] at ih
    simp only [got, chars, List.length_append, List.length_take] at ih ⊢
    omega
  | case5 p ps want chars got => simp only [got, chars, List.length_take]; omega

theorem sum_freshPages_le (packet : Bool) (free : Nat) (bs : List UInt8) :
    ((freshPages packet free bs).1.map fun p => p.data.length).foldr (· + ·) 0 ≤ bs.length := by
  fun_induction freshPages packet free bs with
  | case1 | case2 => simp
  | case3 free bs _ more rest hmore ih =>
    rw [hmore] at ih
    simp at ih ⊢
    omega

theorem write_count_le (r : PipeRing) (bs : List UInt8) (packet : Bool) :
    (r.write bs packet).1 ≤ bs.length := by
  -- the merged tail is at most the write's length, the fresh pages hold at most the rest
  have hsplit : ∀ (merged : Nat) (r' : PipeRing), merged ≤ bs.length →
      merged + ((freshPages packet (slots - r'.pages.length) (bs.drop merged)).1.map
        fun p => p.data.length).foldr (· + ·) 0 ≤ bs.length := by
    intro merged r' hm
    have := sum_freshPages_le packet (slots - r'.pages.length) (bs.drop merged)
    simp only [List.length_drop] at this
    omega
  apply hsplit
  split
  · dsimp only
    split
    · exact Nat.mod_le _ _
    · exact Nat.zero_le _
  · exact Nat.zero_le _

end PipeRing

namespace State

variable {k : State} {want m : Nat} {bs : List UInt8}

theorem readPipe_data_le {id : Nat} {f : OpenFile} (h : (k.readPipe id want f).1 = .data bs) :
    bs.length ≤ want := by
  unfold readPipe at h
  split at h
  · cases h
  · split at h
    · split at h <;> (try split at h) <;> cases h
    · cases h
      exact PipeRing.length_takeFrom_le _ _

theorem readSocket_data_le {id : Nat} {f : OpenFile} (h : (k.readSocket id want f).1 = .data bs) :
    bs.length ≤ want := by
  unfold readSocket at h
  split at h
  · split at h
    · split at h
      · cases h
      · split at h <;> (try split at h) <;> cases h
    · cases h
      exact List.length_take_le _ _
  · cases h

theorem readInode_data_le {i n : Nat} {f : OpenFile} (h : (k.readInode i n want f).1 = .data bs) :
    bs.length ≤ want := by
  unfold readInode at h
  split at h
  · cases h
  · split at h
    · split at h <;> cases h
    · dsimp only at h
      split at h
      · cases h
      · cases h
        exact List.length_take_le _ _
  · cases h
  · cases h
  · cases h
    simp
  · cases h

/-- `read(2)` delivers at most the bytes it is asked for. -/
theorem read_data_le {fd : Int} (h : (k.read fd want).1 = .data bs) : bs.length ≤ want := by
  unfold read at h
  split at h
  · cases h
  · split at h
    · cases h
    · split at h
      · cases h
      · exact readInode_data_le h
      · exact readPipe_data_le h
      · exact readSocket_data_le h

theorem writeInode_accepted_le {i n : Nat} {f : OpenFile}
    (h : (k.writeInode i n bs f).1 = .accepted m) : m ≤ bs.length := by
  unfold writeInode at h
  split at h
  · split at h
    · cases h
    · cases h
      exact Nat.le_refl _
  · cases h
  · cases h
    exact Nat.le_refl _
  · cases h
  · cases h

theorem writeSocket_accepted_le {id : Nat} {f : OpenFile}
    (h : (k.writeSocket id bs f).1 = .accepted m) : m ≤ bs.length := by
  unfold writeSocket at h
  split at h
  · split at h
    · cases h
    · split at h
      · dsimp only at h
        split at h
        · split at h <;> cases h
        · cases h
          exact Nat.min_le_right _ _
      · cases h
  · cases h

theorem writePipe_accepted_le {id : Nat} {f : OpenFile}
    (h : (k.writePipe id bs f).1 = .accepted m) : m ≤ bs.length := by
  unfold writePipe at h
  split at h
  · cases h
  · split at h
    · cases h
    · dsimp only at h
      split at h
      · split at h <;> cases h
      · cases h
        exact PipeRing.write_count_le _ _ _

/-- `write(2)` takes at most the bytes it is offered. -/
theorem write_accepted_le {fd : Int} (h : (k.write fd bs).1 = .accepted m) : m ≤ bs.length := by
  unfold write at h
  split at h
  · cases h
  · split at h
    · cases h
    · split at h
      · cases h
        exact Nat.le_refl _
      · exact writeInode_accepted_le h
      · exact writePipe_accepted_le h
      · exact writeSocket_accepted_le h

end State

/-- The calls of the kernel state this library simulates. -/
def Io.simulation : Io where
  read := State.read
  write := State.write
  read_data_le := State.read_data_le
  write_accepted_le := State.write_accepted_le

end Kernel
end Descriptors
