import Descriptors.Session.Buffers
import Descriptors.Proofs.SessionSteps
/-! # Filling, comparing and indexing buffers

A buffer keeps its length for good. `fill` writes a source over the buffer's front when the
source fits, and otherwise refuses with the source's length and the buffer's; `fillFrom` first
refuses a source buffer shorter than the request and then fills as `fill` does. `compare` tells
whether two prefixes agree, and is false rather than undefined when either side is short.
Indexing reads or writes a byte exactly inside the buffer.

What a fill leaves behind is stated pointwise, as `Overwrites`: the length is kept, the source
stands in front and every later byte is as it was. That determines the buffer, so a fill's
result is characterised exactly. In a session a named buffer takes what a fill gives, and a
refused fill leaves the session as it was. -/
namespace Descriptors
namespace Buffer

/-- `b'` is `b` with `src` written over its front: the same length, the bytes of `src` first,
and every byte after them as in `b`. -/
def Overwrites (b : Buffer) (src : List UInt8) (b' : Buffer) : Prop :=
  b'.len = b.len ∧ (∀ i < src.length, b'.get? i = src[i]?) ∧
    ∀ i, src.length ≤ i → b'.get? i = b.get? i

@[simp] theorem get?_mk (bs : List UInt8) (i : Nat) : get? ⟨bs⟩ i = bs[i]? := rfl

@[simp] theorem len_mk (bs : List UInt8) : len ⟨bs⟩ = bs.length := rfl

theorem ext_get? {b c : Buffer} (h : ∀ i, b.get? i = c.get? i) : b = c := by
  cases b; cases c
  simpa using List.ext_getElem? h

/-- The buffer a fitting fill leaves. -/
theorem overwrites_append_drop {b : Buffer} {src : List UInt8} (h : src.length ≤ b.len) :
    Overwrites b src ⟨src ++ b.bytes.drop src.length⟩ := by
  refine ⟨?_, fun i hi => ?_, fun i hi => ?_⟩
  · simp [len] at h ⊢
    omega
  · simp [List.getElem?_append_left hi]
  · simp only [get?_mk, List.getElem?_append_right hi, List.getElem?_drop]
    rw [Nat.add_sub_cancel' hi]
    rfl

/-- `Overwrites` leaves no choice: the written buffer is the source followed by the rest of the
old one. -/
theorem eq_of_overwrites {b b' : Buffer} {src : List UInt8} (h : src.length ≤ b.len)
    (hw : Overwrites b src b') : b' = ⟨src ++ b.bytes.drop src.length⟩ := by
  obtain ⟨-, hfront, hback⟩ := hw
  obtain ⟨-, hfront', hback'⟩ := overwrites_append_drop h
  apply ext_get?
  intro i
  by_cases hi : i < src.length
  · rw [hfront i hi, hfront' i hi]
  · rw [hback i (by omega), hback' i (by omega)]

theorem fill_of_le {b : Buffer} {src : List UInt8} (h : src.length ≤ b.len) :
    b.fill src = .ok (src.length, ⟨src ++ b.bytes.drop src.length⟩) := by
  simp [fill, h]

theorem fill_of_lt {b : Buffer} {src : List UInt8} (h : b.len < src.length) :
    b.fill src = .error (.bufferTooSmall src.length b.len) := by
  simp [fill, Nat.not_le.2 h]

/-- A fill succeeds exactly when the source fits; it then reports the source's length and
leaves the buffer overwritten by it. -/
theorem fill_eq_ok_iff {b b' : Buffer} {src : List UInt8} {k : Nat} :
    b.fill src = .ok (k, b') ↔
      src.length ≤ b.len ∧ k = src.length ∧ Overwrites b src b' := by
  by_cases h : src.length ≤ b.len
  · rw [fill_of_le h]
    constructor
    · intro he
      cases he
      exact ⟨h, rfl, overwrites_append_drop h⟩
    · rintro ⟨-, rfl, hw⟩
      rw [eq_of_overwrites h hw]
  · rw [fill_of_lt (by omega)]
    simp [h]

/-- A fill fails exactly when the source is longer than the buffer, and then says so with
both lengths. -/
theorem fill_eq_error_iff {b : Buffer} {src : List UInt8} {e : Error} :
    b.fill src = .error e ↔ b.len < src.length ∧ e = .bufferTooSmall src.length b.len := by
  by_cases h : b.len < src.length
  · rw [fill_of_lt h]
    simp [h, eq_comm]
  · rw [fill_of_le (by omega)]
    simp [h]

theorem fillFrom_of_lt {b o : Buffer} {n : Nat} (h : o.len < n) :
    b.fillFrom o n = .error (.bufferTooSmall n o.len) := by
  simp [fillFrom, Nat.not_le.2 h]

theorem fillFrom_of_le {b o : Buffer} {n : Nat} (h : n ≤ o.len) :
    b.fillFrom o n = b.fill (o.bytes.take n) := by
  simp [fillFrom, h]

/-- Once the source buffer is long enough, a request longer than the target is refused with
the target's length. -/
theorem fillFrom_of_short_target {b o : Buffer} {n : Nat} (ho : n ≤ o.len) (hb : b.len < n) :
    b.fillFrom o n = .error (.bufferTooSmall n b.len) := by
  have htake : (o.bytes.take n).length = n := List.length_take_of_le ho
  rw [fillFrom_of_le ho, fill_of_lt (by omega), htake]

/-- Two prefixes of length `n` are equal exactly when they agree at every index below `n`. -/
theorem take_eq_iff_forall_getElem? {xs ys : List UInt8} {n : Nat} :
    xs.take n = ys.take n ↔ ∀ i < n, xs[i]? = ys[i]? := by
  rw [List.ext_getElem?_iff]
  simp only [List.getElem?_take]
  constructor
  · intro h i hi
    simpa [hi] using h i
  · intro h i
    by_cases hi : i < n <;> simp [hi, h]

/-- `compare` holds exactly when both sides have `n` bytes and the first `n` agree. -/
theorem compare_eq_true_iff {b : Buffer} {s : List UInt8} {n : Nat} :
    b.compare s n = true ↔ n ≤ b.len ∧ n ≤ s.length ∧ ∀ i < n, b.get? i = s[i]? := by
  simp only [compare, Bool.and_eq_true, decide_eq_true_eq, beq_iff_eq, take_eq_iff_forall_getElem?]
  exact and_assoc

theorem get?_isSome_iff {b : Buffer} {i : Nat} : (b.get? i).isSome ↔ i < b.len := by
  simp [get?, len]

theorem set?_isSome_iff {b : Buffer} {i : Nat} {v : UInt8} : (b.set? i v).isSome ↔ i < b.len := by
  simp only [set?]
  split <;> simp [*]

/-- Writing a byte inside the buffer changes that byte only. -/
theorem get?_of_set? {b b' : Buffer} {i : Nat} {v : UInt8} (h : b.set? i v = some b') :
    b'.len = b.len ∧ b'.get? i = some v ∧ ∀ j, j ≠ i → b'.get? j = b.get? j := by
  simp only [set?] at h
  split at h
  · rename_i hi
    cases h
    have hi : i < b.bytes.length := hi
    refine ⟨by simp [len], by simp [get?, hi], fun j hj => ?_⟩
    simp [get?, Ne.symm hj]
  · cases h

/-- After a fill, the buffer's front compares equal to the source. -/
theorem compare_of_fill {b b' : Buffer} {src : List UInt8} {k : Nat}
    (h : b.fill src = .ok (k, b')) : b'.compare src src.length = true := by
  obtain ⟨hfit, -, hlen, hfront, -⟩ := fill_eq_ok_iff.1 h
  exact compare_eq_true_iff.2 ⟨by omega, Nat.le_refl _, hfront⟩

/-- Comparing against the first `n` bytes of a source is comparing against the source. -/
theorem compare_take {b : Buffer} {s : List UInt8} {n : Nat} (h : n ≤ s.length) :
    b.compare (s.take n) n = b.compare s n := by
  simp [compare, h, List.take_take]

/-- After a fill from another buffer, the first `n` bytes of the two agree. -/
theorem compare_of_fillFrom {b b' o : Buffer} {n k : Nat}
    (h : b.fillFrom o n = .ok (k, b')) : b'.compare o.bytes n = true := by
  by_cases ho : n ≤ o.len
  · rw [fillFrom_of_le ho] at h
    have htake : (o.bytes.take n).length = n := List.length_take_of_le ho
    have hfilled := compare_of_fill h
    rwa [htake, compare_take ho] at hfilled
  · rw [fillFrom_of_lt (by omega)] at h
    cases h

/-- Two buffers hold equal bytes exactly when they have one length and agree at every index. -/
theorem bytes_beq_iff {b c : Buffer} :
    (b.bytes == c.bytes) = true ↔ b.len = c.len ∧ ∀ i < b.len, b.get? i = c.get? i := by
  rw [beq_iff_eq]
  constructor
  · rintro h
    simp [len, get?, h]
  · rintro ⟨hlen, h⟩
    apply List.ext_getElem? fun i => ?_
    by_cases hi : i < b.len
    · exact h i hi
    · simp only [len] at hi hlen
      rw [List.getElem?_eq_none (by omega), List.getElem?_eq_none (by omega)]

end Buffer

namespace Session.Act

/-- Filling a named buffer stores what the fill gives under its name; a refused fill answers
the refusal and leaves the session as it was. -/
theorem run_bufFill {w : World} {name : String} {src : ByteSource} {buf : Buffer}
    {bs : List UInt8} (hb : lookupIn w.buffers name = some buf) (hs : src.resolve = .ok bs) :
    ∃ act, bufferOp (.bufFill (.ok name) (.ok src)) = some act ∧
      act.run.run w = match buf.fill bs with
        | .ok (n, buf') => (.ok (.ok (.num n)), { w with buffers := setIn w.buffers name buf' })
        | .error e => (.error (w.errorDoc e), w) := by
  refine ⟨_, rfl, ?_⟩
  simp only [need, run_bind, run_pure, run_bytes hs, run_buffer hb, run_orFail]
  cases buf.fill bs with
  | ok r => simp [setBuffer]
  | error e => rfl

/-- Filling a named buffer from another, both present, is `fillFrom` on the two, stored the
same way. -/
theorem run_bufFillFrom {w : World} {name srcName : String} {n : Nat} {buf other : Buffer}
    (hb : lookupIn w.buffers name = some buf) (ho : lookupIn w.buffers srcName = some other) :
    ∃ act, bufferOp (.bufFillFrom (.ok name) (.ok srcName) (.ok n)) = some act ∧
      act.run.run w = match buf.fillFrom other n with
        | .ok (k, buf') => (.ok (.ok (.num k)), { w with buffers := setIn w.buffers name buf' })
        | .error e => (.error (w.errorDoc e), w) := by
  refine ⟨_, rfl, ?_⟩
  simp only [need, run_bind, run_pure, run_get, ho, run_buffer hb, run_orFail]
  cases buf.fillFrom other n with
  | ok r => simp [setBuffer]
  | error e => rfl

end Session.Act

namespace Buffer

/-- The laws of a buffer: a fill succeeds exactly when its source fits, and then overwrites the
front, keeps the rest and compares equal to its source; otherwise it is refused with both lengths
and, in a session, leaves everything as it was. Reads, writes and comparisons stay in bounds. -/
theorem fill_compare_index_laws (b c o : Buffer) (src s : List UInt8) (n i : Nat) (v : UInt8) :
    (∀ k b', b.fill src = .ok (k, b') ↔
      src.length ≤ b.len ∧ k = src.length ∧ Overwrites b src b') ∧
    (∀ e, b.fill src = .error e ↔
      b.len < src.length ∧ e = .bufferTooSmall src.length b.len) ∧
    (o.len < n → b.fillFrom o n = .error (.bufferTooSmall n o.len)) ∧
    (n ≤ o.len → b.fillFrom o n = b.fill (o.bytes.take n)) ∧
    (n ≤ o.len → b.len < n → b.fillFrom o n = .error (.bufferTooSmall n b.len)) ∧
    (b.compare s n = true ↔ n ≤ b.len ∧ n ≤ s.length ∧ ∀ j < n, b.get? j = s[j]?) ∧
    ((b.get? i).isSome ↔ i < b.len) ∧ ((b.set? i v).isSome ↔ i < b.len) ∧
    (∀ k b', b.fill src = .ok (k, b') → b'.compare src src.length = true) ∧
    (∀ k b', b.fillFrom o n = .ok (k, b') → b'.compare o.bytes n = true) ∧
    ((b.bytes == c.bytes) = true ↔ b.len = c.len ∧ ∀ j < b.len, b.get? j = c.get? j) ∧
    (∀ (w : Session.World) (name : String) (bytes : Session.ByteSource) (e : Error),
      Session.lookupIn w.buffers name = some b → bytes.resolve = .ok src →
      b.fill src = .error e → ∃ act,
        Session.Act.bufferOp (.bufFill (.ok name) (.ok bytes)) = some act ∧
        act.run.run w = (.error (w.errorDoc e), w)) ∧
    (∀ (w : Session.World) (name srcName : String) (e : Error),
      Session.lookupIn w.buffers name = some b → Session.lookupIn w.buffers srcName = some o →
      b.fillFrom o n = .error e → ∃ act,
        Session.Act.bufferOp (.bufFillFrom (.ok name) (.ok srcName) (.ok n)) = some act ∧
        act.run.run w = (.error (w.errorDoc e), w)) := by
  refine ⟨fun k b' => fill_eq_ok_iff, fun e => fill_eq_error_iff, fillFrom_of_lt, fillFrom_of_le,
    fillFrom_of_short_target, compare_eq_true_iff, get?_isSome_iff, set?_isSome_iff,
    fun k b' => compare_of_fill, fun k b' => compare_of_fillFrom, bytes_beq_iff, ?_, ?_⟩
  · intro w name bytes e hb hs hfail
    obtain ⟨act, hact, hrun⟩ := Session.Act.run_bufFill hb hs
    exact ⟨act, hact, by rw [hrun, hfail]⟩
  · intro w name srcName e hb ho hfail
    obtain ⟨act, hact, hrun⟩ := Session.Act.run_bufFillFrom (n := n) hb ho
    exact ⟨act, hact, by rw [hrun, hfail]⟩

/-- The round of the buffer tests: a 100-byte buffer filled from the first 21 bytes of a 50-byte
one compares equal to it on them, and a 5-byte buffer refuses 11 bytes from a source that has
them with its own length. -/
theorem fillFrom_round :
    (∃ k b', (zeros 100).fillFrom (ofBytes (Bytes.pattern 50)) 21 = .ok (k, b') ∧
      b'.compare (Bytes.pattern 50) 21 = true) ∧
    (zeros 5).fillFrom (ofBytes (Bytes.pattern 50)) 11 = .error (.bufferTooSmall 11 5) := by
  obtain ⟨-, -, -, -, -, -, -, -, -, hcompare, -⟩ :=
    fill_compare_index_laws (zeros 100) (zeros 0) (ofBytes (Bytes.pattern 50)) [] [] 21 0 0
  obtain ⟨-, -, -, -, hshort, -⟩ :=
    fill_compare_index_laws (zeros 5) (zeros 0) (ofBytes (Bytes.pattern 50)) [] [] 11 0 0
  exact ⟨⟨_, _, rfl, hcompare _ _ rfl⟩, hshort (by decide) (by decide)⟩

end Buffer
end Descriptors
