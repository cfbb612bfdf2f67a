import Descriptors.Proofs.SessionSteps
import Descriptors.Session.Script
/-! # The capacity check in front of every transfer

Every blocking transfer and every asynchronous submission first checks that its buffer can
serve the request: `n` bytes over `c` are refused with `BufferTooSmall` when `c = 0` or
`n > c`. For the blocking forms `c` is the length of the buffer (a slice, a `Buffer` or the
bytes of a text); for the asynchronous forms it is the buffer's length too, and for the raw
forms none behind a null pointer and `n` otherwise. A refusal comes before anything else: no
call reaches the kernel, no job is queued, the worker is neither started nor touched, so no
callback can ever run for it. A submission that passes queues exactly one job, last, of the
requested size, which fits its buffer. -/
namespace Descriptors
namespace Session

theorem checkCapacity_eq_error {n c : Nat} (h : c = 0 ∨ c < n) :
    checkCapacity n c = .error (.bufferTooSmall n c) := by
  simp [checkCapacity, h]

theorem checkCapacity_eq_ok {n c : Nat} (h : 0 < c ∧ n ≤ c) : checkCapacity n c = .ok () := by
  rw [checkCapacity, if_neg (by omega)]

-- an empty request passes over a non-empty buffer, never over an empty one
example : checkCapacity 0 5 = .ok () ∧ checkCapacity 0 0 = .error (.bufferTooSmall 0 0) :=
  ⟨rfl, rfl⟩

/-- A raw region is refused exactly behind a null pointer or for an empty request. -/
theorem rawCapacity_short_iff (null : Bool) (n : Nat) :
    (rawCapacity null n = 0 ∨ rawCapacity null n < n) ↔ null = true ∨ n = 0 := by
  cases null <;> simp [rawCapacity]

namespace Act

section Submit

variable (w : World) (key : String) (d : Nat) (holds : Option Nat) (cb : CallbackSpec)
  (kind : JobKind) (n : Nat) (region : List UInt8)

/-- A submission the worker takes queues one job behind the others, of the size and over the
region given, and answers `ok`; the kernel is not touched. -/
theorem run_submit_of_accept {dsc : Desc} {started : Bool} {q : JobQueue SessionJob}
    (hd : w.desc? d = some dsc)
    (ha : (dsc.worker.getD ⟨dsc.fd, JobQueue.new, [], false⟩).queue.accept (.ok ()) =
      .ok (started, q)) :
    ∃ w', (submit key d holds cb kind n region).run.run w = (.ok (.ok .null), w') ∧
      w'.kernel = w.kernel ∧
      w'.queuedJobs d = w.queuedJobs d ++ [⟨kind, n, region, ⟨key, cb.tag, holds⟩⟩] := by
  have hjobs := JobQueue.jobs_of_accept ha
  have hq :
      w.queuedJobs d = (dsc.worker.getD ⟨dsc.fd, JobQueue.new, [], false⟩).queue.jobs := by
    cases hw : dsc.worker <;> simp [World.queuedJobs, World.worker?, hd, hw, JobQueue.new]
  have hd' : w.descs[d]? = some dsc := hd
  simp only [submit, run_bind, run_get, hd, ha]
  cases holds <;>
    simp only [run_bind, run_set, owners, setOwners, run_get, run_modify, run_pure] <;>
    refine ⟨_, rfl, rfl, ?_⟩ <;> rw [hq] <;>
    simp [World.queuedJobs, World.worker?, World.desc?, World.modifyDesc, World.modifyEntry,
      Array.getElem?_modify, hjobs, hd']

/-- What a submission can do: answer a misuse without its descriptor, answer the worker's
refusal as a failed spawn, or queue its job last and answer `ok`. None of them calls the
kernel. -/
theorem run_submit_cases :
    (submit key d holds cb kind n region).run.run w =
        (.error (Doc.misuse "no such descriptor"), w) ∨
      (∃ io, (submit key d holds cb kind n region).run.run w =
        (.error (w.errorDoc (.spawn io)), w)) ∨
      ∃ w', (submit key d holds cb kind n region).run.run w = (.ok (.ok .null), w') ∧
        w'.kernel = w.kernel ∧
        w'.queuedJobs d = w.queuedJobs d ++ [⟨kind, n, region, ⟨key, cb.tag, holds⟩⟩] := by
  cases hd : w.desc? d with
  | none =>
    left
    simp only [submit, run_bind, run_get, hd, run_misuse]
  | some dsc =>
    cases ha : (dsc.worker.getD ⟨dsc.fd, JobQueue.new, [], false⟩).queue.accept (.ok ()) with
    | error e =>
      -- the worker refuses only a start once closing began, as a failed spawn
      have he : ∃ io, e = .spawn io := by
        unfold JobQueue.accept at ha
        split at ha
        · exact ⟨_, (Except.error.inj ha).symm⟩
        · simp at ha
      obtain ⟨io, rfl⟩ := he
      exact .inr (.inl ⟨io, by simp only [submit, run_bind, run_get, hd, ha, run_fail]⟩)
    | ok r =>
      exact .inr (.inr (run_submit_of_accept w key d holds cb kind n region hd ha))

/-- A submission never answers with a refused buffer. -/
theorem submit_not_bufferTooSmall :
    ((answer (submit key d holds cb kind n region)).run w).1.failureLabel ≠
      some "BufferTooSmall" := by
  rw [run_answer]
  rcases run_submit_cases w key d holds cb kind n region with
    h | ⟨io, h⟩ | ⟨w', h, -, -⟩ <;> rw [h] <;> simp [Error.label]

/-- A submission that goes through has queued its job. -/
theorem queuedJobs_of_run_submit {doc : Doc} {w' : World}
    (h : (submit key d holds cb kind n region).run.run w = (.ok doc, w')) :
    w'.queuedJobs d = w.queuedJobs d ++ [⟨kind, n, region, ⟨key, cb.tag, holds⟩⟩] := by
  rcases run_submit_cases w key d holds cb kind n region with
    h' | ⟨io, h'⟩ | ⟨w'', h', -, hq⟩
  · rw [h'] at h; cases h
  · rw [h'] at h; cases h
  · rw [h', Prod.mk.injEq] at h
    rw [← h.2]
    exact hq

end Submit

section Checked

variable (w : World) (key : String) (d : Nat) (holds : Option Nat) (cb : CallbackSpec)
  (kind : JobKind) (n c : Nat) (region : List UInt8)

theorem run_submitChecked_of_short (h : c = 0 ∨ c < n) :
    (submitChecked key d holds cb kind n c region).run.run w =
      (.error (w.errorDoc (.bufferTooSmall n c)), w) := by
  simp only [submitChecked, orFail, checkCapacity_eq_error h, run_bind, run_fail]

theorem run_submitChecked_of_fits (h : 0 < c ∧ n ≤ c) :
    (submitChecked key d holds cb kind n c region).run.run w =
      (submit key d holds cb kind n region).run.run w := by
  simp [submitChecked, orFail, checkCapacity_eq_ok h]

theorem submitChecked_bufferTooSmall_iff :
    ((answer (submitChecked key d holds cb kind n c region)).run w).1.failureLabel =
      some "BufferTooSmall" ↔ c = 0 ∨ c < n := by
  by_cases h : c = 0 ∨ c < n
  · simp [h, run_answer, run_submitChecked_of_short w key d holds cb kind n c region h,
      Error.label]
  · simp only [h, iff_false]
    rw [run_answer, run_submitChecked_of_fits w key d holds cb kind n c region (by omega),
      ← run_answer]
    exact submit_not_bufferTooSmall w key d holds cb kind n region

/-- A checked submission that goes through passed the check and queued its job. -/
theorem queuedJobs_of_run_submitChecked {doc : Doc} {w' : World}
    (h : (submitChecked key d holds cb kind n c region).run.run w = (.ok doc, w')) :
    0 < c ∧ n ≤ c ∧
      w'.queuedJobs d = w.queuedJobs d ++ [⟨kind, n, region, ⟨key, cb.tag, holds⟩⟩] := by
  by_cases hs : c = 0 ∨ c < n
  · rw [run_submitChecked_of_short w key d holds cb kind n c region hs] at h
    cases h
  · rw [run_submitChecked_of_fits w key d holds cb kind n c region (by omega)] at h
    exact ⟨by omega, by omega, queuedJobs_of_run_submit w key d holds cb kind n region h⟩

end Checked

section Blocking

variable {w : World} {d : Nat} {desc : Desc} (dir : Direction) (region : List UInt8) (n : Nat)
  (showData : Bool) (keep : List UInt8 → Act Unit)

/-- A blocking transfer refused by the check answers `BufferTooSmall` at once: nothing reaches
the kernel, and only the session thread's own bookkeeping is cleared. -/
theorem run_blocking_of_short (hw : w.helperStack = []) (hd : w.desc? d = some desc)
    (h : region.length = 0 ∨ region.length < n) :
    (blocking d dir region n none showData keep).run.run w =
      (.ok (w.errorDoc (.bufferTooSmall n region.length)),
        { w with mainStack := [], mainOutcome := none }) := by
  simp only [blocking, run_bind, run_number hd, checkCapacity_eq_error h, failBeside, perform,
    run_modify, World.perform_nil hw, run_get, helperReport, Doc.extend_errorDoc_nil, run_pure]
  rfl

/-- A blocking transfer the check lets through answers its count, the transfer's failure, or
a misuse when it can never end: never a refused buffer, provided what it keeps of a read goes
through. -/
theorem blocking_not_bufferTooSmall (hd : w.desc? d = some desc)
    (h : 0 < region.length ∧ n ≤ region.length) (hkeep : ∀ got, Quiet (keep got)) :
    ((answer (blocking d dir region n none showData keep)).run w).1.failureLabel ≠
      some "BufferTooSmall" := by
  rw [run_answer]
  simp only [blocking, run_bind, run_number hd, checkCapacity_eq_ok h, perform, run_modify,
    run_get]
  generalize w.perform _ = w₁
  cases w₁.mainOutcome with
  | none => simp
  | some o =>
    cases o with
    | closed r => simp
    | transferred got count err =>
      obtain ⟨w₂, hk⟩ := hkeep got w₁
      cases err with
      | none => simp only [run_bind, hk, transferResult, run_pure]; simp
      | some e => simp only [run_bind, hk, transferResult, run_pure]; simp [Error.label]

theorem blocking_bufferTooSmall_iff (hw : w.helperStack = []) (hd : w.desc? d = some desc)
    (hkeep : ∀ got, Quiet (keep got)) :
    ((answer (blocking d dir region n none showData keep)).run w).1.failureLabel =
      some "BufferTooSmall" ↔ region.length = 0 ∨ region.length < n := by
  by_cases h : region.length = 0 ∨ region.length < n
  · simp only [h, run_answer, run_blocking_of_short dir region n showData keep hw hd h,
      Doc.failureLabel_errorDoc, Error.label]
  · simp only [h, iff_false]
    exact blocking_not_bufferTooSmall dir region n showData keep hd (by omega) hkeep

end Blocking

section Entries

variable (run : Ctx → Op → StateM World Doc) (ctx : Ctx)

/-- An operation of blocking transfers runs as its transfer step says. -/
theorem dispatch_of_transferOp {op : Op} {x : Act Doc} (hb : bufferOp op = none)
    (hr : resourceOp ctx op = none) (ht : transferOp ctx op = some x) :
    dispatch run ctx op = x := by
  unfold dispatch
  split
  · cases ht
  · cases ht
  · cases ht
  · simp [hb, hr, ht]

/-- An operation on asynchronous jobs runs as its step says. -/
theorem dispatch_of_asyncOp {op : Op} {x : Act Doc} (hb : bufferOp op = none)
    (hr : resourceOp ctx op = none) (ht : transferOp ctx op = none)
    (ha : asyncOp ctx op = some x) : dispatch run ctx op = x := by
  unfold dispatch
  split
  · cases ha
  · cases ha
  · cases ha
  · simp [hb, hr, ht, ha]

section Transfers

variable {w : World} {hn : String} {d : Nat} (hdesc : (desc ctx hn).run.run w = (.ok d, w))
include hdesc

/-- A read fills a fresh buffer of `size` bytes, `n` by default: its capacity. -/
theorem answer_dispatch_read (n : Nat) (size : Option Nat)
    (hs : size.getD n ≤ allocationLimit) :
    ((answer (dispatch run ctx (.read (.ok none) (.ok hn) (.ok n) (.ok size)))).run w).1 =
      ((answer (blocking d .read (List.replicate (size.getD n) 0) n none true
        fun _ => pure ())).run w).1 := by
  rw [dispatch_of_transferOp run ctx rfl rfl rfl, answer_interruptible_none, run_answer,
    run_answer]
  simp only [readFresh, run_bind, run_need, hdesc, run_pure, run_allocation hs]

/-- A read into a named buffer has that buffer's length as its capacity. -/
theorem run_dispatch_readBuffer {b : String} {buf : Buffer}
    (hb : lookupIn w.buffers b = some buf) (n : Nat) :
    (dispatch run ctx (.readBuffer (.ok hn) (.ok b) (.ok n))).run.run w =
      (blocking d .read buf.bytes n none false fun got =>
        setBuffer b ⟨Job.handBack buf.bytes got⟩).run.run w := by
  rw [dispatch_of_transferOp run ctx rfl rfl rfl]
  simp only [run_bind, run_need, hdesc, run_takenBuffer hb]

/-- A write sends the region its bytes make, all of it by default: its capacity. -/
theorem answer_dispatch_write {src : Field ByteSource} {size : Field (Option Nat)}
    {region : List UInt8} (hr : (writeRegion src size).run.run w = (.ok (.ok region), w))
    (n : Option Nat) :
    ((answer (dispatch run ctx (.write (.ok none) (.ok hn) src size (.ok n)))).run w).1 =
      ((answer (blocking d .write region (n.getD region.length) none false
        fun _ => pure ())).run w).1 := by
  rw [dispatch_of_transferOp run ctx rfl rfl rfl, answer_interruptible_none, run_answer,
    run_answer]
  simp only [writeBytes, run_bind, run_need, hdesc, run_pure, hr]

/-- A write from a named buffer has that buffer's length as its capacity. -/
theorem run_dispatch_writeBuffer {b : String} {buf : Buffer}
    (hb : lookupIn w.buffers b = some buf) (n : Nat) :
    (dispatch run ctx (.writeBuffer (.ok hn) (.ok b) (.ok n))).run.run w =
      (blocking d .write buf.bytes n none false fun _ => pure ()).run.run w := by
  rw [dispatch_of_transferOp run ctx rfl rfl rfl]
  simp only [run_bind, run_need, hdesc, run_takenBuffer hb]

/-- A text is written whole: its bytes are both the request and the capacity. -/
theorem run_dispatch_writeStr (s : String) :
    (dispatch run ctx (.writeStr (.ok hn) (.ok s))).run.run w =
      (blocking d .write (Bytes.ofText s) (Bytes.ofText s).length none false
        fun _ => pure ()).run.run w := by
  rw [dispatch_of_transferOp run ctx rfl rfl rfl]
  simp only [writeText, run_bind, run_need, hdesc, run_pure]

end Transfers

section Jobs

variable {w : World} {hn : String} {cb : CallbackSpec} {d : Nat} {key : String}
  {holds : Option Nat} (hsub : (submission ctx hn cb).run.run w = (.ok (d, key, holds), w))
include hsub

/-- An asynchronous read into a fresh buffer has that buffer's size as its capacity. -/
theorem run_dispatch_asyncRead_fresh (n : Nat) (size : Option Nat)
    (hs : size.getD n ≤ allocationLimit) :
    (dispatch run ctx (.asyncRead (.ok hn) (.fresh (.ok n) (.ok size)) cb)).run.run w =
      (submitChecked key d holds cb .readBuffer n (size.getD n)
        (List.replicate (size.getD n) 0)).run.run w := by
  rw [dispatch_of_asyncOp run ctx rfl rfl rfl rfl]
  simp only [run_bind, run_need, hsub, run_allocation hs, run_pure, List.length_replicate]

/-- An asynchronous read into a named buffer takes the buffer, whose length is the capacity. -/
theorem run_dispatch_asyncRead_named {b : String} {buf : Buffer}
    (hb : lookupIn w.buffers b = some buf) (n : Option Nat) :
    (dispatch run ctx (.asyncRead (.ok hn) (.named b (.ok n)) cb)).run.run w =
      (submitChecked key d holds cb .readBuffer (n.getD buf.len) buf.len buf.bytes).run.run
        { w with buffers := eraseIn w.buffers b } := by
  rw [dispatch_of_asyncOp run ctx rfl rfl rfl rfl]
  simp only [run_bind, run_need, hsub, run_takeBuffer hb, run_pure]
  rfl

/-- An asynchronous write of given bytes has the region they make as its capacity. -/
theorem run_dispatch_asyncWrite_bytes {src : Field ByteSource} {size : Field (Option Nat)}
    {region : List UInt8} (hr : (writeRegion src size).run.run w = (.ok (.ok region), w))
    (n : Option Nat) :
    (dispatch run ctx (.asyncWrite (.ok hn) (.bytes src size (.ok n)) cb)).run.run w =
      (submitChecked key d holds cb .writeBuffer (n.getD region.length) region.length
        region).run.run w := by
  rw [dispatch_of_asyncOp run ctx rfl rfl rfl rfl]
  simp only [run_bind, run_need, hsub, hr, run_orFail, run_pure]

/-- An asynchronous write from a named buffer takes the buffer, whose length is the capacity. -/
theorem run_dispatch_asyncWrite_named {b : String} {buf : Buffer}
    (hb : lookupIn w.buffers b = some buf) (n : Option Nat) :
    (dispatch run ctx (.asyncWrite (.ok hn) (.named b (.ok n)) cb)).run.run w =
      (submitChecked key d holds cb .writeBuffer (n.getD buf.len) buf.len buf.bytes).run.run
        { w with buffers := eraseIn w.buffers b } := by
  rw [dispatch_of_asyncOp run ctx rfl rfl rfl rfl]
  simp only [run_bind, run_need, hsub, run_takeBuffer hb, run_pure]
  rfl

/-- A raw read's capacity is none behind a null pointer and the request otherwise. -/
theorem run_dispatch_asyncReadRaw (n : Nat) (null : Bool) (hn' : n ≤ allocationLimit) :
    (dispatch run ctx (.asyncReadRaw (.ok hn) (.ok n) null cb)).run.run w =
      (submitChecked key d holds cb .readRaw n (rawCapacity null n)
        (List.replicate n 0)).run.run w := by
  rw [dispatch_of_asyncOp run ctx rfl rfl rfl rfl]
  simp only [run_bind, run_need, hsub, run_allocation hn']

/-- A raw write of given bytes: its capacity is none behind a null pointer and the request
otherwise, which must then be covered by the bytes. -/
theorem run_dispatch_asyncWriteRaw_given {src : ByteSource} {bs : List UInt8}
    (hs : src.resolve = .ok bs) (n : Option Nat) (null : Bool)
    (hfit : null = true ∨ n.getD bs.length ≤ bs.length) :
    (dispatch run ctx (.asyncWriteRaw (.ok hn) (.given (.ok src) (.ok n)) null cb)).run.run w =
      (submitChecked key d holds cb .writeRaw (n.getD bs.length)
        (rawCapacity null (n.getD bs.length)) bs).run.run w := by
  rw [dispatch_of_asyncOp run ctx rfl rfl rfl rfl]
  have hcheck : (!null && decide (bs.length < n.getD bs.length)) = false := by
    rcases hfit with rfl | h
    · rfl
    · simp [Nat.not_lt.2 h]
  simp only [run_bind, run_need, hsub, run_bytes hs, hcheck]
  rfl

/-- A raw write of zeros has the same capacity as a raw read. -/
theorem run_dispatch_asyncWriteRaw_zeros (n : Nat) (null : Bool) (hn' : n ≤ allocationLimit) :
    (dispatch run ctx (.asyncWriteRaw (.ok hn) (.zeros (.ok n)) null cb)).run.run w =
      (submitChecked key d holds cb .writeRaw n (rawCapacity null n)
        (List.replicate n 0)).run.run w := by
  rw [dispatch_of_asyncOp run ctx rfl rfl rfl rfl]
  simp only [run_bind, run_need, hsub, run_allocation hn']

end Jobs

end Entries

end Act

/-- The capacity check guards every transfer. A blocking transfer of `n` bytes over a buffer
of `L` answers `BufferTooSmall` exactly when `L = 0` or `n > L`, and then at once with the
requested size and the capacity, the kernel and every buffer as they were. A checked
submission against capacity `c` is refused exactly when `c = 0` or `n > c`, and then leaves the
session as it was: no job queued, no worker started, so no callback runs. One that goes through
queues one job, last, whose size fits its region. A raw region is refused exactly behind a null
pointer or for an empty request, and never offers more than the request. -/
theorem capacity_check_guards_transfers :
    (∀ (w : World) (d : Nat) (desc : Desc) (dir : Direction) (region : List UInt8) (n : Nat)
        (showData : Bool) (keep : List UInt8 → Act Unit),
      w.helperStack = [] → w.desc? d = some desc → (∀ got, Act.Quiet (keep got)) →
      (((Act.answer (Act.blocking d dir region n none showData keep)).run w).1.failureLabel =
          some "BufferTooSmall" ↔ region.length = 0 ∨ region.length < n) ∧
      (region.length = 0 ∨ region.length < n →
        (Act.blocking d dir region n none showData keep).run.run w =
          (.ok (w.errorDoc (.bufferTooSmall n region.length)),
            { w with mainStack := [], mainOutcome := none }))) ∧
    (∀ (w : World) (key : String) (d : Nat) (holds : Option Nat) (cb : CallbackSpec)
        (kind : JobKind) (n c : Nat) (region : List UInt8),
      (((Act.answer (Act.submitChecked key d holds cb kind n c region)).run w).1.failureLabel =
          some "BufferTooSmall" ↔ c = 0 ∨ c < n) ∧
      (c = 0 ∨ c < n → (Act.submitChecked key d holds cb kind n c region).run.run w =
          (.error (w.errorDoc (.bufferTooSmall n c)), w)) ∧
      (c ≤ region.length → ∀ doc w',
        (Act.submitChecked key d holds cb kind n c region).run.run w = (.ok doc, w') →
        ∃ j : SessionJob, w'.queuedJobs d = w.queuedJobs d ++ [j] ∧ j.region = region ∧
          j.size = n ∧ j.size ≤ j.region.length)) ∧
    (∀ (null : Bool) (n : Nat), (rawCapacity null n = 0 ∨ rawCapacity null n < n ↔
      null = true ∨ n = 0) ∧ rawCapacity null n ≤ n) := by
  refine ⟨fun w d desc dir region n showData keep hw hd hkeep => ⟨?_, ?_⟩,
    fun w key d holds cb kind n c region => ⟨?_, ?_, ?_⟩,
    fun null n => ⟨rawCapacity_short_iff null n, ?_⟩⟩
  · exact Act.blocking_bufferTooSmall_iff dir region n showData keep hw hd hkeep
  · exact Act.run_blocking_of_short dir region n showData keep hw hd
  · exact Act.submitChecked_bufferTooSmall_iff w key d holds cb kind n c region
  · exact Act.run_submitChecked_of_short w key d holds cb kind n c region
  · intro hc doc w' h
    obtain ⟨-, hn, hq⟩ := Act.queuedJobs_of_run_submitChecked w key d holds cb kind n c region h
    exact ⟨_, hq, rfl, rfl, show n ≤ region.length by omega⟩
  · cases null <;> simp [rawCapacity]

end Session
end Descriptors
