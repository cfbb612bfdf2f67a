import Descriptors.Proofs.TransferSchedules
import Descriptors.Session.Threads
/-! # A queued job runs the blocking transfer

A job runs the transfer loop a blocking call over the same region and size runs, on the
worker's thread, and hands the outcome to its callback where the blocking call answers it. A
step of a transfer task is one call on the kernel whose effect does not depend on where the
outcome goes; only once the loop has finished does the finish matter. Whatever the kernel
answers at each call, and whatever the other threads do between calls, the callback runs once
with the count the blocking call reports, and with the region handed back: as long as it was,
the received bytes over its front and the rest untouched. This holds of every kernel whose
`read(2)` delivers at most what it is asked for and whose `write(2)` takes at most what it is
offered. -/
namespace Descriptors

namespace ReadLoop

/-- A read of `n` bytes whose calls delivered `moved`, in order: it has gathered exactly those
bytes, and a running loop asks for the rest. -/
def Received (n : Nat) (moved : List UInt8) : ReadLoop → Prop
  | running left cs => gathered cs = moved ∧ 0 < left ∧ left + moved.length = n
  | finished got _ => got = moved ∧ got.length ≤ n

theorem received_start (n : Nat) : Received n [] (start n) := by
  unfold start
  split
  · simp [Received]
  · simp [Received]
    omega

variable {n : Nat} {moved : List UInt8} {l : ReadLoop}

/-- A call that delivers no more than the loop asks for adds its bytes to what it gathered. -/
theorem Received.step_received {bs : List UInt8} (h : Received n moved l)
    (hb : bs.length ≤ l.request) : Received n (moved ++ bs) (l.step (.received bs)) := by
  cases l with
  | finished got e =>
    -- a finished loop asks for nothing, so nothing was delivered
    have : bs = [] := by simpa [request] using hb
    subst this
    simpa [step] using h
  | running left cs =>
    obtain ⟨rfl, hleft, hn⟩ := h
    simp only [request] at hb
    simp only [step]
    split
    · exact ⟨by simp, by omega, by simp; omega⟩
    · exact ⟨by simp, by simp; omega⟩

/-- A call that delivers nothing leaves what was gathered as it was. -/
theorem Received.step_other {c : ReadCall} (h : Received n moved l)
    (hc : ∀ bs, c ≠ .received bs) : Received n moved (l.step c) := by
  cases l with
  | finished got e => exact h
  | running left cs =>
    obtain ⟨rfl, hleft, hn⟩ := h
    cases c with
    | interrupted => exact ⟨rfl, hleft, hn⟩
    | failed e => exact ⟨rfl, by omega⟩
    | endOfStream => exact ⟨rfl, by omega⟩
    | received bs => exact absurd rfl (hc bs)

end ReadLoop

namespace Transfer

/-- Which way a transfer moves bytes. -/
def direction : Transfer → Direction
  | .reading _ => .read
  | .writing _ => .write

@[simp] theorem direction_start (dir : Direction) (region : List UInt8) (n : Nat) :
    (start dir region n).direction = dir := by
  cases dir <;> rfl

/-- What a transfer of `n` bytes over `region` has done once its calls moved `moved`: a read
has gathered exactly those bytes, and a write has sent exactly the first bytes of its part of
the region. -/
def Moved (region : List UInt8) (n : Nat) (moved : List UInt8) : Transfer → Prop
  | .reading l => l.Received n moved
  | .writing l => WriteLoop.Tracks (region.take n) [] moved l

variable {region : List UInt8} {n : Nat}

theorem moved_start (dir : Direction) (region : List UInt8) (n : Nat) :
    (start dir region n).Moved region n [] := by
  cases dir with
  | read => exact ReadLoop.received_start n
  | write => exact WriteLoop.tracks_start (region.take n) []

/-- A finished transfer reports at most `n` bytes: a read the bytes it was delivered, a write
the count of the first bytes of the region it sent. -/
theorem Moved.outcome {tr : Transfer} {moved got : List UInt8} {count : Nat}
    {err : Option IoError} (hn : n ≤ region.length) (h : tr.Moved region n moved)
    (hout : tr.outcome? = some (got, count, err)) :
    count ≤ n ∧ (tr.direction = .read → got = moved ∧ count = got.length) ∧
      (tr.direction = .write → got = [] ∧ moved = region.take count) := by
  cases tr with
  | reading l =>
    cases l with
    | running left cs => simp [Transfer.outcome?] at hout
    | finished got' e =>
      simp only [Transfer.outcome?, Option.some.injEq, Prod.mk.injEq] at hout
      obtain ⟨rfl, rfl, -⟩ := hout
      obtain ⟨hgot, hle⟩ := h
      exact ⟨hle, fun _ => ⟨hgot, rfl⟩, by simp [Transfer.direction]⟩
  | writing l =>
    cases l with
    | running rest sent => simp [Transfer.outcome?] at hout
    | finished sent e =>
      simp only [Transfer.outcome?, Option.some.injEq, Prod.mk.injEq] at hout
      obtain ⟨rfl, rfl, -⟩ := hout
      obtain ⟨hmoved, hle, -⟩ := h
      have hlen : (region.take n).length = n := by simp; omega
      refine ⟨by omega, by simp [Transfer.direction], fun _ => ⟨rfl, ?_⟩⟩
      rw [hmoved, List.nil_append, List.take_take, Nat.min_eq_left (by omega)]

end Transfer

namespace Session

namespace World

/-- One call of a transfer task, whoever waits for its outcome: nothing to do once the loop
finished, otherwise the call and the kernel's reply taken in; `none` while the call would
block. -/
def advance (w : World) (fd : Int) (tr : Transfer) : Option (Transfer × World) :=
  match tr.outcome? with
  | some _ => some (tr, w)
  | none => w.transferStep fd tr

/-- A transfer task after a call: still on its thread, or finished and its outcome handed to
its finish. -/
def resume (w : World) (t : ThreadId) (fd : Int) (tr : Transfer) (finish : Finish)
    (rest : List Task) : World :=
  match tr.outcome? with
  | some (got, count, err) => w.finishTransfer t finish got count err rest
  | none => w.setStack t (.transfer fd tr finish :: rest)

/-- The bytes one call of a transfer moves: what a read receives, the part of its pending
bytes a write hands over. -/
def callMoved (w : World) (fd : Int) : Transfer → List UInt8
  | .reading l =>
    match (w.io.read w.kernel fd l.request).1 with
    | .data bs => bs
    | _ => []
  | .writing l =>
    match (w.io.write w.kernel fd l.pending).1 with
    | .accepted n => l.pending.take n
    | _ => []

/-- A step of a transfer task is its call, which does not depend on where the outcome goes,
followed by resuming the task. -/
theorem stepTask_transfer (w : World) (t : ThreadId) (fd : Int) (tr : Transfer) (finish : Finish)
    (rest : List Task) :
    w.stepTask t (.transfer fd tr finish) rest =
      (w.advance fd tr).map fun p => p.2.resume t fd p.1 finish rest := by
  simp only [stepTask, advance]
  cases hout : tr.outcome? with
  | some o => simp [resume, hout]
  | none =>
    cases hs : w.transferStep fd tr with
    | none => rfl
    | some p =>
      obtain ⟨tr', w'⟩ := p
      cases h' : tr'.outcome? <;> simp [resume, h']

theorem kernel_setStack (w : World) (t : ThreadId) (s : List Task) :
    (w.setStack t s).kernel = w.kernel := by
  cases t <;> rfl

theorem kernel_setOutcome (w : World) (t : ThreadId) (o : Outcome) :
    (w.setOutcome t o).kernel = w.kernel := by
  cases t <;> rfl

/-- Resuming a transfer task touches no kernel state: the calls alone do. -/
theorem kernel_resume (w : World) (t : ThreadId) (fd : Int) (tr : Transfer) (finish : Finish)
    (rest : List Task) : (w.resume t fd tr finish rest).kernel = w.kernel := by
  unfold resume
  split
  · cases finish <;> simp [finishTransfer, kernel_setStack, kernel_setOutcome]
  · exact kernel_setStack _ _ _

/-- A transfer task whose loop finished hands its outcome to its finish in one step. -/
theorem stepTask_finished {w : World} {t : ThreadId} {fd : Int} {tr : Transfer} {finish : Finish}
    {rest : List Task} {got : List UInt8} {count : Nat} {err : Option IoError}
    (hout : tr.outcome? = some (got, count, err)) :
    w.stepTask t (.transfer fd tr finish) rest =
      some (w.finishTransfer t finish got count err rest) := by
  simp [stepTask_transfer, advance, resume, hout]

variable {w w₁ : World} {fd : Int} {tr : Transfer}

/-- A call of a read loop takes in the kernel's reply: received bytes, never more than it
asked for, or a call that delivers nothing. -/
theorem transferStep_reading {l : ReadLoop} (h : w.transferStep fd (.reading l) = some (tr, w₁)) :
    (∃ bs, tr = .reading (l.step (.received bs)) ∧ w.callMoved fd (.reading l) = bs ∧
      bs.length ≤ l.request) ∨
    (∃ c, tr = .reading (l.step c) ∧ w.callMoved fd (.reading l) = [] ∧
      ∀ bs, c ≠ .received bs) := by
  simp only [transferStep] at h
  simp only [callMoved]
  cases hr : (w.io.read w.kernel fd l.request).1 with
  | data bs =>
    rw [hr] at h
    cases h
    exact .inl ⟨bs, rfl, rfl, w.io.read_data_le hr⟩
  | endOfStream =>
    rw [hr] at h
    cases h
    exact .inr ⟨.endOfStream, rfl, rfl, by simp⟩
  | failed e =>
    rw [hr] at h
    cases h
    -- an interrupted call and any other failure alike deliver nothing
    refine .inr ⟨.ofFailure e, rfl, rfl, fun bs => ?_⟩
    unfold ReadCall.ofFailure
    split <;> simp
  | wouldBlock =>
    rw [hr] at h
    cases h

/-- A call of a write loop takes in the kernel's reply: some of its pending bytes accepted, or a
call that hands nothing over. -/
theorem transferStep_writing {l : WriteLoop}
    (h : w.transferStep fd (.writing l) = some (tr, w₁)) :
    ∃ c, tr = .writing (l.step c) ∧
      WriteCall.Allowed l.pending c (w.callMoved fd (.writing l)) := by
  simp only [transferStep] at h
  simp only [callMoved]
  cases hr : (w.io.write w.kernel fd l.pending).1 with
  | accepted n =>
    rw [hr] at h
    have hle := w.io.write_accepted_le hr
    cases n with
    | zero =>
      cases h
      exact ⟨.refused, rfl, by simpa using WriteCall.Allowed.refused l.pending⟩
    | succ n =>
      cases h
      exact ⟨.accepted (n + 1), rfl, .accepted _ _ (Nat.succ_pos n) hle⟩
  | failed e =>
    rw [hr] at h
    cases h
    refine ⟨.ofFailure e, rfl, ?_⟩
    unfold WriteCall.ofFailure
    split
    · exact .interrupted _
    · exact .failed _ _
  | wouldBlock =>
    rw [hr] at h
    cases h

end World

theorem World.direction_transferStep {w w₁ : World} {fd : Int} {tr tr₁ : Transfer}
    (h : w.transferStep fd tr = some (tr₁, w₁)) : tr₁.direction = tr.direction := by
  cases tr with
  | reading l =>
    rcases World.transferStep_reading h with ⟨bs, rfl, -⟩ | ⟨c, rfl, -⟩ <;> rfl
  | writing l =>
    obtain ⟨c, rfl, -⟩ := World.transferStep_writing h
    rfl

/-- The transfers a transfer task passes through, and the bytes its calls move. Each call is
made on whatever world the other threads left behind, so every world is a possible one. -/
inductive Calls (fd : Int) : Transfer → List UInt8 → Transfer → Prop
  | done (tr : Transfer) : Calls fd tr [] tr
  | call {tr tr₁ tr₂ : Transfer} {moved : List UInt8} (w w₁ : World) :
      tr.outcome? = none → w.transferStep fd tr = some (tr₁, w₁) →
      Calls fd tr₁ moved tr₂ →
      Calls fd tr (w.callMoved fd tr ++ moved) tr₂

section Moved

variable {region : List UInt8} {n : Nat}

/-- One call keeps a transfer in step with the bytes it moved. -/
theorem moved_transferStep {w w₁ : World} {fd : Int} {tr tr₁ : Transfer} {moved : List UInt8}
    (h : tr.Moved region n moved) (hout : tr.outcome? = none)
    (hs : w.transferStep fd tr = some (tr₁, w₁)) :
    tr₁.Moved region n (moved ++ w.callMoved fd tr) := by
  cases tr with
  | reading l =>
    rcases World.transferStep_reading hs with ⟨bs, rfl, hmoved, hb⟩ | ⟨c, rfl, hmoved, hc⟩
    · rw [hmoved]
      exact ReadLoop.Received.step_received h hb
    · rw [hmoved, List.append_nil]
      exact ReadLoop.Received.step_other h hc
  | writing l =>
    obtain ⟨c, rfl, hc⟩ := World.transferStep_writing hs
    -- a write task calls only while its loop runs
    cases l with
    | finished sent e => simp [Transfer.outcome?] at hout
    | running rest sent => exact WriteLoop.Tracks.step h hc

/-- A whole task keeps its transfer in step with the bytes it moved. -/
theorem Calls.moved {fd : Int} {tr tr' : Transfer} {moved moved₀ : List UInt8}
    (h : Calls fd tr moved tr') (hm : tr.Moved region n moved₀) :
    tr'.Moved region n (moved₀ ++ moved) := by
  induction h generalizing moved₀ with
  | done => simpa using hm
  | call w w₁ hout hs _ ih =>
    rw [← List.append_assoc]
    exact ih (moved_transferStep hm hout hs)

theorem Calls.direction {fd : Int} {tr tr' : Transfer} {moved : List UInt8}
    (h : Calls fd tr moved tr') : tr'.direction = tr.direction := by
  induction h with
  | done => rfl
  | call w w₁ _ hs _ ih => rw [ih, World.direction_transferStep hs]

end Moved

/-- A job runs the blocking call over its region and size: whatever the kernel answers, the
call moves at most the job's size and hands back the region with the bytes received over its
front, and the callback then records the very outcome the blocking call would answer. -/
theorem job_runs_blocking_transfer (fd : Int) (j : SessionJob) (hfit : j.size ≤ j.region.length)
    {moved got : List UInt8} {tr : Transfer} {count : Nat} {err : Option IoError}
    (hcalls : Calls fd j.transfer moved tr) (hout : tr.outcome? = some (got, count, err)) :
    World.runJob fd j = .transfer fd (Transfer.start j.kind.direction j.region j.size)
      (.callback j.callback j.kind j.region) ∧
    (∀ (w : World) (t : ThreadId) (tr' : Transfer) (finish : Finish) (rest : List Task),
      w.stepTask t (.transfer fd tr' finish) rest =
        (w.advance fd tr').map fun p => p.2.resume t fd p.1 finish rest) ∧
    (∀ (w : World) (t : ThreadId) (tr' : Transfer) (finish : Finish) (rest : List Task),
      (w.stepTask t (.transfer fd tr' finish) rest).map World.kernel =
        (w.advance fd tr').map fun p => p.2.kernel) ∧
    count ≤ j.size ∧
    (j.kind.direction = .read → got = moved ∧ count = got.length) ∧
    (j.kind.direction = .write → got = [] ∧ moved = j.region.take count) ∧
    (Job.handBack j.region got).length = j.region.length ∧
    (Job.handBack j.region got).take got.length = got ∧
    (Job.handBack j.region got).drop got.length = j.region.drop got.length ∧
    (∀ (w : World) (t : ThreadId) (rest : List Task),
      w.stepTask t (.transfer fd tr (.callback j.callback j.kind j.region)) rest =
        some (w.setStack t (.complete j.callback j.kind j.region got count :: rest)) ∧
      w.stepTask t (.complete j.callback j.kind j.region got count) rest =
        some (w.setStack t ((j.callback.holds.map Task.dropRef).toList ++
          .record j.callback.key (World.jobEvent j.callback j.kind j.region got count) :: rest)) ∧
      w.stepTask t (.transfer fd tr .answer) rest =
        some ((w.setOutcome t (.transferred got count err)).setStack t rest)) ∧
    (World.jobEvent j.callback j.kind j.region got count).count = count ∧
    (transferResult j.kind.direction fd count err = .ok count ∨
      ∃ e, err = some e ∧
        transferResult j.kind.direction fd count err =
          .error (.transfer j.kind.direction fd count e)) := by
  have hm := hcalls.moved (Transfer.moved_start j.kind.direction j.region j.size)
  rw [List.nil_append] at hm
  have hdir : tr.direction = j.kind.direction := by
    rw [hcalls.direction]
    exact Transfer.direction_start _ _ _
  obtain ⟨hcount, hread, hwrite⟩ := hm.outcome hfit hout
  -- what a read received fits the region; a write receives nothing
  have hgot : got.length ≤ j.region.length := by
    cases hd : j.kind.direction with
    | read => have := hread (hdir.trans hd); omega
    | write => simp [(hwrite (hdir.trans hd)).1]
  refine ⟨rfl, fun w t tr' => World.stepTask_transfer w t fd tr',
    fun w t tr' finish rest => ?_, hcount, fun hd => hread (hdir.trans hd),
    fun hd => hwrite (hdir.trans hd), Job.length_handBack hgot, by simp [Job.handBack],
    by simp [Job.handBack], fun w t rest => ⟨?_, rfl, ?_⟩, rfl, ?_⟩
  · -- where the outcome goes never reaches the kernel
    rw [World.stepTask_transfer, Option.map_map]
    congr 1
    funext p
    exact World.kernel_resume _ _ _ _ _ _
  · simp [World.stepTask_finished hout, World.finishTransfer]
  · simp [World.stepTask_finished hout, World.finishTransfer]
  · cases err with
    | none => exact .inl rfl
    | some e => exact .inr ⟨e, rfl, rfl⟩

/-- A job writing two of three bytes to the standard output: one call takes both, and the
job's callback is handed the count 2 and the region as it was. -/
theorem console_write_job_reports :
    (2 : Nat) ≤ [(7 : UInt8), 8, 9].length ∧
    Calls 1 (Transfer.start .write [(7 : UInt8), 8, 9] 2) [7, 8] (.writing (.finished 2 none)) ∧
    ∀ (w : World) (t : ThreadId) (rest : List Task),
      w.stepTask t (.transfer 1 (.writing (.finished 2 none))
        (.callback ⟨"out", none, none⟩ .writeBuffer [7, 8, 9])) rest =
        some (w.setStack t
          (.complete ⟨"out", none, none⟩ .writeBuffer [7, 8, 9] [] 2 :: rest)) := by
  have hcalls : Calls 1 (Transfer.start .write [(7 : UInt8), 8, 9] 2) [7, 8]
      (.writing (.finished 2 none)) :=
    .call (World.initial .simulation) _ rfl rfl (.done _)
  have h := job_runs_blocking_transfer 1 ⟨.writeBuffer, 2, [7, 8, 9], ⟨"out", none, none⟩⟩
    (by decide) hcalls rfl
  exact ⟨by decide, hcalls, fun w t rest => (h.2.2.2.2.2.2.2.2.2.1 w t rest).1⟩

end Session

end Descriptors
