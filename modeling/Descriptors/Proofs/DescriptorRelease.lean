import Descriptors.Proofs.JobReports
/-! # Releasing a descriptor

A descriptor is released by `close` and by the drop of its last owner: its worker is stopped,
which flushes the queued jobs and ends the worker's thread, then its number is closed and the
descriptor marked `-1`. Giving the number up instead stops the worker the same way and keeps
the number open. The release first checks the number, though, and a negative number is taken
for one already released: its worker is neither stopped nor waited for, so a descriptor built
on a negative number returns from its close while its jobs are still queued.

The session thread's part is followed step by step while the other threads act between its
steps, none of them touching the descriptor's number. A step of another thread never changes
the session thread's stack, so what the session thread does is fixed by its own tasks; the
world each of its steps meets is whatever the others left. -/
namespace Descriptors
namespace Session
namespace World

variable {w w₁ : World}

@[simp] theorem mainStack_setStack {t : ThreadId} (ht : t ≠ .main) (s : List Task) :
    (w.setStack t s).mainStack = w.mainStack := by
  cases t <;> simp_all [setStack, modifyWorker, modifyDesc]

@[simp] theorem mainStack_setStack_main (s : List Task) : (w.setStack .main s).mainStack = s :=
  rfl

@[simp] theorem mainStack_setOutcome (t : ThreadId) (o : Outcome) :
    (w.setOutcome t o).mainStack = w.mainStack := by
  cases t <;> rfl

@[simp] theorem mainStack_modifyWorker (d : Nat) (f : Worker → Worker) :
    (w.modifyWorker d f).mainStack = w.mainStack := rfl

@[simp] theorem mainStack_modifyDesc (d : Nat) (f : Desc → Desc) :
    (w.modifyDesc d f).mainStack = w.mainStack := rfl

@[simp] theorem mainStack_modifyEntry (e : Nat) (f : Entry → Entry) :
    (w.modifyEntry e f).mainStack = w.mainStack := rfl

@[simp] theorem mainStack_addEvent (key : String) (ev : Event) :
    (w.addEvent key ev).mainStack = w.mainStack := rfl

theorem mainStack_finishTransfer {t : ThreadId} (ht : t ≠ .main) (f : Finish) (got : List UInt8)
    (count : Nat) (err : Option IoError) (rest : List Task) :
    (w.finishTransfer t f got count err rest).mainStack = w.mainStack := by
  cases f <;> simp [finishTransfer, ht]

theorem mainStack_transferStep {fd : Int} {tr tr' : Transfer}
    (h : w.transferStep fd tr = some (tr', w₁)) : w₁.mainStack = w.mainStack := by
  unfold transferStep at h
  repeat' split at h
  all_goals (cases h; try rfl)

/-- A step of any other thread leaves the session thread's stack alone. -/
theorem mainStack_stepTask {t : ThreadId} (ht : t ≠ .main) {task : Task} {rest : List Task}
    (h : w.stepTask t task rest = some w₁) : w₁.mainStack = w.mainStack := by
  -- every branch sets the stepping thread's own stack and touches other parts of the world
  unfold stepTask at h
  repeat' split at h
  all_goals first
    | (cases h; done)
    | (cases h; simp [ht, mainStack_finishTransfer]; done)
    | (cases h; simp only [ht, mainStack_finishTransfer, mainStack_setStack, ne_eq,
        not_false_eq_true]; exact mainStack_transferStep ‹_›)

theorem mainStack_step {t : ThreadId} (ht : t ≠ .main) (h : w.step t = some w₁) :
    w₁.mainStack = w.mainStack := by
  unfold step at h
  split at h
  · cases h
  · exact mainStack_stepTask ht h

/-- The number descriptor `d` holds. -/
def numberOf (w : World) (d : Nat) : Option Int := (w.desc? d).map (·.fd)

/-- The worker of descriptor `d`, if it has one, has run every queued job and reported the queue
drained, and its thread has ended or was let go. -/
def Flushed (w : World) (d : Nat) : Prop :=
  ∀ wk, w.worker? d = some wk → wk.queue.flushed = true ∧ (wk.queue.thread && wk.live) = false

@[simp] theorem numberOf_modifyWorker (d d' : Nat) (f : Worker → Worker) :
    (w.modifyWorker d' f).numberOf d = w.numberOf d := by
  simp only [numberOf, modifyWorker, modifyDesc, desc?, Array.getElem?_modify]
  split
  · cases w.descs[d]? <;> rfl
  · rfl

@[simp] theorem numberOf_setStack (t : ThreadId) (s : List Task) (d : Nat) :
    (w.setStack t s).numberOf d = w.numberOf d := by
  cases t with
  | worker d' => exact numberOf_modifyWorker d d' _
  | _ => rfl

@[simp] theorem numberOf_setOutcome (t : ThreadId) (o : Outcome) (d : Nat) :
    (w.setOutcome t o).numberOf d = w.numberOf d := by
  cases t <;> rfl

theorem numberOf_modifyDesc_self (d : Nat) (f : Desc → Desc) :
    (w.modifyDesc d f).numberOf d = (w.desc? d).map fun desc => (f desc).fd := by
  simp [numberOf, modifyDesc, desc?, Array.getElem?_modify]
  rfl

section Owner

variable {d : Nat} {report : Bool} {rest : List Task}

theorem stepTask_release_of_neg {desc : Desc} (hd : w.desc? d = some desc) (hneg : desc.fd < 0)
    (t : ThreadId) :
    w.stepTask t (.release d report) rest =
      some ((if report then w.setOutcome t (.closed (.ok ())) else w).setStack t rest) := by
  simp [stepTask, hd, hneg]

theorem stepTask_release_of_nonneg {desc : Desc} (hd : w.desc? d = some desc) (h : 0 ≤ desc.fd)
    (t : ThreadId) :
    w.stepTask t (.release d report) rest =
      some (w.setStack t (.shutdown d :: .closeNumber d report :: rest)) := by
  simp [stepTask, hd, Int.not_lt.2 h]

/-- The session thread's shutdown of a worker: a running one is asked to close and waited for,
anything else is left at once. -/
theorem stepTask_shutdown_main (h : w.stepTask .main (.shutdown d) rest = some w₁) :
    w₁.numberOf d = w.numberOf d ∧
      (w.workerState d = .running → w₁.mainStack = .join d :: rest) ∧
      (w.workerState d ≠ .running → w₁.mainStack = rest) := by
  simp only [stepTask] at h
  cases hw : w.worker? d with
  | none =>
    simp only [hw, Option.some.injEq] at h
    subst h
    simp [workerState, hw]
  | some wk =>
    simp only [hw] at h
    have hstate : w.workerState d = wk.queue.state := by simp [workerState, hw]
    -- the close request reports whether the worker was running
    have hrun : wk.queue.requestClose.1 = true ↔ wk.queue.state = .running := by
      cases hs : wk.queue.state <;> simp [JobQueue.requestClose, hs]
    rw [hstate]
    by_cases hr : wk.queue.state = .running
    · simp [hrun.2 hr] at h
      subst h
      simp [hr]
    · have h1 : wk.queue.requestClose.1 = false := Bool.eq_false_iff.2 (mt hrun.1 hr)
      simp [h1] at h
      subst h
      simp [hr]

/-- The session thread gets past a join only once the worker flushed its queue and ended. -/
theorem stepTask_join_main (h : w.stepTask .main (.join d) rest = some w₁) :
    w.Flushed d ∧ w₁.numberOf d = w.numberOf d ∧ w₁.mainStack = rest := by
  simp only [stepTask] at h
  cases hw : w.worker? d with
  | none =>
    simp only [hw, Option.some.injEq] at h
    subst h
    simp [Flushed, hw]
  | some wk =>
    simp only [hw] at h
    split at h
    · cases h
    · simp only [Option.some.injEq] at h
      subst h
      refine ⟨fun wk' hwk' => ?_, by simp, by simp⟩
      cases hw.symm.trans hwk'
      rename_i hc
      revert hc
      cases wk.queue.flushed <;> cases (wk.queue.thread && wk.live) <;> simp

/-- Closing the number of `d` marks the descriptor with `-1`. -/
theorem stepTask_closeNumber_main (hd : w.numberOf d ≠ none)
    (h : w.stepTask .main (.closeNumber d report) rest = some w₁) :
    w₁.numberOf d = some (-1) ∧ w₁.mainStack = rest := by
  simp only [stepTask] at h
  cases hdesc : w.desc? d with
  | none => simp [numberOf, hdesc] at hd
  | some desc =>
    simp only [hdesc, Option.some.injEq] at h
    subst h
    refine ⟨?_, by simp⟩
    have hkernel : ({ w with kernel := (w.kernel.close desc.fd).2 } : World).desc? d = some desc :=
      hdesc
    cases report <;> simp [numberOf_modifyDesc_self, hkernel]

/-- The session thread's release of `d`: a negative number is left at once, any other is
stopped and then closed. -/
theorem stepTask_release_main {fd : Int} (hfd : w.numberOf d = some fd)
    (h : w.stepTask .main (.release d report) rest = some w₁) :
    w₁.numberOf d = some fd ∧ (fd < 0 → w₁.mainStack = rest) ∧
      (0 ≤ fd → w₁.mainStack = .shutdown d :: .closeNumber d report :: rest) := by
  obtain ⟨desc, hd, rfl⟩ : ∃ desc, w.desc? d = some desc ∧ desc.fd = fd := by
    simpa [numberOf] using hfd
  by_cases hneg : desc.fd < 0
  · rw [stepTask_release_of_neg hd hneg] at h
    cases h
    refine ⟨by cases report <;> simp [hfd], fun _ => by cases report <;> simp, fun h => ?_⟩
    omega
  · rw [stepTask_release_of_nonneg hd (by omega)] at h
    cases h
    exact ⟨by simp [hfd], fun h => absurd h hneg, fun _ => by simp⟩

end Owner

/-- The session thread working through its stack while the other threads act between its
steps, none of them touching descriptor `d`'s number: only its owner releases it. `log` lists
the tasks the session thread ran, each with the world it ran in. -/
inductive OwnerRun (d : Nat) : World → List (Task × World) → World → Prop
  | done (w : World) : OwnerRun d w [] w
  | own {w w₁ w₂ : World} {task : Task} {rest : List Task} {log : List (Task × World)} :
      w.mainStack = task :: rest → w.stepTask .main task rest = some w₁ →
      OwnerRun d w₁ log w₂ → OwnerRun d w ((task, w) :: log) w₂
  | other {w w₁ w₂ : World} {t : ThreadId} {log : List (Task × World)} :
      t ≠ .main → w.step t = some w₁ → w₁.numberOf d = w.numberOf d →
      OwnerRun d w₁ log w₂ → OwnerRun d w log w₂

namespace OwnerRun

variable {d : Nat} {w w₂ : World} {log : List (Task × World)}

/-- A run either leaves the session thread alone, or its first own step comes after steps of
the others that kept its stack and the number as they were. -/
theorem uncons (h : OwnerRun d w log w₂) :
    (log = [] ∧ w₂.mainStack = w.mainStack ∧ w₂.numberOf d = w.numberOf d) ∨
    (∃ task rest w' w'' log', log = (task, w') :: log' ∧ w.mainStack = task :: rest ∧
      w'.mainStack = task :: rest ∧ w'.numberOf d = w.numberOf d ∧
      w'.stepTask .main task rest = some w'' ∧ OwnerRun d w'' log' w₂) := by
  induction h with
  | done => exact .inl ⟨rfl, rfl, rfl⟩
  | own hs hstep hrun _ => exact .inr ⟨_, _, _, _, _, rfl, hs, hs, rfl, hstep, hrun⟩
  | other ht hstep hnum _ ih =>
    have hmain := mainStack_step ht hstep
    rcases ih with ⟨hlog, hs, hn⟩ |
      ⟨task, rest, w', w'', log', hlog, hs, hs', hn, hstep', hrun⟩
    · exact .inl ⟨hlog, hs.trans hmain, hn.trans hnum⟩
    · exact .inr ⟨task, rest, w', w'', log', hlog, hmain ▸ hs, hs', hn.trans hnum, hstep',
        hrun⟩

/-- With nothing left to do, the session thread runs nothing more. -/
theorem of_nil (h : OwnerRun d w log w₂) (hs : w.mainStack = []) :
    log = [] ∧ w₂.numberOf d = w.numberOf d := by
  rcases h.uncons with ⟨hlog, -, hn⟩ | ⟨_, _, _, _, _, -, hs', -⟩
  · exact ⟨hlog, hn⟩
  · simp [hs] at hs'

variable {report : Bool} {fd : Int}

/-- A run that empties a stack the session thread still has work on begins, after steps of
the others, with its own step on the top task. -/
theorem first_step {task : Task} {rest : List Task} (h : OwnerRun d w log w₂)
    (hs : w.mainStack = task :: rest) (hend : w₂.mainStack = []) :
    ∃ w' w'' log', log = (task, w') :: log' ∧ w'.numberOf d = w.numberOf d ∧
      w'.stepTask .main task rest = some w'' ∧ OwnerRun d w'' log' w₂ := by
  rcases h.uncons with ⟨-, hs₂, -⟩ |
    ⟨task', rest', w', w'', log', rfl, hs', -, hn, hstep, hrun⟩
  · simp [hend, hs] at hs₂
  · rw [hs, List.cons.injEq] at hs'
    obtain ⟨rfl, rfl⟩ := hs'
    exact ⟨w', w'', log', rfl, hn, hstep, hrun⟩

/-- From a pending close of `d`: one close, of the number the descriptor holds, then nothing. -/
theorem closing (h : OwnerRun d w log w₂) (hs : w.mainStack = [.closeNumber d report])
    (hend : w₂.mainStack = []) (hfd : w.numberOf d = some fd) :
    ∃ wc, log = [(.closeNumber d report, wc)] ∧ wc.numberOf d = some fd ∧
      w₂.numberOf d = some (-1) := by
  obtain ⟨wc, w', log', rfl, hn, hstep, hrun⟩ := h.first_step hs hend
  have hwc : wc.numberOf d = some fd := hn.trans hfd
  obtain ⟨hnum, hmain⟩ := stepTask_closeNumber_main (by simp [hwc]) hstep
  obtain ⟨rfl, hn'⟩ := hrun.of_nil hmain
  exact ⟨wc, rfl, hwc, hn'.trans hnum⟩

/-- Waiting for the worker: the join goes through only on a flushed worker, then the close. -/
theorem joining (h : OwnerRun d w log w₂) (hs : w.mainStack = [.join d, .closeNumber d report])
    (hend : w₂.mainStack = []) (hfd : w.numberOf d = some fd) :
    ∃ wj wc, log = [(.join d, wj), (.closeNumber d report, wc)] ∧ wj.Flushed d ∧
      wc.numberOf d = some fd ∧ w₂.numberOf d = some (-1) := by
  obtain ⟨wj, w', log', rfl, hn, hstep, hrun⟩ := h.first_step hs hend
  obtain ⟨hflushed, hnum, hmain⟩ := stepTask_join_main hstep
  obtain ⟨wc, rfl, hwc, hn'⟩ := hrun.closing hmain hend (hnum.trans (hn.trans hfd))
  exact ⟨wj, wc, rfl, hflushed, hwc, hn'⟩

/-- Stopping the worker before the close: a running worker is waited for, any other is not. -/
theorem stopping (h : OwnerRun d w log w₂)
    (hs : w.mainStack = [.shutdown d, .closeNumber d report])
    (hend : w₂.mainStack = []) (hfd : w.numberOf d = some fd) :
    ∃ ws wc, ((ws.workerState d = .running ∧ ∃ wj, wj.Flushed d ∧
        log = [(.shutdown d, ws), (.join d, wj), (.closeNumber d report, wc)]) ∨
      (ws.workerState d ≠ .running ∧
        log = [(.shutdown d, ws), (.closeNumber d report, wc)])) ∧
      wc.numberOf d = some fd ∧ w₂.numberOf d = some (-1) := by
  obtain ⟨ws, w', log', rfl, hn, hstep, hrun⟩ := h.first_step hs hend
  obtain ⟨hnum, hjoin, hskip⟩ := stepTask_shutdown_main hstep
  have hfd' : w'.numberOf d = some fd := hnum.trans (hn.trans hfd)
  by_cases hr : ws.workerState d = .running
  · obtain ⟨wj, wc, rfl, hflushed, hwc, hn'⟩ := hrun.joining (hjoin hr) hend hfd'
    exact ⟨ws, wc, .inl ⟨hr, wj, hflushed, rfl⟩, hwc, hn'⟩
  · obtain ⟨wc, rfl, hwc, hn'⟩ := hrun.closing (hskip hr) hend hfd'
    exact ⟨ws, wc, .inr ⟨hr, rfl⟩, hwc, hn'⟩

/-- A release from the session thread: a negative number is left after the one step, any
other is stopped and closed as `stopping` says. -/
theorem releasing (h : OwnerRun d w log w₂) (hs : w.mainStack = [.release d report])
    (hend : w₂.mainStack = []) (hfd : w.numberOf d = some fd) :
    ∃ wr log', log = (.release d report, wr) :: log' ∧
      (fd < 0 → log' = [] ∧ w₂.numberOf d = some fd) ∧
      (0 ≤ fd → ∃ ws wc, ((ws.workerState d = .running ∧ ∃ wj, wj.Flushed d ∧
          log' = [(.shutdown d, ws), (.join d, wj), (.closeNumber d report, wc)]) ∨
        (ws.workerState d ≠ .running ∧
          log' = [(.shutdown d, ws), (.closeNumber d report, wc)])) ∧
        wc.numberOf d = some fd ∧ w₂.numberOf d = some (-1)) := by
  obtain ⟨wr, w', log', rfl, hn, hstep, hrun⟩ := h.first_step hs hend
  obtain ⟨hnum, hneg, hnonneg⟩ := stepTask_release_main (hn.trans hfd) hstep
  refine ⟨wr, log', rfl, fun h => ?_, fun h => hrun.stopping (hnonneg h) hend hnum⟩
  obtain ⟨rfl, hn'⟩ := hrun.of_nil (hneg h)
  exact ⟨rfl, hn'.trans hnum⟩

/-- Giving the number up without closing it: the worker is stopped, and waited for while it
runs, and the number stays as it was. -/
theorem detaching (h : OwnerRun d w log w₂) (hs : w.mainStack = [.shutdown d])
    (hend : w₂.mainStack = []) :
    w₂.numberOf d = w.numberOf d ∧
      ∃ ws, (ws.workerState d = .running ∧ ∃ wj, wj.Flushed d ∧
        log = [(.shutdown d, ws), (.join d, wj)]) ∨
      (ws.workerState d ≠ .running ∧ log = [(.shutdown d, ws)]) := by
  obtain ⟨ws, w', log', rfl, hn, hstep, hrun⟩ := h.first_step hs hend
  obtain ⟨hnum, hjoin, hskip⟩ := stepTask_shutdown_main hstep
  by_cases hr : ws.workerState d = .running
  · obtain ⟨wj, w'', log'', rfl, hn', hstep', hrun'⟩ := hrun.first_step (hjoin hr) hend
    obtain ⟨hflushed, hnum', hmain⟩ := stepTask_join_main hstep'
    obtain ⟨rfl, hn''⟩ := hrun'.of_nil hmain
    exact ⟨hn''.trans (hnum'.trans (hn'.trans (hnum.trans hn))), ws,
      .inl ⟨hr, wj, hflushed, rfl⟩⟩
  · obtain ⟨rfl, hn'⟩ := hrun.of_nil (hskip hr)
    exact ⟨hn'.trans (hnum.trans hn), ws, .inr ⟨hr, rfl⟩⟩

end OwnerRun

/-- Releasing a descriptor from the session thread, as `close` and the drop of its last owner
do, whatever the other threads do meanwhile. A negative number is left after the first step:
the worker is neither stopped nor waited for, so jobs still queued outlive the release. Any
other number has its worker stopped first; a running worker is waited for until it has flushed
its queue and its thread has ended, and only then is the number closed, once, and the
descriptor marked `-1`, so that a later release closes nothing. Giving the number up instead
stops and waits for the worker the same way and never closes it. -/
theorem release_flushes_iff_nonnegative {d : Nat} {report : Bool} {w₀ w₁ : World}
    {log : List (Task × World)} {fd : Int} (hrun : OwnerRun d w₀ log w₁)
    (hstart : w₀.mainStack = [.release d report]) (hfd : w₀.numberOf d = some fd)
    (hend : w₁.mainStack = []) :
    (log.map Prod.fst = [.release d report] ↔ fd < 0) ∧
    (0 ≤ fd → ∃ ws wc, (.shutdown d, ws) ∈ log ∧ (.closeNumber d report, wc) ∈ log ∧
      wc.numberOf d = some fd ∧
      ((ws.workerState d = .running ∧ ∃ wj, (.join d, wj) ∈ log ∧ wj.Flushed d ∧
          log.map Prod.fst = [.release d report, .shutdown d, .join d, .closeNumber d report]) ∨
        (ws.workerState d ≠ .running ∧
          log.map Prod.fst = [.release d report, .shutdown d, .closeNumber d report]))) ∧
    w₁.numberOf d = some (if 0 ≤ fd then -1 else fd) ∧
    (∀ (w : World) (t : ThreadId) (report' : Bool) (rest : List Task),
      w.numberOf d = some (-1) →
      w.stepTask t (.release d report') rest =
        some ((if report' then w.setOutcome t (.closed (.ok ())) else w).setStack t rest)) ∧
    (∀ (w w' : World) (log' : List (Task × World)), OwnerRun d w log' w' →
      w.mainStack = [.shutdown d] → w'.mainStack = [] →
      w'.numberOf d = w.numberOf d ∧
        ∃ ws, (ws.workerState d = .running ∧ ∃ wj, wj.Flushed d ∧
          log' = [(.shutdown d, ws), (.join d, wj)]) ∨
        (ws.workerState d ≠ .running ∧ log' = [(.shutdown d, ws)])) := by
  obtain ⟨wr, log', rfl, hneg, hnonneg⟩ := hrun.releasing hstart hend hfd
  refine ⟨⟨fun hl => ?_, fun h => by simp [(hneg h).1]⟩, fun h => ?_, ?_,
    fun w t r rest hw => ?_, fun w w' l hr hs he => hr.detaching hs he⟩
  · -- a release that ran alone met a negative number: any other goes on to stop the worker
    rcases Int.lt_or_le fd 0 with h | h
    · exact h
    · obtain ⟨ws, wc, hcases, -, -⟩ := hnonneg h
      rcases hcases with ⟨-, wj, -, rfl⟩ | ⟨-, rfl⟩ <;> simp at hl
  · obtain ⟨ws, wc, hcases, hwc, -⟩ := hnonneg h
    rcases hcases with ⟨hr, wj, hfl, rfl⟩ | ⟨hr, rfl⟩
    · exact ⟨ws, wc, by simp, by simp, hwc, .inl ⟨hr, wj, by simp, hfl, rfl⟩⟩
    · exact ⟨ws, wc, by simp, by simp, hwc, .inr ⟨hr, rfl⟩⟩
  · by_cases h : 0 ≤ fd
    · obtain ⟨-, -, -, -, hn⟩ := hnonneg h
      simp [h, hn]
    · simp [h, (hneg (by omega)).2]
  · obtain ⟨desc, hd, hfd'⟩ : ∃ desc, w.desc? d = some desc ∧ desc.fd = -1 := by
      simpa [numberOf] using hw
    exact stepTask_release_of_neg hd (by omega) t

/-- A session whose descriptor 0 holds the number `fd`, with a running worker that still has
one byte to write there, as the session thread is about to close it. -/
def queuedClose (fd : Int) : World :=
  { World.initial .simulation with
    descs := #[⟨fd, some ⟨fd,
      ⟨[⟨.writeBuffer, 1, [120], ⟨"out", none, none⟩⟩], false, false, .running, true⟩,
      [.serve], true⟩⟩]
    mainStack := [.release 0 true] }

/-- Closing the standard output while its worker still has a byte to write: the session thread
asks the worker to stop, waits while it writes the byte and ends, then closes the number. -/
theorem close_waits_for_queued_job :
    ∃ log w₁, OwnerRun 0 (queuedClose 1) log w₁ ∧ w₁.mainStack = [] ∧
      w₁.numberOf 0 = some (-1) ∧ (queuedClose 1).numberOf 0 = some 1 := by
  have hrun : ∃ log w₁, OwnerRun 0 (queuedClose 1) log w₁ ∧ w₁.mainStack = [] :=
    ⟨_, _, .own rfl rfl (.own rfl rfl
      (.other (t := .worker 0) (by decide) rfl rfl (.other (t := .worker 0) (by decide) rfl rfl
        (.other (t := .worker 0) (by decide) rfl rfl (.other (t := .worker 0) (by decide) rfl rfl
          (.other (t := .worker 0) (by decide) rfl rfl
            (.own rfl rfl (.own rfl rfl (.done _))))))))), rfl⟩
  obtain ⟨log, w₁, hrun, hend⟩ := hrun
  have h := release_flushes_iff_nonnegative hrun rfl rfl hend
  exact ⟨log, w₁, hrun, hend, h.2.2.1, rfl⟩

/-- The same close on the negative number -5: the session thread is done after its first
step, while the job is still queued and the worker still running. -/
theorem negative_number_close_leaves_job_queued :
    ∃ log w₁, OwnerRun 0 (queuedClose (-5)) log w₁ ∧ w₁.mainStack = [] ∧
      log.map Prod.fst = [.release 0 true] ∧
      (w₁.worker? 0).map (·.queue.pending) = some 1 ∧ w₁.workerState 0 = .running :=
  ⟨_, _, .own rfl rfl (.done _), rfl, rfl, rfl, rfl⟩

end World
end Session
end Descriptors
