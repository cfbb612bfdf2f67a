import Descriptors.Proofs.WorkerInvariant
/-! # The worker's lifecycle under every interleaving

A step of any thread moves the worker's state along `idle → running → draining → terminated`
or `idle → terminated`, or keeps it; so along a run the state never goes back. The log's
lifecycle events (acceptances, refusals and the close) read the same way: submissions whose
thread could not be made, then acceptances, the first of which alone starts the thread, then
the close, then only refusals. -/
namespace Descriptors

namespace WorkerState

/-- The place of a state in the lifecycle. -/
def rank : WorkerState → Nat
  | idle => 0
  | running => 1
  | draining => 2
  | terminated => 3

/-- The moves one step may make: start the worker, close it (an idle one at once), finish
the drain, or stay. -/
inductive Advance : WorkerState → WorkerState → Prop
  | stay (st : WorkerState) : Advance st st
  | start : Advance idle running
  | close : Advance running draining
  | closeIdle : Advance idle terminated
  | finish : Advance draining terminated

theorem Advance.rank_le {a b : WorkerState} (h : Advance a b) : a.rank ≤ b.rank := by
  cases h <;> simp [rank]

/-- `terminated` is never left. -/
theorem Advance.eq_terminated {b : WorkerState} (h : Advance terminated b) : b = terminated := by
  cases h
  rfl

end WorkerState

namespace WorkerProtocol

variable {J : Type}

namespace Event

/-- Whether an acceptance started the worker thread. -/
def spawned? : Event J → Option Bool
  | accepted _ b => some b
  | _ => none
attribute [simp] spawned?.eq_1 spawned?.eq_2

theorem filterMap_filter_isLifecycle {β : Type} {f : Event J → Option β}
    (hf : ∀ e, e.isLifecycle = false → f e = none) (l : List (Event J)) :
    (l.filter isLifecycle).filterMap f = l.filterMap f := by
  rw [List.filterMap_filter]
  congr 1
  funext e
  cases he : e.isLifecycle <;> simp [hf e, he]

end Event

/-- Submissions refused because their worker thread could not be made, with what each spawn
gave. -/
def failedSpawns (fs : List (J × IoError)) : List (Event J) :=
  fs.map fun f => .refused f.1 (.spawn f.2)

/-- A started queue's opening: failed spawns, then the acceptance that started the worker
thread, then acceptances that found it started. -/
def Started (es : List (Event J)) : Prop :=
  ∃ (fs : List (J × IoError)) (k : J) (ks : List J),
    es = failedSpawns fs ++ .accepted k true :: ks.map (Event.accepted · false)

/-- What comes before the close: failed spawns only, or a started opening. -/
def Opening (es : List (Event J)) : Prop :=
  (∃ fs : List (J × IoError), es = failedSpawns fs) ∨ Started es

/-- What the log shows of the queue's life in each state of the worker: only failed spawns
before the worker started, the opening while running, then the close and only refusals. -/
def LogShape : WorkerState → List (Event J) → Prop
  | .idle, es => ∃ fs : List (J × IoError), es = failedSpawns fs
  | .running, es => Started es
  | .draining, es | .terminated, es => ∃ (pre : List (Event J)) (inline : Bool) (ks : List J),
      es = pre ++ .closeRequested inline ::
        ks.map (Event.refused · (.spawn JobQueue.shuttingDown)) ∧
      Opening pre

@[simp] theorem filterMap_spawned?_failedSpawns (fs : List (J × IoError)) :
    (failedSpawns fs).filterMap Event.spawned? = [] := by
  simp [failedSpawns, List.filterMap_map]

@[simp] theorem filterMap_accepted?_failedSpawns (fs : List (J × IoError)) :
    (failedSpawns fs).filterMap Event.accepted? = [] := by
  simp [failedSpawns, List.filterMap_map]

theorem closeRequested_not_mem_failedSpawns (fs : List (J × IoError)) (inline : Bool) :
    .closeRequested inline ∉ failedSpawns fs := by
  simp [failedSpawns]

/-- Of a started opening, the acceptance after the failed spawns alone started the thread. -/
theorem Started.spawned {es : List (Event J)} (h : Started es) :
    ∃ n, es.filterMap Event.spawned? = true :: List.replicate n false := by
  obtain ⟨fs, k, ks, rfl⟩ := h
  refine ⟨ks.length, ?_⟩
  simp [List.filterMap_map, List.map_const']

theorem Opening.spawned {es : List (Event J)} (h : Opening es) :
    es.filterMap Event.spawned? = [] ∨
      ∃ n, es.filterMap Event.spawned? = true :: List.replicate n false := by
  rcases h with ⟨fs, rfl⟩ | h
  · exact .inl (filterMap_spawned?_failedSpawns fs)
  · exact .inr h.spawned

namespace LogShape

variable {es : List (Event J)}

/-- A thread that cannot be made leaves the worker idle with one more failed spawn. -/
theorem spawnFail (h : LogShape .idle es) (k : J) (e : IoError) :
    LogShape .idle (es ++ [.refused k (.spawn e)]) := by
  obtain ⟨fs, rfl⟩ := h
  exact ⟨fs ++ [(k, e)], by simp [failedSpawns]⟩

theorem accept_idle (h : LogShape .idle es) (k : J) :
    LogShape .running (es ++ [.accepted k true]) := by
  obtain ⟨fs, rfl⟩ := h
  exact ⟨fs, k, [], by simp⟩

theorem accept_running (h : LogShape .running es) (k : J) :
    LogShape .running (es ++ [.accepted k false]) := by
  obtain ⟨fs, k₀, ks, rfl⟩ := h
  exact ⟨fs, k₀, ks ++ [k], by simp⟩

/-- The shape of a closed queue's log, whichever closed state it is in. -/
theorem closed_iff {st : WorkerState} (hst : st = .draining ∨ st = .terminated) :
    LogShape st es ↔ ∃ (pre : List (Event J)) (inline : Bool) (ks : List J),
      es = pre ++ .closeRequested inline ::
        ks.map (Event.refused · (.spawn JobQueue.shuttingDown)) ∧
      Opening pre := by
  rcases hst with rfl | rfl <;> rfl

theorem refuse {st : WorkerState} (hst : st = .draining ∨ st = .terminated)
    (h : LogShape st es) (k : J) :
    LogShape st (es ++ [.refused k (.spawn JobQueue.shuttingDown)]) := by
  obtain ⟨pre, inline, ks, rfl, hpre⟩ := (closed_iff hst).1 h
  exact (closed_iff hst).2 ⟨pre, inline, ks ++ [k], by simp, hpre⟩

theorem close_running (h : LogShape .running es) (inline : Bool) :
    LogShape .draining (es ++ [.closeRequested inline]) :=
  ⟨es, inline, [], by simp, .inr h⟩

theorem close_idle (h : LogShape .idle es) (inline : Bool) :
    LogShape .terminated (es ++ [.closeRequested inline]) :=
  ⟨es, inline, [], by simp, .inl h⟩

/-- Whatever the state, the acceptances that open the log start the thread once. -/
theorem spawned {st : WorkerState} (h : LogShape st es) :
    es.filterMap Event.spawned? = [] ∨
      ∃ n, es.filterMap Event.spawned? = true :: List.replicate n false := by
  cases st with
  | idle =>
    obtain ⟨fs, rfl⟩ := h
    exact .inl (filterMap_spawned?_failedSpawns fs)
  | running => exact .inr (Started.spawned h)
  | draining | terminated =>
    obtain ⟨pre, inline, ks, rfl, hpre⟩ := h
    simpa [List.filterMap_map] using hpre.spawned

/-- A running queue's log was opened by an acceptance. -/
theorem accepted_ne_nil_of_running (h : LogShape .running es) :
    es.filterMap Event.accepted? ≠ [] := by
  obtain ⟨fs, k, ks, rfl⟩ := h
  simp

/-- Before the close the log holds no close request. -/
theorem not_closeRequested_of_open {st : WorkerState} (hst : st = .idle ∨ st = .running)
    (h : LogShape st es) (inline : Bool) : .closeRequested inline ∉ es := by
  rcases hst with rfl | rfl
  · obtain ⟨fs, rfl⟩ := h
    exact closeRequested_not_mem_failedSpawns fs inline
  · obtain ⟨fs, k, ks, rfl⟩ := h
    simp [closeRequested_not_mem_failedSpawns]

end LogShape

/-- What one step does to the queue's life: the state it moves the worker to, the lifecycle
event it logs, and whether it starts the worker thread. -/
inductive LifeStep (s s' : Sys J) : Prop
  | quiet (hst : s'.queue.state = s.queue.state)
      (hlog : s'.log.filter Event.isLifecycle = s.log.filter Event.isLifecycle)
      (hw : s'.worker = .unborn ↔ s.worker = .unborn)
  | start (k : J) (hst : s.queue.state = .idle) (hst' : s'.queue.state = .running)
      (hlog : s'.log.filter Event.isLifecycle =
        s.log.filter Event.isLifecycle ++ [.accepted k true])
      (hw : s'.worker ≠ .unborn)
  | spawnFail (k : J) (e : IoError) (hst : s.queue.state = .idle) (hst' : s'.queue.state = .idle)
      (hlog : s'.log.filter Event.isLifecycle =
        s.log.filter Event.isLifecycle ++ [.refused k (.spawn e)])
      (hw : s'.worker = .unborn ↔ s.worker = .unborn)
  | accept (k : J) (hst : s.queue.state = .running) (hst' : s'.queue.state = .running)
      (hlog : s'.log.filter Event.isLifecycle =
        s.log.filter Event.isLifecycle ++ [.accepted k false])
      (hw : s'.worker = .unborn ↔ s.worker = .unborn)
  | refuse (k : J) (hst : s.queue.state = .draining ∨ s.queue.state = .terminated)
      (hst' : s'.queue.state = s.queue.state)
      (hlog : s'.log.filter Event.isLifecycle =
        s.log.filter Event.isLifecycle ++ [.refused k (.spawn JobQueue.shuttingDown)])
      (hw : s'.worker = .unborn ↔ s.worker = .unborn)
  | close (inline : Bool) (hst : s.queue.state = .running) (hst' : s'.queue.state = .draining)
      (hlog : s'.log.filter Event.isLifecycle =
        s.log.filter Event.isLifecycle ++ [.closeRequested inline])
      (hw : s'.worker = .unborn ↔ s.worker = .unborn)
  | closeIdle (hst : s.queue.state = .idle) (hst' : s'.queue.state = .terminated)
      (hlog : s'.log.filter Event.isLifecycle =
        s.log.filter Event.isLifecycle ++ [.closeRequested false])
      (hw : s'.worker = .unborn ↔ s.worker = .unborn)
  | finish (hst : s.queue.state = .draining) (hst' : s'.queue.state = .terminated)
      (hlog : s'.log.filter Event.isLifecycle = s.log.filter Event.isLifecycle)
      (hw : s'.worker = .unborn ↔ s.worker = .unborn)

namespace LifeStep

variable {s s' : Sys J}

/-- The state moves as the lifecycle allows. -/
theorem advance (h : LifeStep s s') : s.queue.state.Advance s'.queue.state := by
  cases h with
  | quiet hst => exact hst ▸ .stay _
  | start _ hst hst' => exact hst ▸ hst' ▸ .start
  | spawnFail _ _ hst hst' => exact hst ▸ hst' ▸ .stay _
  | accept _ hst hst' => exact hst ▸ hst' ▸ .stay _
  | refuse _ _ hst' => exact hst' ▸ .stay _
  | close _ hst hst' => exact hst ▸ hst' ▸ .close
  | closeIdle hst hst' => exact hst ▸ hst' ▸ .closeIdle
  | finish hst hst' => exact hst ▸ hst' ▸ .finish

end LifeStep

namespace Sys

variable {s s' : Sys J}

theorem lifeStep_submit (k : J) (spawn : Except IoError Unit) : LifeStep s (s.submit k spawn) := by
  rcases hst : s.queue.state
  · cases spawn with
    | error e =>
      rw [Sys.submit_of_spawn_failure hst]
      exact .spawnFail k e hst hst (by simp) .rfl
    | ok u =>
      rw [Sys.submit, JobQueue.accept_of_idle hst]
      exact .start k hst rfl (by simp) (by simp)
  · rw [Sys.submit, JobQueue.accept_of_running hst]
    exact .accept k hst hst (by simp) (by simp)
  all_goals
    rw [Sys.submit_of_closed (by simp [hst])]
    exact .refuse k (by simp [hst]) rfl (by simp) .rfl

theorem lifeStep_pushPending {i : Nat} (hs : s.pushPending i = some s') : LifeStep s s' := by
  unfold Sys.pushPending at hs
  split at hs
  · cases hs
  · cases hs
    exact .quiet rfl (by simp) .rfl

theorem lifeStep_close (hS : Stages s) (hs : s.close = some s') : LifeStep s s' := by
  unfold Sys.close at hs
  split at hs
  · cases hs
  · rename_i hok
    obtain ⟨hcl, -, -⟩ := Sys.canClose_eq_true.1 (by simpa using hok)
    rcases hst : s.queue.state
    · simp only [JobQueue.requestClose_of_idle hst] at hs
      cases hs
      exact .closeIdle hst rfl (by simp) (by simp)
    · simp only [JobQueue.requestClose_of_running hst] at hs
      cases hs
      exact .close false hst rfl (by simp) (by simp)
    all_goals
      have := hS.closing_iff.2 (by simp [hst])
      simp_all

theorem lifeStep_closerStep (hS : Stages s) (hs : s.closerStep = some s') : LifeStep s s' := by
  unfold Sys.closerStep at hs
  cases hc : s.closer <;> simp only [hc, reduceCtorEq] at hs
  · split at hs
    · cases hs
      exact .quiet rfl rfl .rfl
    · cases hs
  · cases hs
    exact .quiet rfl rfl .rfl
  · split at hs
    · cases hs
      exact .quiet rfl rfl .rfl
    · cases hs
  · -- marking the worker terminated ends the drain
    cases hs
    exact .finish (hS.mark_draining hc).1 rfl (by simp) .rfl

theorem lifeStep_workerStep (hS : Stages s) (hs : s.workerStep = some s') : LifeStep s s' := by
  cases hw : s.worker with
  | unborn | exited | callback => simp [Sys.workerStep, hw] at hs
  | loop =>
    simp only [Sys.workerStep, hw] at hs
    rcases hq : s.queue.jobs with _ | ⟨k, rest⟩
    · rw [JobQueue.pop_of_nil hq] at hs
      cases hcl : s.queue.closing <;> simp only [hcl] at hs <;> cases hs
      · exact .quiet rfl rfl (by simp [hw])
      · exact .quiet rfl rfl (by simp [hw])
    · rw [JobQueue.pop_of_cons hq] at hs
      cases hs
      exact .quiet rfl rfl (by simp [hw])
  | drain k =>
    simp only [Sys.workerStep, hw] at hs
    rcases hq : s.queue.jobs with _ | ⟨j, rest⟩
    · rw [JobQueue.pop_of_nil hq] at hs
      cases hs
      exact .quiet rfl rfl (by simp [hw])
    · rw [JobQueue.pop_of_cons hq] at hs
      cases hs
      exact .quiet rfl rfl (by simp [hw])
  | sleep =>
    simp only [Sys.workerStep, hw] at hs
    split at hs
    · cases hs
      exact .quiet rfl rfl (by simp [hw])
    · cases hs
  | idle | drainSignal _ | drainRelease _ =>
    simp only [Sys.workerStep, hw] at hs
    cases hs
    exact .quiet (by simp) rfl (by simp [hw])
  | leave | transfer _ _ | invoke _ _ | pushing _ _ _ =>
    simp only [Sys.workerStep, hw] at hs
    cases hs
    exact .quiet (by simp) (by simp) (by simp [hw])
  | drainMark k =>
    -- the inline shutdown marks the worker terminated
    simp only [Sys.workerStep, hw] at hs
    cases hs
    exact .finish (hS.inDrain_draining (by simp [hw])).1 (by simp) (by simp) (by simp [hw])

theorem lifeStep_finish {p : Bool} (hs : s.finish p = some s') : LifeStep s s' := by
  cases hw : s.worker <;> simp only [Sys.finish, hw, reduceCtorEq] at hs
  rename_i k o
  cases hs
  cases o <;> exact .quiet rfl (by simp) (by simp [hw])

theorem lifeStep_callbackSubmit (hS : Stages s) {k : J} {spawn : Except IoError Unit}
    (hs : s.callbackSubmit k spawn = some s') : LifeStep s s' := by
  cases hw : s.worker <;> simp only [Sys.callbackSubmit, hw, reduceCtorEq] at hs
  rename_i j o
  rcases hS.running_or_closed_of_active (by simp [hw]) with hst | hst
  · rw [JobQueue.accept_of_running hst] at hs
    cases hs
    exact .accept k hst hst (by simp) (by simp [hw])
  · rw [JobQueue.accept_of_closed hst] at hs
    cases hs
    exact .refuse k hst rfl (by simp) .rfl

theorem lifeStep_callbackClose (hS : Stages s) (hs : s.callbackClose = some s') :
    LifeStep s s' := by
  cases hw : s.worker <;> simp only [Sys.callbackClose, hw, reduceCtorEq] at hs
  rename_i k o
  cases o <;> simp only [reduceCtorEq] at hs
  split at hs
  · cases hs
  · rename_i hok
    obtain ⟨hcl, -, -⟩ := Sys.canClose_eq_true.1 (by simpa using hok)
    have hrun := hS.running_of_active (by simp [hw]) hcl
    rw [JobQueue.requestClose_of_running hrun] at hs
    cases hs
    exact .close true hrun rfl (by simp) (by simp [hw])

/-- Every step of every thread is one of the lifecycle's moves. -/
theorem lifeStep_of_step (hS : Stages s) {a : Action J} (hs : s.step a = some s') :
    LifeStep s s' := by
  cases a with
  | submit k spawn => cases hs; exact lifeStep_submit k spawn
  | push i => exact lifeStep_pushPending hs
  | close => exact lifeStep_close hS hs
  | closer => exact lifeStep_closerStep hS hs
  | worker => exact lifeStep_workerStep hS hs
  | finish p => exact lifeStep_finish hs
  | callbackSubmit k spawn => exact lifeStep_callbackSubmit hS hs
  | callbackClose => exact lifeStep_callbackClose hS hs

end Sys

/-- What the log shows of the queue's life agrees with the worker's state, and the worker
thread was started exactly when a submission was accepted. -/
structure History (s : Sys J) : Prop where
  shape : LogShape s.queue.state (s.log.filter Event.isLifecycle)
  unborn_iff : s.worker = .unborn ↔ s.log.filterMap Event.accepted? = []

namespace History

variable {s s' : Sys J}

/-- Acceptances are lifecycle events. -/
theorem accepted_eq (s : Sys J) :
    s.log.filterMap Event.accepted? = (s.log.filter Event.isLifecycle).filterMap Event.accepted? :=
  (Event.filterMap_filter_isLifecycle (fun e he => by cases e <;> simp_all) _).symm

theorem initial : History (Sys.initial : Sys J) :=
  ⟨⟨[], rfl⟩, by simp [Sys.initial]⟩

/-- A step that logs no acceptance keeps the thread's birth in step with the acceptances. -/
theorem unborn_iff_of_log (h : History s) (es : List (Event J))
    (hlog : s'.log.filter Event.isLifecycle = s.log.filter Event.isLifecycle ++ es)
    (hes : es.filterMap Event.accepted? = []) (hw : s'.worker = .unborn ↔ s.worker = .unborn) :
    s'.worker = .unborn ↔ s'.log.filterMap Event.accepted? = [] := by
  rw [hw, accepted_eq, hlog, List.filterMap_append, hes, List.append_nil, ← accepted_eq]
  exact h.unborn_iff

theorem step (h : History s) (hl : LifeStep s s') : History s' := by
  have hsh := h.shape
  cases hl with
  | quiet hst hlog hw =>
    refine ⟨by rw [hst, hlog]; exact hsh, h.unborn_iff_of_log [] (by simp [hlog]) rfl hw⟩
  | start k hst hst' hlog hw =>
    rw [hst] at hsh
    refine ⟨by rw [hst', hlog]; exact hsh.accept_idle k, ?_⟩
    rw [accepted_eq, hlog]
    simp [hw]
  | spawnFail k e hst hst' hlog hw =>
    rw [hst] at hsh
    exact ⟨by rw [hst', hlog]; exact hsh.spawnFail k e, h.unborn_iff_of_log _ hlog (by simp) hw⟩
  | accept k hst hst' hlog hw =>
    -- a running worker was started by the first acceptance
    rw [hst] at hsh
    have hborn : s.worker ≠ .unborn := fun hu =>
      hsh.accepted_ne_nil_of_running (by rw [← accepted_eq]; exact h.unborn_iff.1 hu)
    refine ⟨by rw [hst', hlog]; exact hsh.accept_running k, ?_⟩
    rw [accepted_eq, hlog]
    simp [hw, hborn]
  | refuse k hst hst' hlog hw =>
    exact ⟨by rw [hst', hlog]; exact hsh.refuse hst k, h.unborn_iff_of_log _ hlog (by simp) hw⟩
  | close inline hst hst' hlog hw =>
    rw [hst] at hsh
    exact ⟨by rw [hst', hlog]; exact hsh.close_running inline,
      h.unborn_iff_of_log _ hlog (by simp) hw⟩
  | closeIdle hst hst' hlog hw =>
    rw [hst] at hsh
    exact ⟨by rw [hst', hlog]; exact hsh.close_idle false, h.unborn_iff_of_log _ hlog (by simp) hw⟩
  | finish hst hst' hlog hw =>
    rw [hst] at hsh
    exact ⟨by rw [hst', hlog]; exact hsh, h.unborn_iff_of_log [] (by simp [hlog]) rfl hw⟩

end History

theorem Reachable.history {s : Sys J} (h : Reachable s) : History s := by
  induction h with
  | initial => exact History.initial
  | step a hr hs ih => exact ih.step (Sys.lifeStep_of_step hr.stages hs)

/-- Along every run from a reachable state the worker's state only moves forward. -/
theorem Reachable.rank_le_of_run {s s' : Sys J} (h : Reachable s) {as : List (Action J)}
    (hr : s.run as = some s') : s.queue.state.rank ≤ s'.queue.state.rank := by
  -- induction on the run; each step is one of the lifecycle's moves
  induction as generalizing s with
  | nil =>
    simp only [Sys.run, Option.some.injEq] at hr
    exact hr ▸ Nat.le_refl _
  | cons a as ih =>
    simp only [Sys.run, Option.bind_eq_some_iff] at hr
    obtain ⟨t, ht, hr⟩ := hr
    exact Nat.le_trans (Sys.lifeStep_of_step h.stages ht).advance.rank_le (ih (.step a h ht) hr)

theorem History.closed_of_closeRequested {s : Sys J} (h : History s) {inline : Bool}
    (hm : .closeRequested inline ∈ s.log) :
    s.queue.state = .draining ∨ s.queue.state = .terminated := by
  have hm' : .closeRequested inline ∈ s.log.filter Event.isLifecycle := by simpa using hm
  have hsh := h.shape
  rcases hst : s.queue.state
  · rw [hst] at hsh
    exact absurd hm' (hsh.not_closeRequested_of_open (.inl rfl) inline)
  · rw [hst] at hsh
    exact absurd hm' (hsh.not_closeRequested_of_open (.inr rfl) inline)
  · exact .inl rfl
  · exact .inr rfl

/-- The worker's lifecycle in every reachable state: it only moves forward; one thread is made,
by the first submission whose thread could be made, a failed spawn leaving the worker idle; and
once the close began every submission is refused with nothing queued. -/
theorem Reachable.lifecycle_invariant {s : Sys J} (h : Reachable s) :
    (∀ (a : Action J) (s' : Sys J), s.step a = some s' →
      s.queue.state.Advance s'.queue.state) ∧
    (∀ (as : List (Action J)) (s' : Sys J), s.run as = some s' →
      s.queue.state.rank ≤ s'.queue.state.rank) ∧
    LogShape s.queue.state (s.log.filter Event.isLifecycle) ∧
    (s.log.filterMap Event.spawned? = [] ∨
      ∃ n, s.log.filterMap Event.spawned? = true :: List.replicate n false) ∧
    (s.worker = .unborn ↔ s.log.filterMap Event.accepted? = []) ∧
    (s.queue.jobs ≠ [] → s.queue.state = .running ∨ s.queue.state = .draining) ∧
    (s.queue.closing = true ↔ s.queue.state = .draining ∨ s.queue.state = .terminated) ∧
    (∀ inline, .closeRequested inline ∈ s.log →
      s.queue.state = .draining ∨ s.queue.state = .terminated) ∧
    (s.queue.state = .idle →
      ∀ k e, s.submit k (.error e) = s.record (.refused k (.spawn e))) ∧
    (s.queue.state = .draining ∨ s.queue.state = .terminated →
      ∀ k spawn, s.submit k spawn = s.record (.refused k (.spawn JobQueue.shuttingDown))) := by
  have hH := h.history
  have hspawn : s.log.filterMap Event.spawned? =
      (s.log.filter Event.isLifecycle).filterMap Event.spawned? :=
    (Event.filterMap_filter_isLifecycle (fun e he => by cases e <;> simp_all) _).symm
  refine ⟨fun a s' hs => (Sys.lifeStep_of_step h.stages hs).advance,
    fun as s' hr => h.rank_le_of_run hr, hH.shape, ?_, hH.unborn_iff, h.queued.jobs_live,
    h.stages.closing_iff, fun inline hm => hH.closed_of_closeRequested hm,
    fun hst k e => Sys.submit_of_spawn_failure hst k e,
    fun hst k spawn => Sys.submit_of_closed hst k spawn⟩
  rw [hspawn]
  exact hH.shape.spawned

/-- A submission whose thread cannot be made, a second one that starts the worker, its push,
the close, then a submission the closed queue refuses. -/
theorem lifecycle_invariant_after_refusal :
    ∃ s : Sys Nat, Sys.initial.run [.submit 1 (.error (.os .eagain)), .submit 2 (.ok ()),
      .push 0, .close, .submit 3 (.ok ())] = some s ∧
    (∀ (a : Action Nat) (s' : Sys Nat), s.step a = some s' →
      s.queue.state.Advance s'.queue.state) ∧
    (∀ (as : List (Action Nat)) (s' : Sys Nat), s.run as = some s' →
      s.queue.state.rank ≤ s'.queue.state.rank) ∧
    LogShape s.queue.state (s.log.filter Event.isLifecycle) ∧
    (s.log.filterMap Event.spawned? = [] ∨
      ∃ n, s.log.filterMap Event.spawned? = true :: List.replicate n false) ∧
    (s.worker = .unborn ↔ s.log.filterMap Event.accepted? = []) ∧
    (s.queue.jobs ≠ [] → s.queue.state = .running ∨ s.queue.state = .draining) ∧
    (s.queue.closing = true ↔ s.queue.state = .draining ∨ s.queue.state = .terminated) ∧
    (∀ inline, .closeRequested inline ∈ s.log →
      s.queue.state = .draining ∨ s.queue.state = .terminated) ∧
    (s.queue.state = .idle →
      ∀ k e, s.submit k (.error e) = s.record (.refused k (.spawn e))) ∧
    (s.queue.state = .draining ∨ s.queue.state = .terminated →
      ∀ k spawn, s.submit k spawn = s.record (.refused k (.spawn JobQueue.shuttingDown))) := by
  obtain ⟨s, hr⟩ : ∃ s, (Sys.initial : Sys Nat).run [.submit 1 (.error (.os .eagain)),
      .submit 2 (.ok ()), .push 0, .close, .submit 3 (.ok ())] = some s := ⟨_, rfl⟩
  exact ⟨s, hr, Reachable.lifecycle_invariant (Reachable.run .initial hr)⟩

-- a thread that cannot be made leaves the worker idle, and the next submission starts it
example :
    ∃ s : Sys Nat, Sys.initial.run [.submit 1 (.error (.os .eagain)), .submit 2 (.ok ())] =
      some s ∧ s.log = [.refused 1 (.spawn (.os .eagain)), .accepted 2 true] ∧
      s.queue.state = .running := ⟨_, rfl, rfl, rfl⟩

end WorkerProtocol
end Descriptors
