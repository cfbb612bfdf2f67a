import Mathlib.Data.List.Perm.Basic
import Descriptors.WorkerProtocol
/-! # The invariant of the worker protocol

What holds in every state that some interleaving reaches: the worker's lifecycle agrees with
the queue's flags and with what the log shows of submissions and of the close; every job is
accounted for, in push order, as transferred, held by the worker or still queued; and the
`drained` flag, which a shutdown on another thread waits for, holds only once the worker has
nothing left in hand. Each step of each thread keeps it. -/
namespace Descriptors

/-- Reporting the queue empty sets `drained` only on an empty queue. -/
theorem JobQueue.signalEmpty_drained_empty {J : Type} {q : JobQueue J}
    (h : q.drained = true → q.jobs = []) :
    q.signalEmpty.drained = true → q.signalEmpty.jobs = [] := by
  simp only [drained_signalEmpty, jobs_signalEmpty, Bool.or_eq_true, List.isEmpty_iff]
  rintro (hd | hj)
  · exact h hd
  · exact hj

namespace WorkerProtocol

variable {J : Type}

namespace Event

def pushed? : Event J → Option J
  | pushed k => some k
  | _ => none
attribute [simp] pushed?.eq_1 pushed?.eq_2

def transferred? : Event J → Option J
  | transferred k => some k
  | _ => none
attribute [simp] transferred?.eq_1 transferred?.eq_2

def invoked? : Event J → Option J
  | invoked k => some k
  | _ => none
attribute [simp] invoked?.eq_1 invoked?.eq_2

def finished? : Event J → Option J
  | finished k _ => some k
  | _ => none
attribute [simp] finished?.eq_1 finished?.eq_2

def accepted? : Event J → Option J
  | accepted k _ => some k
  | _ => none
attribute [simp] accepted?.eq_1 accepted?.eq_2

/-- The events of the queue's life: acceptances, refusals and the close. -/
def isLifecycle : Event J → Bool
  | accepted .. | refused .. | closeRequested _ => true
  | _ => false
attribute [simp] isLifecycle.eq_1 isLifecycle.eq_2 isLifecycle.eq_3 isLifecycle.eq_4

end Event

namespace Pc

/-- The job popped whose transfer has not run yet. -/
def taken : Pc J → List J
  | transfer k _ => [k]
  | _ => []
attribute [simp] taken.eq_1 taken.eq_2

/-- The job whose transfer ran and whose callback is not invoked yet. -/
def fresh : Pc J → List J
  | invoke k _ => [k]
  | _ => []
attribute [simp] fresh.eq_1 fresh.eq_2

/-- The callbacks running on the worker thread, outermost first. -/
def active : Pc J → List J
  | transfer _ o | invoke _ o => o.toList
  | callback k o | pushing k o _ => o.toList ++ [k]
  | drain k | drainSignal k | drainRelease k | drainMark k => [k]
  | _ => []
attribute [simp] active.eq_1 active.eq_2 active.eq_3 active.eq_4 active.eq_5 active.eq_6
  active.eq_7 active.eq_8 active.eq_9

/-- The job a callback got accepted and has not pushed yet. -/
def submitting : Pc J → List J
  | pushing _ _ new => [new]
  | _ => []
attribute [simp] submitting.eq_1 submitting.eq_2

/-- Whether the loop holds a job: popped, transferred, or in its callback. -/
def holdsJob : Pc J → Bool
  | transfer _ o | invoke _ o | callback _ o | pushing _ o _ => o.isNone
  | _ => false
attribute [simp] holdsJob.eq_1 holdsJob.eq_2 holdsJob.eq_3 holdsJob.eq_4 holdsJob.eq_5

/-- Whether the thread is inside the inline drain of a shutdown. -/
def inDrain : Pc J → Bool
  | transfer _ o | invoke _ o | callback _ o | pushing _ o _ => o.isSome
  | drain _ | drainSignal _ | drainRelease _ | drainMark _ => true
  | _ => false
attribute [simp] inDrain.eq_1 inDrain.eq_2 inDrain.eq_3 inDrain.eq_4 inDrain.eq_5 inDrain.eq_6
  inDrain.eq_7 inDrain.eq_8 inDrain.eq_9

/-- Whether the inline drain found the queue empty. -/
def drainTail : Pc J → Bool
  | drainSignal _ | drainRelease _ | drainMark _ => true
  | _ => false
attribute [simp] drainTail.eq_1 drainTail.eq_2 drainTail.eq_3 drainTail.eq_4

/-- Whether the thread holds no job and runs no callback. -/
def isQuiet : Pc J → Bool
  | unborn | loop | idle | sleep | leave | exited => true
  | _ => false
attribute [simp] isQuiet.eq_1 isQuiet.eq_2 isQuiet.eq_3 isQuiet.eq_4 isQuiet.eq_5 isQuiet.eq_6
  isQuiet.eq_7

attribute [simp] isExited.eq_1 isExited.eq_2 isPushing.eq_1 isPushing.eq_2

theorem inDrain_of_drainTail {w : Pc J} (h : w.drainTail = true) : w.inDrain = true := by
  cases w <;> simp_all

/-- A quiet thread holds no job of the loop and drains nothing inline, and conversely. -/
theorem isQuiet_iff {w : Pc J} : w.isQuiet = true ↔ w.holdsJob = false ∧ w.inDrain = false := by
  cases w with
  | transfer _ o | invoke _ o | callback _ o | pushing _ o _ => cases o <;> simp
  | _ => simp

theorem isQuiet_of_parked {w : Pc J} (h : w.isExited = true ∨ w = .unborn) :
    w.isQuiet = true := by
  rcases h with h | rfl
  · cases w <;> simp_all
  · rfl

theorem taken_fresh_of_isQuiet {w : Pc J} (h : w.isQuiet = true) : w.taken = [] ∧ w.fresh = [] := by
  cases w <;> simp_all

end Pc

/-- A refused submission only logs the refusal. -/
theorem Sys.submit_of_refused {s : Sys J} {k : J} {spawn : Except IoError Unit} {e : Error}
    (h : s.queue.accept spawn = .error e) : s.submit k spawn = s.record (.refused k e) := by
  rw [Sys.submit, h]

/-- After the close every submission is refused as a failed spawn, and nothing else changes. -/
theorem Sys.submit_of_closed {s : Sys J}
    (hst : s.queue.state = .draining ∨ s.queue.state = .terminated)
    (k : J) (spawn : Except IoError Unit) :
    s.submit k spawn = s.record (.refused k (.spawn JobQueue.shuttingDown)) :=
  Sys.submit_of_refused (JobQueue.accept_of_closed hst spawn)

/-- Before any thread was made, a submission whose thread cannot be made is refused with the
spawn's error, and nothing else changes. -/
theorem Sys.submit_of_spawn_failure {s : Sys J} (hst : s.queue.state = .idle) (k : J)
    (e : IoError) : s.submit k (.error e) = s.record (.refused k (.spawn e)) :=
  Sys.submit_of_refused (JobQueue.accept_of_spawn_failure hst e)

theorem Sys.canClose_eq_true {s : Sys J} : s.canClose = true ↔
    s.queue.closing = false ∧ s.pending = [] ∧ s.worker.isPushing = false := by
  simp [Sys.canClose, and_assoc]

/-- How the threads' positions agree with the queue's lifecycle flags. -/
structure Stages (s : Sys J) : Prop where
  closing_iff : s.queue.closing = true ↔ s.queue.state = .draining ∨ s.queue.state = .terminated
  submitting_running : s.pending ≠ [] ∨ s.worker.isPushing = true → s.queue.state = .running
  idle_unborn : s.queue.state = .idle → s.worker = .unborn
  running_thread : s.queue.state = .running → s.queue.thread = true
  inDrain_draining : s.worker.inDrain = true → s.queue.state = .draining ∧ s.closer = .idle
  waitEmpty_draining : s.closer = .waitEmpty → s.queue.state = .draining ∧ s.queue.thread = true
  take_draining : s.closer = .take → s.queue.state = .draining ∧ s.queue.thread = true
  join_draining : s.closer = .join → s.queue.state = .draining
  mark_draining : s.closer = .mark → s.queue.state = .draining ∧ s.worker.isExited = true
  done_terminated : s.closer = .done → s.queue.state = .terminated
  open_closer_idle : s.queue.closing = false → s.closer = .idle

namespace Stages

variable {s s' : Sys J}

theorem initial : Stages (Sys.initial : Sys J) := by
  constructor <;> simp [Sys.initial, JobQueue.new]

/-- The log is no part of the stages. -/
theorem record (h : Stages s) (e : Event J) : Stages (s.record e) :=
  ⟨h.1, h.2, h.3, h.4, h.5, h.6, h.7, h.8, h.9, h.10, h.11⟩

/-- A step of the worker thread that keeps the queue's flags, starts no push outside `running`,
enters no drain and leaves no exit keeps the stages. -/
theorem move (h : Stages s) {q : JobQueue J} {w : Pc J} (hborn : s.worker ≠ .unborn)
    (hst : q.state = s.queue.state) (hcl : q.closing = s.queue.closing)
    (hth : q.thread = s.queue.thread) (hpush : w.isPushing = true → s.queue.state = .running)
    (hdrain : w.inDrain = true → s.worker.inDrain = true)
    (hexit : s.worker.isExited = true → w.isExited = true) :
    Stages { s with queue := q, worker := w } where
  closing_iff := by simpa [hst, hcl] using h.closing_iff
  submitting_running := by
    rintro (hp | hp)
    · simpa [hst] using h.submitting_running (.inl hp)
    · simpa [hst] using hpush hp
  idle_unborn := fun hi => absurd (h.idle_unborn (hst ▸ hi)) hborn
  running_thread := by simpa [hst, hth] using h.running_thread
  inDrain_draining := fun hd => by simpa [hst] using h.inDrain_draining (hdrain hd)
  waitEmpty_draining := by simpa [hst, hth] using h.waitEmpty_draining
  take_draining := by simpa [hst, hth] using h.take_draining
  join_draining := by simpa [hst] using h.join_draining
  mark_draining := fun hm => by
    obtain ⟨hd, he⟩ := h.mark_draining hm
    exact ⟨hst ▸ hd, hexit he⟩
  done_terminated := by simpa [hst] using h.done_terminated
  open_closer_idle := by simpa [hcl] using h.open_closer_idle

/-- Nothing is closing while the worker is idle or running, and the shutdown on another thread
has not started. -/
theorem open_of_live (h : Stages s) (hst : s.queue.state = .idle ∨ s.queue.state = .running) :
    s.queue.closing = false ∧ s.closer = .idle := by
  have hcl : s.queue.closing = false := by
    cases hc : s.queue.closing
    · rfl
    · rcases h.closing_iff.1 hc with h' | h' <;> rcases hst with h'' | h'' <;> simp_all
  exact ⟨hcl, h.open_closer_idle hcl⟩

theorem submit (h : Stages s) (k : J) (spawn : Except IoError Unit) :
    Stages (s.submit k spawn) := by
  rcases hst : s.queue.state
  · cases spawn with
    | error e =>
      rw [Sys.submit_of_spawn_failure hst]
      exact h.record _
    | ok u =>
      -- the first submission whose thread is made starts the worker
      obtain ⟨hcl, hc⟩ := h.open_of_live (.inl hst)
      rw [Sys.submit, JobQueue.accept_of_idle hst]
      refine Stages.record ?_ _
      constructor <;> simp [hcl, hc]
  · rw [Sys.submit, JobQueue.accept_of_running hst]
    refine Stages.record ?_ _
    exact { h with submitting_running := fun _ => hst }
  all_goals
    rw [Sys.submit_of_closed (by simp [hst])]
    exact h.record _

theorem pushPending (h : Stages s) {i : Nat} (hs : s.pushPending i = some s') : Stages s' := by
  unfold Sys.pushPending at hs
  split at hs
  · cases hs
  · rename_i k hk
    cases hs
    -- a submission still waiting to push means the worker is running
    have hrun : s.queue.state = .running :=
      h.submitting_running (.inl (List.ne_nil_of_mem (List.mem_of_getElem? hk)))
    refine Stages.record ?_ _
    exact { h with submitting_running := fun _ => hrun }

/-- Outside `running` no submission is half done. -/
theorem settled_of_not_running (h : Stages s) (hst : s.queue.state ≠ .running) :
    s.pending = [] ∧ s.worker.isPushing = false := by
  by_contra hne
  exact hst (h.submitting_running (by simpa [or_iff_not_imp_left] using hne))

/-- While the shutdown on another thread is under way the worker drains nothing inline. -/
theorem not_inDrain_of_closer (h : Stages s) (hc : s.closer ≠ .idle) :
    s.worker.inDrain = false := by
  cases hd : s.worker.inDrain
  · rfl
  · exact absurd (h.inDrain_draining hd).2 hc

theorem not_inDrain_of_state (h : Stages s) (hst : s.queue.state ≠ .draining) :
    s.worker.inDrain = false := by
  cases hd : s.worker.inDrain
  · rfl
  · exact absurd (h.inDrain_draining hd).1 hst

theorem not_drainTail_of_state (h : Stages s) (hst : s.queue.state ≠ .draining) :
    s.worker.drainTail = false := by
  cases hd : s.worker.drainTail
  · rfl
  · simpa [Pc.inDrain_of_drainTail hd] using h.not_inDrain_of_state hst

theorem close (h : Stages s) (hs : s.close = some s') : Stages s' := by
  unfold Sys.close at hs
  split at hs
  · cases hs
  · rename_i hok
    obtain ⟨hcl, hp, hpush⟩ := Sys.canClose_eq_true.1 (by simpa using hok)
    have hc := h.open_closer_idle hcl
    rcases hst : s.queue.state
    · -- an idle worker is terminated on the spot
      simp only [JobQueue.requestClose_of_idle hst] at hs
      cases hs
      refine Stages.record ?_ _
      constructor <;> simp [hp, h.idle_unborn hst]
    · -- a running worker starts draining and is awaited
      simp only [JobQueue.requestClose_of_running hst] at hs
      cases hs
      constructor <;> simp [hp, hpush, h.running_thread hst, h.not_inDrain_of_state (by simp [hst])]
    all_goals
      have := h.closing_iff.2 (by simp [hst])
      simp_all

theorem closerStep (h : Stages s) (hs : s.closerStep = some s') : Stages s' := by
  unfold Sys.closerStep at hs
  have hdr := h.not_inDrain_of_closer
  cases hc : s.closer <;> simp only [hc, reduceCtorEq] at hs hdr
  · -- `wait_empty` returned
    split at hs
    · cases hs
      obtain ⟨hd, ht⟩ := h.waitEmpty_draining hc
      constructor <;> simp [hd, ht, hdr, h.closing_iff.2 (.inl hd)]
      exact h.settled_of_not_running (by simp [hd])
    · cases hs
  · -- the join handle is taken; it is held, since the worker was started
    cases hs
    obtain ⟨hd, ht⟩ := h.take_draining hc
    constructor <;> simp [hd, ht, hdr, h.closing_iff.2 (.inl hd)]
    exact h.settled_of_not_running (by simp [hd])
  · split at hs
    · cases hs
      rename_i he
      have hd := h.join_draining hc
      constructor <;> simp [hd, he, hdr, h.closing_iff.2 (.inl hd)]
      exact h.settled_of_not_running (by simp [hd])
    · cases hs
  · -- the worker is marked terminated and the shutdown returns
    cases hs
    obtain ⟨hd, he⟩ := h.mark_draining hc
    refine Stages.record ?_ _
    constructor <;> simp [he, hdr, h.closing_iff.2 (.inl hd)]
    exact h.settled_of_not_running (by simp [hd])

theorem workerStep (h : Stages s) (hs : s.workerStep = some s') : Stages s' := by
  cases hw : s.worker with
  | unborn | exited | callback => simp [Sys.workerStep, hw] at hs
  | loop =>
    simp only [Sys.workerStep, hw] at hs
    rcases hq : s.queue.jobs with _ | ⟨k, rest⟩
    · rw [JobQueue.pop_of_nil hq] at hs
      cases hcl : s.queue.closing <;> simp only [hcl] at hs <;> cases hs
      · exact h.move (by simp [hw]) rfl rfl rfl (by simp) (by simp) (by simp [hw])
      · exact h.move (by simp [hw]) rfl rfl rfl (by simp) (by simp) (by simp [hw])
    · rw [JobQueue.pop_of_cons hq] at hs
      cases hs
      exact h.move (by simp [hw]) rfl rfl rfl (by simp) (by simp) (by simp [hw])
  | idle =>
    simp only [Sys.workerStep, hw] at hs
    cases hs
    exact h.move (by simp [hw]) (by simp) (by simp) (by simp) (by simp) (by simp) (by simp [hw])
  | sleep =>
    simp only [Sys.workerStep, hw] at hs
    split at hs
    · cases hs
      exact h.move (q := s.queue) (by simp [hw]) rfl rfl rfl (by simp) (by simp) (by simp [hw])
    · cases hs
  | leave =>
    simp only [Sys.workerStep, hw] at hs
    cases hs
    refine Stages.record ?_ _
    exact h.move (by simp [hw]) (by simp) (by simp) (by simp) (by simp) (by simp) (by simp [hw])
  | transfer k o =>
    simp only [Sys.workerStep, hw] at hs
    cases hs
    refine Stages.record ?_ _
    exact h.move (q := s.queue) (by simp [hw]) rfl rfl rfl (by simp) (by simp [hw]) (by simp [hw])
  | invoke k o =>
    simp only [Sys.workerStep, hw] at hs
    cases hs
    refine Stages.record ?_ _
    exact h.move (q := s.queue) (by simp [hw]) rfl rfl rfl (by simp) (by simp [hw]) (by simp [hw])
  | pushing k o new =>
    simp only [Sys.workerStep, hw] at hs
    cases hs
    refine Stages.record ?_ _
    exact h.move (by simp [hw]) (by simp) (by simp) (by simp) (by simp) (by simp [hw])
      (by simp [hw])
  | drain k =>
    simp only [Sys.workerStep, hw] at hs
    rcases hq : s.queue.jobs with _ | ⟨j, rest⟩
    · rw [JobQueue.pop_of_nil hq] at hs
      cases hs
      exact h.move (by simp [hw]) rfl rfl rfl (by simp) (by simp [hw]) (by simp [hw])
    · rw [JobQueue.pop_of_cons hq] at hs
      cases hs
      exact h.move (by simp [hw]) rfl rfl rfl (by simp) (by simp [hw]) (by simp [hw])
  | drainSignal k =>
    simp only [Sys.workerStep, hw] at hs
    cases hs
    exact h.move (by simp [hw]) (by simp) (by simp) (by simp) (by simp) (by simp [hw])
      (by simp [hw])
  | drainRelease k =>
    -- the join handle is dropped: the thread flag goes down while draining
    simp only [Sys.workerStep, hw] at hs
    cases hs
    obtain ⟨hd, hc⟩ := h.inDrain_draining (by simp [hw])
    constructor <;> simp [hd, hc, h.closing_iff.2 (.inl hd)]
    exact h.settled_of_not_running (by simp [hd]) |>.1
  | drainMark k =>
    -- the inline shutdown marks the worker terminated and returns into the callback
    simp only [Sys.workerStep, hw] at hs
    cases hs
    obtain ⟨hd, hc⟩ := h.inDrain_draining (by simp [hw])
    refine Stages.record ?_ _
    constructor <;> simp [hc, h.closing_iff.2 (.inl hd)]
    exact h.settled_of_not_running (by simp [hd]) |>.1

/-- A callback runs on a started worker. -/
theorem not_idle_of_active (h : Stages s) (hw : s.worker.active ≠ []) : s.queue.state ≠ .idle :=
  fun hi => hw (by simp [h.idle_unborn hi])

/-- A callback finds the queue running or closed down, so `accept` either takes the job it
submits or refuses it. -/
theorem running_or_closed_of_active (h : Stages s) (hw : s.worker.active ≠ []) :
    s.queue.state = .running ∨ s.queue.state = .draining ∨ s.queue.state = .terminated := by
  rcases hst : s.queue.state
  · exact absurd hst (h.not_idle_of_active hw)
  all_goals simp

/-- A callback that may still close the queue finds it running: the close it requests starts
the drain inline. -/
theorem running_of_active (h : Stages s) (hw : s.worker.active ≠ [])
    (hcl : s.queue.closing = false) : s.queue.state = .running :=
  (h.running_or_closed_of_active hw).resolve_right fun hc => by
    simp [h.closing_iff.2 hc] at hcl

theorem finish (h : Stages s) {p : Bool} (hs : s.finish p = some s') : Stages s' := by
  cases hw : s.worker <;> simp only [Sys.finish, hw, reduceCtorEq] at hs
  rename_i k o
  cases hs
  refine Stages.record ?_ _
  cases o
  · exact h.move (q := s.queue) (by simp [hw]) rfl rfl rfl (by simp) (by simp) (by simp [hw])
  · exact h.move (q := s.queue) (by simp [hw]) rfl rfl rfl (by simp) (by simp [hw]) (by simp [hw])

theorem callbackSubmit (h : Stages s) {k : J} {spawn : Except IoError Unit}
    (hs : s.callbackSubmit k spawn = some s') : Stages s' := by
  cases hw : s.worker <;> simp only [Sys.callbackSubmit, hw, reduceCtorEq] at hs
  rename_i j o
  rcases h.running_or_closed_of_active (by simp [hw]) with hst | hst
  · -- accepted: the callback now stands between `accept` and `push`
    rw [JobQueue.accept_of_running hst] at hs
    cases hs
    refine Stages.record ?_ _
    exact h.move (by simp [hw]) rfl rfl rfl (fun _ => hst) (by simp [hw]) (by simp [hw])
  · rw [JobQueue.accept_of_closed hst] at hs
    cases hs
    exact h.record _

theorem callbackClose (h : Stages s) (hs : s.callbackClose = some s') : Stages s' := by
  cases hw : s.worker <;> simp only [Sys.callbackClose, hw, reduceCtorEq] at hs
  rename_i k o
  cases o <;> simp only [reduceCtorEq] at hs
  split at hs
  · cases hs
  · rename_i hok
    obtain ⟨hcl, hp, hpush⟩ := Sys.canClose_eq_true.1 (by simpa using hok)
    have hc := h.open_closer_idle hcl
    have hrun := h.running_of_active (by simp [hw]) hcl
    rw [JobQueue.requestClose_of_running hrun] at hs
    cases hs
    constructor <;> simp [hp, hc]

theorem step (h : Stages s) {a : Action J} (hs : s.step a = some s') : Stages s' := by
  cases a with
  | submit k spawn => cases hs; exact h.submit k spawn
  | push i => exact h.pushPending hs
  | close => exact h.close hs
  | closer => exact h.closerStep hs
  | worker => exact h.workerStep hs
  | finish p => exact h.finish hs
  | callbackSubmit k spawn => exact h.callbackSubmit hs
  | callbackClose => exact h.callbackClose hs

end Stages

/-- The end of a run from a reachable state is reachable. -/
theorem Reachable.run {s s' : Sys J} (h : Reachable s) {as : List (Action J)}
    (hr : s.run as = some s') : Reachable s' := by
  induction as generalizing s with
  | nil =>
    simp only [Sys.run, Option.some.injEq] at hr
    exact hr ▸ h
  | cons a as ih =>
    simp only [Sys.run, Option.bind_eq_some_iff] at hr
    obtain ⟨t, ht, hr⟩ := hr
    exact ih (.step a h ht) hr

theorem Reachable.stages {s : Sys J} (h : Reachable s) : Stages s := by
  induction h with
  | initial => exact Stages.initial
  | step a _ hs ih => exact ih.step hs

/-- How the queue's contents and its `drained` flag agree with the threads. `drained` is what a
shutdown on another thread waits for: it holds only once the queue is empty and no job taken by
the loop is still in hand, save the callback that ran the shutdown inline. -/
structure Queued (s : Sys J) : Prop where
  jobs_live : s.queue.jobs ≠ [] → s.queue.state = .running ∨ s.queue.state = .draining
  drained_empty : s.queue.drained = true → s.queue.jobs = []
  drained_holds : s.queue.drained = true → s.worker.holdsJob = true →
    s.queue.closing = true ∧ s.closer = .idle
  drainTail_empty : s.worker.drainTail = true → s.queue.jobs = []
  closer_quiet : s.closer = .take ∨ s.closer = .join →
    s.queue.jobs = [] ∧ s.worker.isQuiet = true
  closer_done : s.closer = .mark ∨ s.closer = .done →
    s.queue.jobs = [] ∧ (s.worker.isExited = true ∨ s.worker = .unborn)
  returned : .shutdownReturned ∈ s.log → s.queue.state = .terminated
  terminated_idle : s.queue.state = .terminated →
    s.queue.jobs = [] ∧ s.worker.taken = [] ∧ s.worker.fresh = []

namespace Queued

variable {s s' : Sys J}

theorem initial : Queued (Sys.initial : Sys J) := by
  constructor <;> simp [Sys.initial, JobQueue.new]

theorem record (h : Queued s) {e : Event J} (he : e ≠ .shutdownReturned) :
    Queued (s.record e) :=
  { h with returned := fun hm => h.returned (by simpa [Ne.symm he] using hm) }

theorem not_returned (h : Queued s) (hst : s.queue.state ≠ .terminated) :
    .shutdownReturned ∉ s.log :=
  fun hm => hst (h.returned hm)

theorem jobs_eq_nil (h : Queued s) (hst : s.queue.state = .idle ∨ s.queue.state = .terminated) :
    s.queue.jobs = [] := by
  by_contra hne
  rcases h.jobs_live hne with h' | h' <;> rcases hst with h'' | h'' <;> simp_all

/-- A queue that holds jobs has not been drained. -/
theorem not_drained (h : Queued s) (hne : s.queue.jobs ≠ []) : s.queue.drained = false := by
  by_contra hd
  exact hne (h.drained_empty (by simpa using hd))

/-- Outside a close nothing the loop holds can meet a drained queue. -/
theorem not_drained_holds (h : Queued s) (hcl : s.queue.closing = false) :
    s.queue.drained = false ∨ s.worker.holdsJob = false := by
  by_contra hc
  simp only [not_or, Bool.not_eq_false] at hc
  simp [(h.drained_holds hc.1 hc.2).1] at hcl

theorem submit (h : Queued s) (hS : Stages s) (k : J) (spawn : Except IoError Unit) :
    Queued (s.submit k spawn) := by
  rcases hst : s.queue.state
  · cases spawn with
    | error e =>
      rw [Sys.submit_of_spawn_failure hst]
      exact h.record (by simp)
    | ok u =>
      -- the worker is started on the first acceptance
      obtain ⟨hcl, hc⟩ := hS.open_of_live (.inl hst)
      rw [Sys.submit, JobQueue.accept_of_idle hst]
      have hj := h.jobs_eq_nil (.inl hst)
      have hr := h.not_returned (by simp [hst])
      constructor <;> simp [hj, hc, hr]
  · obtain ⟨hcl, hc⟩ := hS.open_of_live (.inr hst)
    rw [Sys.submit, JobQueue.accept_of_running hst]
    refine Queued.record ?_ (by simp)
    exact { h with }
  all_goals
    rw [Sys.submit_of_closed (by simp [hst])]
    exact h.record (by simp)

theorem pushPending (h : Queued s) (hS : Stages s) {i : Nat} (hs : s.pushPending i = some s') :
    Queued s' := by
  unfold Sys.pushPending at hs
  split at hs
  · cases hs
  · rename_i k hk
    cases hs
    have hrun : s.queue.state = .running :=
      hS.submitting_running (.inl (List.ne_nil_of_mem (List.mem_of_getElem? hk)))
    obtain ⟨-, hc⟩ := hS.open_of_live (.inr hrun)
    have hdt := hS.not_drainTail_of_state (by simp [hrun])
    refine Queued.record ?_ (by simp)
    constructor <;> simp [hrun, hc, hdt, h.not_returned (by simp [hrun])]

theorem close (h : Queued s) (hS : Stages s) (hs : s.close = some s') : Queued s' := by
  unfold Sys.close at hs
  split at hs
  · cases hs
  · rename_i hok
    obtain ⟨hcl, -, -⟩ := Sys.canClose_eq_true.1 (by simpa using hok)
    rcases hst : s.queue.state
    · -- nothing was ever accepted: the shutdown returns at once
      simp only [JobQueue.requestClose_of_idle hst] at hs
      cases hs
      have hj := h.jobs_eq_nil (.inl hst)
      constructor <;> simp [hj, hS.idle_unborn hst]
    · -- the worker is asked to drain; nothing it holds met a drained queue
      simp only [JobQueue.requestClose_of_running hst] at hs
      cases hs
      have hdh := h.not_drained_holds hcl
      have hr := h.not_returned (by simp [hst])
      exact { h with
        jobs_live := fun _ => .inr rfl
        drained_holds := fun hd hh => by rcases hdh with h' | h' <;> simp [h'] at hd hh
        closer_quiet := by simp
        closer_done := by simp
        returned := fun hm => absurd (by simpa using hm) hr
        terminated_idle := by simp }
    all_goals
      have := hS.closing_iff.2 (by simp [hst])
      simp_all

theorem closerStep (h : Queued s) (hS : Stages s) (hs : s.closerStep = some s') : Queued s' := by
  unfold Sys.closerStep at hs
  cases hc : s.closer <;> simp only [hc, reduceCtorEq] at hs
  · -- `wait_empty` returns on a flushed queue: the loop holds nothing and drains nothing inline
    split at hs
    · rename_i hf
      cases hs
      obtain ⟨hj, hd⟩ := (JobQueue.flushed_eq_true _).1 hf
      have hh : s.worker.holdsJob = false := by
        by_contra hh
        simpa [hc] using (h.drained_holds hd (by simpa using hh)).2
      have hq := Pc.isQuiet_iff.2 ⟨hh, hS.not_inDrain_of_closer (by simp [hc])⟩
      exact { h with
        drained_holds := fun _ hh' => by simp [hh] at hh'
        closer_quiet := fun _ => ⟨hj, hq⟩
        closer_done := by simp }
    · cases hs
  · -- the join handle is held, so the shutdown goes on to join
    cases hs
    simp only [JobQueue.fst_takeThread, (hS.take_draining hc).2, ↓reduceIte]
    obtain ⟨hj, hq⟩ := h.closer_quiet (.inl hc)
    exact { h with
      drained_holds := fun _ hh => by simp [(Pc.isQuiet_iff.1 hq).1] at hh
      closer_quiet := fun _ => ⟨hj, hq⟩
      closer_done := by simp }
  · split at hs
    · rename_i he
      cases hs
      obtain ⟨hj, hq⟩ := h.closer_quiet (.inr hc)
      exact { h with
        drained_holds := fun _ hh => by simp [(Pc.isQuiet_iff.1 hq).1] at hh
        closer_quiet := by simp
        closer_done := fun _ => ⟨hj, .inl he⟩ }
    · cases hs
  · -- the worker is marked terminated; it has exited, so it holds nothing
    cases hs
    obtain ⟨hj, he⟩ := h.closer_done (.inl hc)
    have hq := Pc.isQuiet_of_parked he
    exact { h with
      jobs_live := fun hne => absurd hj hne
      drained_holds := fun _ hh => by simp [(Pc.isQuiet_iff.1 hq).1] at hh
      closer_quiet := by simp
      closer_done := fun _ => ⟨hj, he⟩
      returned := fun _ => by simp
      terminated_idle := fun _ => ⟨hj, Pc.taken_fresh_of_isQuiet hq⟩ }

/-- A move of the worker thread into a quiet position that keeps the queue's contents and
lifecycle, and keeps `drained` to an empty queue. -/
theorem to_quiet (h : Queued s) {q : JobQueue J} {w : Pc J} (hjobs : q.jobs = s.queue.jobs)
    (hst : q.state = s.queue.state) (hdr : q.drained = true → q.jobs = [])
    (hw : w.isQuiet = true)
    (hpark : s.worker.isExited = true ∨ s.worker = .unborn → w.isExited = true ∨ w = .unborn) :
    Queued { s with queue := q, worker := w } where
  jobs_live := fun hne => hst ▸ h.jobs_live (hjobs ▸ hne)
  drained_empty := hdr
  drained_holds := fun _ hh => by simp [(Pc.isQuiet_iff.1 hw).1] at hh
  drainTail_empty := fun ht => by
    simpa [Pc.inDrain_of_drainTail ht] using (Pc.isQuiet_iff.1 hw).2
  closer_quiet := fun hc => ⟨hjobs ▸ (h.closer_quiet hc).1, hw⟩
  closer_done := fun hc => ⟨hjobs ▸ (h.closer_done hc).1, hpark (h.closer_done hc).2⟩
  returned := fun hm => hst ▸ h.returned hm
  terminated_idle := fun ht => ⟨hjobs ▸ (h.terminated_idle (hst ▸ ht)).1,
    Pc.taken_fresh_of_isQuiet hw⟩

/-- Inside the inline drain the shutdown on another thread never started and nothing returned. -/
theorem in_drain (h : Queued s) (hS : Stages s) {q : JobQueue J} {w : Pc J}
    (hd : s.worker.inDrain = true) (hst : q.state = .draining)
    (hdr : q.drained = true → q.jobs = [])
    (hholds : w.holdsJob = false) (htail : w.drainTail = true → q.jobs = []) :
    Queued { s with queue := q, worker := w } where
  jobs_live := fun _ => .inr hst
  drained_empty := hdr
  drained_holds := fun _ hh => by simp [hholds] at hh
  drainTail_empty := htail
  closer_quiet := by simp [(hS.inDrain_draining hd).2]
  closer_done := by simp [(hS.inDrain_draining hd).2]
  returned := fun hm => absurd (h.returned hm) (by simp [(hS.inDrain_draining hd).1])
  terminated_idle := by simp [hst]

theorem workerStep (h : Queued s) (hS : Stages s) (hs : s.workerStep = some s') : Queued s' := by
  cases hw : s.worker with
  | unborn | exited | callback => simp [Sys.workerStep, hw] at hs
  | loop =>
    simp only [Sys.workerStep, hw] at hs
    rcases hq : s.queue.jobs with _ | ⟨k, rest⟩
    · rw [JobQueue.pop_of_nil hq] at hs
      cases hcl : s.queue.closing <;> simp only [hcl] at hs <;> cases hs
      · exact h.to_quiet rfl rfl h.drained_empty rfl (by simp [hw])
      · exact h.to_quiet rfl rfl h.drained_empty rfl (by simp [hw])
    · -- a job is popped: the queue was not drained, and no shutdown is past `wait_empty`
      rw [JobQueue.pop_of_cons hq] at hs
      cases hs
      have hne : s.queue.jobs ≠ [] := by simp [hq]
      have hdr := h.not_drained hne
      exact { h with
        jobs_live := fun _ => h.jobs_live hne
        drained_empty := fun hd => by simp [hdr] at hd
        drained_holds := fun hd => by simp [hdr] at hd
        drainTail_empty := by simp
        closer_quiet := fun hc => absurd (h.closer_quiet hc).1 hne
        closer_done := fun hc => absurd (h.closer_done hc).1 hne
        terminated_idle := fun ht => absurd (h.terminated_idle ht).1 hne }
  | idle =>
    simp only [Sys.workerStep, hw] at hs
    cases hs
    exact h.to_quiet (by simp) (by simp) (JobQueue.signalEmpty_drained_empty h.drained_empty) rfl
      (by simp [hw])
  | sleep =>
    simp only [Sys.workerStep, hw] at hs
    split at hs
    · cases hs
      exact h.to_quiet (q := s.queue) rfl rfl h.drained_empty rfl (by simp [hw])
    · cases hs
  | leave =>
    simp only [Sys.workerStep, hw] at hs
    cases hs
    refine Queued.record ?_ (by simp)
    exact h.to_quiet (by simp) (by simp) (JobQueue.signalEmpty_drained_empty h.drained_empty) rfl
      (by simp [hw])
  | transfer k o =>
    -- a popped job is not quiet: no shutdown is past `wait_empty`, none returned
    simp only [Sys.workerStep, hw] at hs
    cases hs
    refine Queued.record ?_ (by simp)
    exact { h with
      drained_holds := fun hd hh => h.drained_holds hd (by simpa [hw] using hh)
      drainTail_empty := by simp
      closer_quiet := fun hc => absurd (h.closer_quiet hc).2 (by simp [hw])
      closer_done := fun hc => absurd (h.closer_done hc).2 (by simp [hw])
      terminated_idle := fun ht => absurd (h.terminated_idle ht).2.1 (by simp [hw]) }
  | invoke k o =>
    simp only [Sys.workerStep, hw] at hs
    cases hs
    refine Queued.record ?_ (by simp)
    exact { h with
      drained_holds := fun hd hh => h.drained_holds hd (by simpa [hw] using hh)
      drainTail_empty := by simp
      closer_quiet := fun hc => absurd (h.closer_quiet hc).2 (by simp [hw])
      closer_done := fun hc => absurd (h.closer_done hc).2 (by simp [hw])
      terminated_idle := fun ht => ⟨(h.terminated_idle ht).1, by simp, by simp⟩ }
  | pushing k o new =>
    -- a callback's push happens while the worker runs
    simp only [Sys.workerStep, hw] at hs
    cases hs
    have hrun := hS.submitting_running (.inr (by simp [hw]))
    have hc := (hS.open_of_live (.inr hrun)).2
    refine Queued.record ?_ (by simp)
    exact { h with
      jobs_live := fun _ => .inl hrun
      drained_empty := by simp
      drained_holds := by simp
      drainTail_empty := by simp
      closer_quiet := by simp [hc]
      closer_done := by simp [hc]
      terminated_idle := by simp [hrun] }
  | drain k =>
    simp only [Sys.workerStep, hw] at hs
    have hd : s.worker.inDrain = true := by simp [hw]
    have hst := (hS.inDrain_draining hd).1
    rcases hq : s.queue.jobs with _ | ⟨j, rest⟩
    · rw [JobQueue.pop_of_nil hq] at hs
      cases hs
      exact h.in_drain hS hd hst h.drained_empty (by simp) (fun _ => hq)
    · rw [JobQueue.pop_of_cons hq] at hs
      cases hs
      have hdr := h.not_drained (by simp [hq])
      exact h.in_drain hS hd hst (by simp [hdr]) (by simp) (by simp)
  | drainSignal k =>
    simp only [Sys.workerStep, hw] at hs
    cases hs
    have hd : s.worker.inDrain = true := by simp [hw]
    have hst := (hS.inDrain_draining hd).1
    exact h.in_drain hS hd (by simp [hst])
      (JobQueue.signalEmpty_drained_empty h.drained_empty) (by simp)
      (fun _ => by simpa using h.drainTail_empty (by simp [hw]))
  | drainRelease k =>
    simp only [Sys.workerStep, hw] at hs
    cases hs
    have hd : s.worker.inDrain = true := by simp [hw]
    have hst := (hS.inDrain_draining hd).1
    exact h.in_drain hS hd (by simp [hst]) (by simpa using h.drained_empty)
      (by simp) (fun _ => by simpa using h.drainTail_empty (by simp [hw]))
  | drainMark k =>
    -- the inline shutdown returns into the callback that called it, with the queue empty
    simp only [Sys.workerStep, hw] at hs
    cases hs
    obtain ⟨hst, hc⟩ := hS.inDrain_draining (by simp [hw])
    have hj := h.drainTail_empty (by simp [hw])
    exact { h with
      jobs_live := fun hne => absurd hj hne
      drained_holds := fun _ _ => ⟨hS.closing_iff.2 (.inl hst), hc⟩
      drainTail_empty := by simp
      closer_quiet := by simp [hc]
      closer_done := by simp [hc]
      returned := fun _ => by simp
      terminated_idle := fun _ => ⟨hj, by simp, by simp⟩ }

theorem finish (h : Queued s) (hS : Stages s) {p : Bool} (hs : s.finish p = some s') :
    Queued s' := by
  cases hw : s.worker <;> simp only [Sys.finish, hw, reduceCtorEq] at hs
  rename_i k o
  cases hs
  refine Queued.record ?_ (by simp)
  cases o
  · exact h.to_quiet (q := s.queue) rfl rfl h.drained_empty rfl (by simp [hw])
  · -- back to the inline drain the finished callback was run by
    have hd : s.worker.inDrain = true := by simp [hw]
    exact h.in_drain hS hd (hS.inDrain_draining hd).1 h.drained_empty (by simp)
      (by simp)

theorem callbackSubmit (h : Queued s) (hS : Stages s) {k : J} {spawn : Except IoError Unit}
    (hs : s.callbackSubmit k spawn = some s') : Queued s' := by
  cases hw : s.worker <;> simp only [Sys.callbackSubmit, hw, reduceCtorEq] at hs
  rename_i j o
  rcases hS.running_or_closed_of_active (by simp [hw]) with hst | hst
  · rw [JobQueue.accept_of_running hst] at hs
    cases hs
    have hc := (hS.open_of_live (.inr hst)).2
    refine Queued.record ?_ (by simp)
    exact { h with
      drained_holds := fun hd hh => h.drained_holds hd (by simpa [hw] using hh)
      drainTail_empty := by simp
      closer_quiet := by simp [hc]
      closer_done := by simp [hc]
      terminated_idle := by simp [hst] }
  · rw [JobQueue.accept_of_closed hst] at hs
    cases hs
    exact h.record (by simp)

theorem callbackClose (h : Queued s) (hS : Stages s) (hs : s.callbackClose = some s') :
    Queued s' := by
  cases hw : s.worker <;> simp only [Sys.callbackClose, hw, reduceCtorEq] at hs
  rename_i k o
  cases o <;> simp only [reduceCtorEq] at hs
  split at hs
  · cases hs
  · rename_i hok
    obtain ⟨hcl, -, -⟩ := Sys.canClose_eq_true.1 (by simpa using hok)
    have hc := hS.open_closer_idle hcl
    have hrun := hS.running_of_active (by simp [hw]) hcl
    rw [JobQueue.requestClose_of_running hrun] at hs
    cases hs
    have hr := h.not_returned (by simp [hrun])
    exact { h with
      jobs_live := fun _ => .inr rfl
      drained_holds := by simp
      drainTail_empty := by simp
      closer_quiet := by simp [hc]
      closer_done := by simp [hc]
      returned := fun hm => absurd (by simpa using hm) hr
      terminated_idle := by simp }

theorem step (h : Queued s) (hS : Stages s) {a : Action J} (hs : s.step a = some s') :
    Queued s' := by
  cases a with
  | submit k spawn => cases hs; exact h.submit hS k spawn
  | push i => exact h.pushPending hS hs
  | close => exact h.close hS hs
  | closer => exact h.closerStep hS hs
  | worker => exact h.workerStep hS hs
  | finish p => exact h.finish hS hs
  | callbackSubmit k spawn => exact h.callbackSubmit hS hs
  | callbackClose => exact h.callbackClose hS hs

end Queued

theorem Reachable.queued {s : Sys J} (h : Reachable s) : Queued s := by
  induction h with
  | initial => exact Queued.initial
  | step a hr hs ih => exact ih.step hr.stages hs

end WorkerProtocol
end Descriptors
