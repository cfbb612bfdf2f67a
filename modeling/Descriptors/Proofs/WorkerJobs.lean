import Descriptors.Proofs.WorkerLifecycle
/-! # Every accepted job runs once, in push order

The jobs as the log and the threads show them form a ledger: accepted, waiting to be pushed,
queued, popped, transferred, invoked, running, finished. Every step of every thread moves a job
from one column to the next, at the end of the column in push order, so the columns stay
balanced: what was pushed is what was transferred, then what was popped, then what is queued;
and every invoked callback has finished or is running. With the invariant of the protocol
this gives the flush guarantee: when the shutdown returns, every accepted job was transferred
and its callback invoked exactly once, and no job is performed afterwards. -/
namespace Descriptors
namespace WorkerProtocol

variable {J : Type}

/-- What the log and the threads' positions show of the jobs at one moment. -/
structure Ledger (J : Type) where
  /-- Taken in by the queue, in order. -/
  accepted : List J
  /-- Accepted from other threads and not pushed yet. -/
  pending : List J
  /-- Accepted from the running callback and not pushed yet. -/
  submitting : List J
  pushed : List J
  /-- Still queued. -/
  jobs : List J
  /-- Popped, its transfer not run yet. -/
  taken : List J
  transferred : List J
  /-- Transferred, its callback not invoked yet. -/
  fresh : List J
  invoked : List J
  /-- The callbacks running, outermost first. -/
  active : List J
  finished : List J

/-- The ledger of a state of the protocol. -/
def Sys.ledger (s : Sys J) : Ledger J where
  accepted := s.log.filterMap Event.accepted?
  pending := s.pending
  submitting := s.worker.submitting
  pushed := s.log.filterMap Event.pushed?
  jobs := s.queue.jobs
  taken := s.worker.taken
  transferred := s.log.filterMap Event.transferred?
  fresh := s.worker.fresh
  invoked := s.log.filterMap Event.invoked?
  active := s.worker.active
  finished := s.log.filterMap Event.finished?

namespace Ledger

/-- The moves of one job from a column of the ledger to the next. -/
inductive Step : Ledger J → Ledger J → Prop
  | same (l : Ledger J) : Step l l
  | accept (l : Ledger J) (k : J) :
      Step l { l with accepted := l.accepted ++ [k], pending := l.pending ++ [k] }
  | push (l : Ledger J) (i : Nat) (k : J) (hk : l.pending[i]? = some k) :
      Step l { l with pushed := l.pushed ++ [k], jobs := l.jobs ++ [k],
                      pending := l.pending.eraseIdx i }
  | pop (l : Ledger J) (k : J) (rest : List J) (hj : l.jobs = k :: rest) (ht : l.taken = []) :
      Step l { l with jobs := rest, taken := [k] }
  | transfer (l : Ledger J) (k : J) (ht : l.taken = [k]) (hf : l.fresh = []) :
      Step l { l with transferred := l.transferred ++ [k], taken := [], fresh := [k] }
  | invoke (l : Ledger J) (k : J) (hf : l.fresh = [k]) :
      Step l { l with invoked := l.invoked ++ [k], fresh := [], active := l.active ++ [k] }
  | finish (l : Ledger J) (k : J) (a : List J) (ha : l.active = a ++ [k]) :
      Step l { l with finished := l.finished ++ [k], active := a }
  | submitInner (l : Ledger J) (k : J) (hs : l.submitting = []) :
      Step l { l with accepted := l.accepted ++ [k], submitting := [k] }
  | pushInner (l : Ledger J) (k : J) (hs : l.submitting = [k]) :
      Step l { l with pushed := l.pushed ++ [k], jobs := l.jobs ++ [k], submitting := [] }

theorem Step.of_eq {l l₁ l₂ : Ledger J} (h : Step l l₁) (he : l₂ = l₁) : Step l l₂ :=
  he ▸ h

/-- The columns agree: pushed jobs were transferred, are popped or are queued, in this order;
transferred ones were invoked or are about to be; every invoked callback finished or runs; and
every accepted job was pushed or is about to be. -/
structure Balanced (l : Ledger J) : Prop where
  pushed_eq : l.pushed = l.transferred ++ l.taken ++ l.jobs
  transferred_eq : l.transferred = l.invoked ++ l.fresh
  finished_perm : (l.finished ++ l.active).Perm l.invoked
  accepted_perm : l.accepted.Perm (l.pushed ++ l.pending ++ l.submitting)

/-- Each move keeps the columns balanced. -/
theorem Balanced.step {l l' : Ledger J} (h : Balanced l) (hs : Step l l') : Balanced l' := by
  obtain ⟨hp, ht, hf, ha⟩ := h
  cases hs with
  | same => exact ⟨hp, ht, hf, ha⟩
  | accept k =>
    refine ⟨hp, ht, hf, ?_⟩
    -- the new acceptance waits at the end of `pending`
    have hc : (l.pushed ++ l.pending ++ l.submitting ++ [k]).Perm
        (l.pushed ++ (l.pending ++ [k]) ++ l.submitting) := by
      simp only [List.append_assoc]
      exact (List.perm_append_comm.append_left _).append_left _
    exact (ha.append_right [k]).trans hc
  | push i k hk =>
    refine ⟨by simp [hp], ht, hf, ?_⟩
    -- the pushed job leaves `pending` from wherever it stood
    have he : (k :: l.pending.eraseIdx i).Perm l.pending := by
      obtain ⟨hi, hki⟩ := List.getElem?_eq_some_iff.1 hk
      exact hki ▸ List.getElem_cons_eraseIdx_perm hi
    have hc := (he.symm.append_left l.pushed).append_right l.submitting
    simpa using ha.trans hc
  | pop k rest hj htk =>
    exact ⟨by simp [hp, hj, htk], ht, hf, ha⟩
  | transfer k htk hfr =>
    exact ⟨by simp [hp, htk], by simp [ht, hfr], hf, ha⟩
  | invoke k hfr =>
    refine ⟨hp, by simp [ht, hfr], ?_, ha⟩
    simpa using hf.append_right [k]
  | finish k a hac =>
    refine ⟨hp, ht, ?_, ha⟩
    -- the finished callback is the innermost running one
    have hc : ((l.finished ++ [k]) ++ a).Perm (l.finished ++ (a ++ [k])) := by
      simpa using (List.perm_append_comm : ([k] ++ a).Perm (a ++ [k])).append_left l.finished
    exact hc.trans (hac ▸ hf)
  | submitInner k hs =>
    refine ⟨hp, ht, hf, ?_⟩
    simpa [hs] using ha.append_right [k]
  | pushInner k hs =>
    refine ⟨by simp [hp], ht, hf, ?_⟩
    rw [hs] at ha
    have hc : (l.pushed ++ l.pending ++ [k]).Perm (l.pushed ++ [k] ++ l.pending ++ []) := by
      simp only [List.append_assoc, List.append_nil]
      exact List.perm_append_comm.append_left _
    exact ha.trans hc

variable {l : Ledger J}

/-- Once nothing is queued or in hand, every pushed job was transferred and invoked. -/
theorem Balanced.performed_of_flushed (h : Balanced l) (hj : l.jobs = []) (ht : l.taken = [])
    (hf : l.fresh = []) : l.transferred = l.pushed ∧ l.invoked = l.pushed := by
  have hp := h.pushed_eq
  have htr := h.transferred_eq
  simp only [hj, ht, hf, List.append_nil] at hp htr
  exact ⟨hp.symm, htr ▸ hp.symm⟩

/-- Once no submission is half done, the accepted jobs are the pushed ones. -/
theorem Balanced.accepted_perm_pushed (h : Balanced l) (hp : l.pending = [])
    (hs : l.submitting = []) : l.accepted.Perm l.pushed := by
  simpa [hp, hs] using h.accepted_perm

/-- A move that neither transfers nor invokes leaves both columns as they were; with nothing
popped or transferred in hand no move can. -/
theorem Step.performed_eq {l' : Ledger J} (hs : Step l l') (ht : l.taken = [])
    (hf : l.fresh = []) : l'.transferred = l.transferred ∧ l'.invoked = l.invoked := by
  cases hs with
  | transfer k htk => simp [ht] at htk
  | invoke k hfk => simp [hf] at hfk
  | same | accept | push | pop | finish | submitInner | pushInner => exact ⟨rfl, rfl⟩

end Ledger

theorem Pc.submitting_of_not_pushing {w : Pc J} (h : w.isPushing = false) : w.submitting = [] := by
  cases w <;> simp_all

theorem Pc.active_of_isQuiet {w : Pc J} (h : w.isQuiet = true) : w.active = [] := by
  cases w <;> simp_all

theorem Ledger.balanced_initial : (Sys.initial : Sys J).ledger.Balanced := by
  constructor <;> simp [Sys.initial, Sys.ledger, JobQueue.new]

namespace Sys

variable {s s' : Sys J}

theorem ledger_submit (hS : Stages s) (k : J) (spawn : Except IoError Unit) :
    s.ledger.Step (s.submit k spawn).ledger := by
  rcases hst : s.queue.state
  · cases spawn with
    | error e =>
      -- no thread: the refusal moves no job
      rw [Sys.submit_of_spawn_failure hst]
      exact Ledger.Step.of_eq (.same _) (by simp [Sys.ledger])
    | ok u =>
      -- the worker thread starts with nothing in hand
      rw [Sys.submit, JobQueue.accept_of_idle hst]
      refine Ledger.Step.of_eq (.accept _ k) ?_
      simp [Sys.ledger, hS.idle_unborn hst]
  · rw [Sys.submit, JobQueue.accept_of_running hst]
    exact Ledger.Step.of_eq (.accept _ k) (by simp [Sys.ledger])
  all_goals
    rw [Sys.submit_of_closed (by simp [hst])]
    exact Ledger.Step.of_eq (.same _) (by simp [Sys.ledger])

theorem ledger_pushPending {i : Nat} (hs : s.pushPending i = some s') :
    s.ledger.Step s'.ledger := by
  unfold Sys.pushPending at hs
  split at hs
  · cases hs
  · rename_i k hk
    cases hs
    exact Ledger.Step.of_eq (.push _ i k hk) (by simp [Sys.ledger])

theorem ledger_close (hs : s.close = some s') : s.ledger.Step s'.ledger := by
  unfold Sys.close at hs
  split at hs
  · cases hs
  · -- asking for the close moves no job
    dsimp only at hs
    split at hs <;> cases hs <;> exact Ledger.Step.of_eq (.same _) (by simp [Sys.ledger])

theorem ledger_closerStep (hs : s.closerStep = some s') : s.ledger.Step s'.ledger := by
  unfold Sys.closerStep at hs
  cases hc : s.closer <;> simp only [hc, reduceCtorEq] at hs
  all_goals
    first
    | (split at hs <;> cases hs)
    | cases hs
  all_goals exact Ledger.Step.of_eq (.same _) (by simp [Sys.ledger])

theorem ledger_workerStep (hs : s.workerStep = some s') : s.ledger.Step s'.ledger := by
  cases hw : s.worker with
  | unborn | exited | callback => simp [Sys.workerStep, hw] at hs
  | loop =>
    simp only [Sys.workerStep, hw] at hs
    rcases hq : s.queue.jobs with _ | ⟨k, rest⟩
    · rw [JobQueue.pop_of_nil hq] at hs
      cases hcl : s.queue.closing <;> simp only [hcl] at hs <;> cases hs <;>
        exact Ledger.Step.of_eq (.same _) (by simp [Sys.ledger, hw])
    · -- the loop pops the oldest job
      rw [JobQueue.pop_of_cons hq] at hs
      cases hs
      exact Ledger.Step.of_eq (.pop _ k rest hq (by simp [Sys.ledger, hw]))
        (by simp [Sys.ledger, hw])
  | drain k =>
    simp only [Sys.workerStep, hw] at hs
    rcases hq : s.queue.jobs with _ | ⟨j, rest⟩
    · rw [JobQueue.pop_of_nil hq] at hs
      cases hs
      exact Ledger.Step.of_eq (.same _) (by simp [Sys.ledger, hw])
    · -- the inline drain pops the oldest job, its caller's callback still running
      rw [JobQueue.pop_of_cons hq] at hs
      cases hs
      exact Ledger.Step.of_eq (.pop _ j rest hq (by simp [Sys.ledger, hw]))
        (by simp [Sys.ledger, hw])
  | sleep =>
    simp only [Sys.workerStep, hw] at hs
    split at hs
    · cases hs
      exact Ledger.Step.of_eq (.same _) (by simp [Sys.ledger, hw])
    · cases hs
  | idle | leave | drainSignal _ | drainRelease _ | drainMark _ =>
    simp only [Sys.workerStep, hw] at hs
    cases hs
    exact Ledger.Step.of_eq (.same _) (by simp [Sys.ledger, hw])
  | transfer k o =>
    simp only [Sys.workerStep, hw] at hs
    cases hs
    exact Ledger.Step.of_eq (.transfer _ k (by simp [Sys.ledger, hw]) (by simp [Sys.ledger, hw]))
      (by simp [Sys.ledger, hw])
  | invoke k o =>
    simp only [Sys.workerStep, hw] at hs
    cases hs
    exact Ledger.Step.of_eq (.invoke _ k (by simp [Sys.ledger, hw])) (by simp [Sys.ledger, hw])
  | pushing k o new =>
    simp only [Sys.workerStep, hw] at hs
    cases hs
    exact Ledger.Step.of_eq (.pushInner _ new (by simp [Sys.ledger, hw]))
      (by simp [Sys.ledger, hw])

theorem ledger_finish {p : Bool} (hs : s.finish p = some s') : s.ledger.Step s'.ledger := by
  cases hw : s.worker <;> simp only [Sys.finish, hw, reduceCtorEq] at hs
  rename_i k o
  cases hs
  -- the callback that returns is the innermost one running
  refine Ledger.Step.of_eq (.finish _ k o.toList (by simp [Sys.ledger, hw])) ?_
  cases o <;> simp [Sys.ledger, hw]

theorem ledger_callbackSubmit (hS : Stages s) {k : J} {spawn : Except IoError Unit}
    (hs : s.callbackSubmit k spawn = some s') :
    s.ledger.Step s'.ledger := by
  cases hw : s.worker <;> simp only [Sys.callbackSubmit, hw, reduceCtorEq] at hs
  rename_i j o
  rcases hS.running_or_closed_of_active (by simp [hw]) with hst | hst
  · -- accepted: the callback now holds the job it submitted
    rw [JobQueue.accept_of_running hst] at hs
    cases hs
    exact Ledger.Step.of_eq (.submitInner _ k (by simp [Sys.ledger, hw]))
      (by simp [Sys.ledger, hw])
  · rw [JobQueue.accept_of_closed hst] at hs
    cases hs
    exact Ledger.Step.of_eq (.same _) (by simp [Sys.ledger])

theorem ledger_callbackClose (hs : s.callbackClose = some s') : s.ledger.Step s'.ledger := by
  cases hw : s.worker <;> simp only [Sys.callbackClose, hw, reduceCtorEq] at hs
  rename_i k o
  cases o <;> simp only [reduceCtorEq] at hs
  split at hs
  · cases hs
  · split at hs <;> cases hs <;> exact Ledger.Step.of_eq (.same _) (by simp [Sys.ledger, hw])

/-- Every step of every thread moves jobs along the ledger. -/
theorem ledger_step (hS : Stages s) {a : Action J} (hs : s.step a = some s') :
    s.ledger.Step s'.ledger := by
  cases a with
  | submit k spawn => cases hs; exact ledger_submit hS k spawn
  | push i => exact ledger_pushPending hs
  | close => exact ledger_close hs
  | closer => exact ledger_closerStep hs
  | worker => exact ledger_workerStep hs
  | finish p => exact ledger_finish hs
  | callbackSubmit k spawn => exact ledger_callbackSubmit hS hs
  | callbackClose => exact ledger_callbackClose hs

end Sys

theorem Reachable.balanced {s : Sys J} (h : Reachable s) : s.ledger.Balanced := by
  induction h with
  | initial => exact Ledger.balanced_initial
  | step a hr hs ih => exact ih.step (Sys.ledger_step hr.stages hs)

/-- After a terminated state, no run performs a transfer or invokes a callback. -/
theorem Reachable.performed_of_run {s s' : Sys J} (h : Reachable s)
    (ht : s.queue.state = .terminated) {as : List (Action J)} (hr : s.run as = some s') :
    s'.ledger.transferred = s.ledger.transferred ∧ s'.ledger.invoked = s.ledger.invoked := by
  -- induction on the run: `terminated` is kept, and a terminated queue holds nothing in hand
  induction as generalizing s with
  | nil =>
    simp only [Sys.run, Option.some.injEq] at hr
    subst hr
    exact ⟨rfl, rfl⟩
  | cons a as ih =>
    simp only [Sys.run, Option.bind_eq_some_iff] at hr
    obtain ⟨t, hst, hr⟩ := hr
    have htt : t.queue.state = .terminated :=
      (ht ▸ (Sys.lifeStep_of_step h.stages hst).advance).eq_terminated
    obtain ⟨-, htk, hfr⟩ := h.queued.terminated_idle ht
    have h₁ := (Sys.ledger_step h.stages hst).performed_eq htk hfr
    have h₂ := ih (.step a h hst) htt hr
    exact ⟨h₂.1.trans h₁.1, h₂.2.trans h₁.2⟩

/-- The jobs of every reachable state: transfers and callback invocations follow the push
order, each job at most once; every invoked callback has returned or is running. Once a
shutdown has returned, on any thread, every accepted job was transferred and its callback
invoked exactly once, and no later step performs another. A shutdown on another thread
returns only once every pushed job's callback returned and the worker thread exited. -/
theorem Reachable.jobs_run_once_in_order {s : Sys J} (h : Reachable s) :
    s.ledger.transferred <+: s.ledger.pushed ∧
    s.ledger.invoked <+: s.ledger.transferred ∧
    (s.ledger.finished ++ s.ledger.active).Perm s.ledger.invoked ∧
    (.shutdownReturned ∈ s.log →
      s.queue.state = .terminated ∧ s.ledger.transferred = s.ledger.pushed ∧
      s.ledger.invoked = s.ledger.pushed ∧ s.ledger.accepted.Perm s.ledger.pushed ∧
      ∀ (as : List (Action J)) (s' : Sys J), s.run as = some s' →
        s'.ledger.transferred = s.ledger.transferred ∧ s'.ledger.invoked = s.ledger.invoked) ∧
    (s.closer = .done →
      s.queue.state = .terminated ∧ s.ledger.finished.Perm s.ledger.pushed ∧
      (s.worker.isExited = true ∨ s.worker = .unborn)) := by
  have hB := h.balanced
  have hQ := h.queued
  have hS := h.stages
  refine ⟨⟨_, (List.append_assoc _ _ _).symm.trans hB.pushed_eq.symm⟩, ⟨_, hB.transferred_eq.symm⟩,
    hB.finished_perm, fun hm => ?_, fun hc => ?_⟩
  · -- the shutdown returned: the queue is terminated with nothing left anywhere
    have ht := hQ.returned hm
    obtain ⟨hj, htk, hfr⟩ := hQ.terminated_idle ht
    obtain ⟨hp, hpush⟩ := hS.settled_of_not_running (by simp [ht])
    obtain ⟨htr, hinv⟩ := hB.performed_of_flushed hj htk hfr
    exact ⟨ht, htr, hinv, hB.accepted_perm_pushed hp (Pc.submitting_of_not_pushing hpush),
      fun as s' hr => h.performed_of_run ht hr⟩
  · -- the shutdown on another thread returned: the worker exited, or never started
    obtain ⟨hj, hpark⟩ := hQ.closer_done (.inr hc)
    have hq := Pc.isQuiet_of_parked hpark
    obtain ⟨htk, hfr⟩ := Pc.taken_fresh_of_isQuiet hq
    obtain ⟨-, hinv⟩ := hB.performed_of_flushed hj htk hfr
    have hfin : s.ledger.finished.Perm s.ledger.invoked := by
      simpa [Sys.ledger, Pc.active_of_isQuiet hq] using hB.finished_perm
    exact ⟨hS.done_terminated hc, hinv ▸ hfin, hpark⟩

/-- The last owner dropped inside the callback of the first of two jobs: the second runs
inline, and the shutdown returns into the first callback. -/
theorem jobs_run_once_in_order_inline_shutdown :
    ∃ s : Sys Nat, Sys.initial.run [.submit 1 (.ok ()), .push 0, .submit 2 (.ok ()), .push 0,
      .worker, .worker, .worker, .callbackClose, .worker, .worker, .worker, .finish true,
      .worker, .worker, .worker, .worker] = some s ∧
    s.ledger.transferred <+: s.ledger.pushed ∧
    s.ledger.invoked <+: s.ledger.transferred ∧
    (s.ledger.finished ++ s.ledger.active).Perm s.ledger.invoked ∧
    (.shutdownReturned ∈ s.log →
      s.queue.state = .terminated ∧ s.ledger.transferred = s.ledger.pushed ∧
      s.ledger.invoked = s.ledger.pushed ∧ s.ledger.accepted.Perm s.ledger.pushed ∧
      ∀ (as : List (Action Nat)) (s' : Sys Nat), s.run as = some s' →
        s'.ledger.transferred = s.ledger.transferred ∧ s'.ledger.invoked = s.ledger.invoked) ∧
    (s.closer = .done →
      s.queue.state = .terminated ∧ s.ledger.finished.Perm s.ledger.pushed ∧
      (s.worker.isExited = true ∨ s.worker = .unborn)) := by
  obtain ⟨s, hr⟩ : ∃ s, (Sys.initial : Sys Nat).run [.submit 1 (.ok ()), .push 0,
      .submit 2 (.ok ()), .push 0, .worker, .worker, .worker, .callbackClose, .worker, .worker,
      .worker, .finish true, .worker, .worker, .worker, .worker] = some s := ⟨_, rfl⟩
  exact ⟨s, hr, Reachable.jobs_run_once_in_order (Reachable.run .initial hr)⟩

end WorkerProtocol
end Descriptors
