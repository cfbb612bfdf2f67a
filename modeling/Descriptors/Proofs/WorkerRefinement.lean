import Descriptors.Proofs.JobReports
import Descriptors.Proofs.CapacityChecks
import Descriptors.Proofs.WorkerInvariant
/-! # The session's worker loop refines the protocol

The session runs a descriptor's queue with an explicit worker thread, a stack of tasks; the
protocol of `WorkerProtocol` runs the same queue at the grain of its lock. A descriptor stands
for a protocol state when both hold the same queue and the worker's stack is where the
protocol's worker is. Each step of the worker thread (a pop, a report that the queue is empty,
the end of the thread, a call of a job's transfer, the call of its callback, the callback's own
steps) is matched by protocol steps that lead to a state the descriptor stands for again, and so
is each submission on the session thread. The one step left out is a callback's drop of the last
owner of an entry, after which the shutdown runs on the worker thread. So every run from a
descriptor without jobs ends in a state that stands for a reachable state of the protocol, and
the protocol's invariants hold of the session. -/
namespace Descriptors

namespace WorkerProtocol.Sys

variable {J : Type} {s : Sys J}

theorem run_append (as bs : List (Action J)) :
    s.run (as ++ bs) = (s.run as).bind (·.run bs) := by
  induction as generalizing s with
  | nil => rfl
  | cons a as ih =>
    simp only [List.cons_append, run]
    cases s.step a <;> simp [ih]

theorem run_append_of {as bs : List (Action J)} {s₁ s₂ : Sys J} (h₁ : s.run as = some s₁)
    (h₂ : s₁.run bs = some s₂) : s.run (as ++ bs) = some s₂ := by
  rw [run_append, h₁, Option.bind_some, h₂]

@[simp] theorem run_singleton (a : Action J) : s.run [a] = s.step a := by
  simp only [run]
  cases s.step a <;> rfl

/-- A worker asleep wakes once a job is queued or the close was asked for. -/
theorem step_worker_of_sleep (hpc : s.worker = .sleep)
    (hq : s.queue.jobs ≠ [] ∨ s.queue.closing = true) :
    s.step .worker = some { s with worker := .loop } := by
  have hwake : (!s.queue.jobs.isEmpty || s.queue.closing) = true := by
    rcases hq with hq | hq <;> simp [hq]
  simp only [step, workerStep, hpc, hwake, if_true]

/-- The loop's pop, when it finds a job. -/
theorem step_worker_of_pop {j : J} {c : Bool} {q : JobQueue J} (hpc : s.worker = .loop)
    (hpop : s.queue.pop = (some j, c, q)) :
    s.step .worker = some { s with queue := q, worker := .transfer j none } := by
  simp only [step, workerStep, hpc, hpop]

/-- The loop finds nothing and no close asked for: it reports the queue empty and sleeps. -/
theorem run_worker_of_empty (hpc : s.worker = .loop) (hj : s.queue.jobs = [])
    (hc : s.queue.closing = false) :
    s.run [.worker, .worker] = some { s with queue := s.queue.signalEmpty, worker := .sleep } := by
  simp [run, step, workerStep, hpc, JobQueue.pop_of_nil hj, hc]

/-- The loop finds nothing once closing: it reports the queue empty and the thread ends. -/
theorem run_worker_of_closing (hpc : s.worker = .loop) (hj : s.queue.jobs = [])
    (hc : s.queue.closing = true) :
    s.run [.worker, .worker] =
      some ({ s with queue := s.queue.signalEmpty, worker := .exited }.record .exited) := by
  simp [run, step, workerStep, hpc, JobQueue.pop_of_nil hj, hc]

end WorkerProtocol.Sys

namespace Session
namespace World

variable {w w₁ : World} {d : Nat}

theorem worker?_modifyWorker_self (f : Worker → Worker) :
    (w.modifyWorker d f).worker? d = (w.worker? d).map f := by
  simp only [worker?, modifyWorker, modifyDesc, desc?, Array.getElem?_modify, if_pos]
  cases w.descs[d]? <;> simp

theorem worker?_setStack_self (s : List Task) :
    (w.setStack (.worker d) s).worker? d = (w.worker? d).map fun wk => { wk with stack := s } :=
  worker?_modifyWorker_self _

@[simp] theorem worker?_addEvent (key : String) (ev : Event) :
    (w.addEvent key ev).worker? d = w.worker? d := rfl

@[simp] theorem worker?_modifyEntry (e : Nat) (f : Entry → Entry) :
    (w.modifyEntry e f).worker? d = w.worker? d := rfl

theorem worker?_transferStep {fd : Int} {tr tr' : Transfer}
    (h : w.transferStep fd tr = some (tr', w₁)) : w₁.worker? d = w.worker? d := by
  unfold transferStep at h
  repeat' split at h
  all_goals (cases h; try rfl)

theorem worker?_advance {fd : Int} {tr tr' : Transfer} (h : w.advance fd tr = some (tr', w₁)) :
    w₁.worker? d = w.worker? d := by
  unfold advance at h
  split at h
  · cases h
    rfl
  · exact worker?_transferStep h

theorem stackOf_worker (w : World) (d : Nat) :
    w.stackOf (.worker d) = ((w.worker? d).map (·.stack)).getD [] := rfl

/-- A step of a worker thread runs the task on top of its stack. -/
theorem step_worker {wk : Worker} (hw : w.worker? d = some wk) {task : Task} {rest : List Task}
    (hst : wk.stack = task :: rest) : w.step (.worker d) = w.stepTask (.worker d) task rest := by
  simp only [step, stackOf_worker, hw, hst, Option.map_some, Option.getD_some]

/-- What the worker loop's step does: take the next job, report the queue empty, or end the
thread once closing was asked for and nothing is left. -/
theorem step_serve {wk : Worker} (hw : w.worker? d = some wk) (hst : wk.stack = [.serve])
    (hs : w.step (.worker d) = some w₁) :
    (∃ j c q, wk.queue.pop = (some j, c, q) ∧
      w₁.worker? d = some { wk with queue := q, stack := [runJob wk.fd j, .serve] }) ∨
    (wk.queue.jobs = [] ∧ wk.queue.closing = false ∧ wk.queue.drained = false ∧
      w₁.worker? d = some { wk with queue := wk.queue.signalEmpty }) ∨
    (wk.queue.jobs = [] ∧ wk.queue.closing = true ∧
      w₁.worker? d =
        some { wk with queue := wk.queue.signalEmpty, stack := [], live := false }) := by
  rw [step_worker hw hst] at hs
  simp only [stepTask, hw] at hs
  rcases hj : wk.queue.jobs with _ | ⟨j, rest⟩
  · rw [JobQueue.pop_of_nil hj] at hs
    cases hc : wk.queue.closing
    · simp only [hc] at hs
      split at hs
      · cases hs
      · rename_i hdr
        cases hs
        right; left
        refine ⟨rfl, rfl, by simpa using hdr, ?_⟩
        rw [worker?_modifyWorker_self, hw]
        rfl
    · simp only [hc] at hs
      cases hs
      right; right
      refine ⟨rfl, rfl, ?_⟩
      rw [worker?_modifyWorker_self, hw]
      rfl
  · rw [JobQueue.pop_of_cons hj] at hs
    cases hs
    left
    refine ⟨j, _, _, JobQueue.pop_of_cons hj, ?_⟩
    rw [worker?_setStack_self, worker?_modifyWorker_self, hw]
    rfl

/-- The worker thread of `d` is about to drop the last owner of an entry: the shutdown of the
entry's descriptors then runs on that thread. -/
def DropsLastOwner (w : World) (d : Nat) : Prop :=
  ∃ e en rest, w.stackOf (.worker d) = .dropRef e :: rest ∧ w.entries[e]? = some en ∧
    en.refs ≤ 1

section Submit

variable (key : String) (holds : Option Nat) (cb : CallbackSpec) (kind : JobKind) (n : Nat)
  (region : List UInt8)

/-- What a submission leaves of the descriptor's worker, once the queue took the job. -/
theorem worker?_run_submit {dsc : Desc} {started : Bool} {q : JobQueue SessionJob}
    (hd : w.desc? d = some dsc)
    (ha : (dsc.worker.getD ⟨dsc.fd, JobQueue.new, [], false⟩).queue.accept (.ok ()) =
      .ok (started, q)) :
    ((Act.submit key d holds cb kind n region).run.run w).2.worker? d =
      some { dsc.worker.getD ⟨dsc.fd, JobQueue.new, [], false⟩ with
        queue := q.push ⟨kind, n, region, ⟨key, cb.tag, holds⟩⟩,
        stack :=
          if started then [.serve] else (dsc.worker.getD ⟨dsc.fd, JobQueue.new, [], false⟩).stack,
        live := (dsc.worker.getD ⟨dsc.fd, JobQueue.new, [], false⟩).live || started } := by
  have hd' : w.descs[d]? = some dsc := hd
  simp only [Act.submit, Act.run_bind, Act.run_get, hd, ha]
  cases holds <;>
    simp only [Act.run_bind, Act.run_set, Act.owners, Act.setOwners, Act.run_get, Act.run_modify,
      Act.run_pure] <;>
    simp [World.worker?, World.desc?, World.modifyDesc, World.modifyEntry, Array.getElem?_modify,
      hd']

theorem run_submit_of_refused {dsc : Desc} {e : Error} (hd : w.desc? d = some dsc)
    (ha : (dsc.worker.getD ⟨dsc.fd, JobQueue.new, [], false⟩).queue.accept (.ok ()) = .error e) :
    (Act.submit key d holds cb kind n region).run.run w = (.error (w.errorDoc e), w) := by
  simp only [Act.submit, Act.run_bind, Act.run_get, hd, ha, Act.run_fail]

end Submit

end World

open WorkerProtocol (Pc Sys)

/-- How a worker thread's stack stands for the protocol's place of the worker, along the loop's
own path: about to pop, asleep once it found the queue empty, a job's transfer, the call of its
callback, inside the callback, or the thread ended. -/
inductive LoopStack (q : JobQueue SessionJob) : List Task → Pc SessionJob → Prop
  | loop : LoopStack q [.serve] .loop
  | sleep : (q.jobs = [] → q.drained = true) → LoopStack q [.serve] .sleep
  | transfer (j : SessionJob) (fd : Int) (tr : Transfer) :
      LoopStack q [.transfer fd tr (.callback j.callback j.kind j.region), .serve]
        (.transfer j none)
  | invoke (j : SessionJob) (got : List UInt8) (count : Nat) :
      LoopStack q [.complete j.callback j.kind j.region got count, .serve] (.invoke j none)
  | callback (j : SessionJob) (drop : Option Nat) (ev : Event) :
      LoopStack q ((drop.map Task.dropRef).toList ++ [.record j.callback.key ev, .serve])
        (.callback j none)
  | exited : LoopStack q [] .exited

/-- A push from another thread keeps the worker where it is. -/
theorem LoopStack.push {q : JobQueue SessionJob} {st : List Task} {pc : Pc SessionJob}
    (h : LoopStack q st pc) (j : SessionJob) : LoopStack (q.push j) st pc := by
  cases h with
  | sleep => exact .sleep (by simp)
  | loop => exact .loop
  | transfer j' fd tr => exact .transfer j' fd tr
  | invoke j' got count => exact .invoke j' got count
  | callback j' drop ev => exact .callback j' drop ev
  | exited => exact .exited

/-- The session's descriptor `d` stands for the protocol's state `s`: both hold the same queue,
and the worker thread's stack is where the protocol's worker is. A descriptor with no worker
stands for the protocol before any thread was made. -/
def Mirrors (d : Nat) (w : World) (s : Sys SessionJob) : Prop :=
  match w.worker? d with
  | none => s.queue = JobQueue.new ∧ s.worker = .unborn
  | some wk => wk.queue = s.queue ∧ LoopStack wk.queue wk.stack s.worker

namespace Mirrors

variable {w w₁ : World} {d : Nat} {s : Sys SessionJob}

theorem of_worker {wk : Worker} (hw : w.worker? d = some wk) (hq : wk.queue = s.queue)
    (hl : LoopStack wk.queue wk.stack s.worker) : Mirrors d w s := by
  simp only [Mirrors, hw]
  exact ⟨hq, hl⟩

/-- The worker thread of `d` given a new stack, which stands where the protocol's worker is. -/
theorem of_setStack {wk : Worker} (hw : w.worker? d = some wk) {st : List Task}
    (hq : wk.queue = s.queue) (hl : LoopStack wk.queue st s.worker) :
    Mirrors d (w.setStack (.worker d) st) s := by
  have hw' : (w.setStack (.worker d) st).worker? d = some { wk with stack := st } := by
    rw [World.worker?_setStack_self, hw]
    rfl
  exact of_worker hw' hq hl

/-- The protocol's worker about to pop, or asleep with a job queued or the close asked for,
gets to the pop. -/
theorem awake {q : JobQueue SessionJob} (hpc : s.worker = .loop ∨ s.worker = .sleep)
    (hq : s.queue = q) (hwake : q.jobs ≠ [] ∨ q.closing = true) :
    ∃ pre, s.run pre = some { s with worker := .loop } := by
  rcases hpc with hpc | hpc
  · refine ⟨[], ?_⟩
    rw [← hpc]
    rfl
  · exact ⟨[.worker], by rw [Sys.run_singleton, Sys.step_worker_of_sleep hpc (hq ▸ hwake)]⟩

/-- A step of the worker loop: the protocol's worker, woken first if it slept, pops the same
job, or reports the queue empty, or ends the thread. -/
theorem serve {wk : Worker} (hw : w.worker? d = some wk) (hst : wk.stack = [.serve])
    (hq : wk.queue = s.queue)
    (hpc : s.worker = .loop ∨ (s.worker = .sleep ∧ (wk.queue.jobs = [] → wk.queue.drained = true)))
    (hs : w.step (.worker d) = some w₁) : ∃ as s₁, s.run as = some s₁ ∧ Mirrors d w₁ s₁ := by
  have hwoken := fun hwake => awake (hpc.imp id And.left) hq.symm hwake
  rcases World.step_serve hw hst hs with ⟨j, c, q, hpop, hw₁⟩ | ⟨hj, hc, hdr, hw₁⟩ | ⟨hj, hc, hw₁⟩
  · -- a job is taken: its transfer runs next
    obtain ⟨pre, hpre⟩ := hwoken (.inl (by simp [JobQueue.pop] at hpop; split at hpop <;> simp_all))
    refine ⟨pre ++ [.worker], { s with queue := q, worker := .transfer j none }, ?_,
      of_worker hw₁ rfl (.transfer j wk.fd j.transfer)⟩
    exact Sys.run_append_of hpre
      (by rw [Sys.run_singleton, Sys.step_worker_of_pop rfl (by rw [← hq]; exact hpop)])
  · -- the queue is empty and open: a sleeping worker saw it drained already
    have hloop : s.worker = .loop := by
      rcases hpc with hpc | ⟨-, hdr'⟩
      · exact hpc
      · exact absurd (hdr' hj) (by simp [hdr])
    have hsleep : LoopStack wk.queue.signalEmpty [.serve] .sleep := .sleep fun _ => by simp [hj]
    refine ⟨[.worker, .worker], { s with queue := s.queue.signalEmpty, worker := .sleep },
      Sys.run_worker_of_empty hloop (hq ▸ hj) (hq ▸ hc),
      of_worker hw₁ (by simp [hq]) (by rw [hst]; exact hsleep)⟩
  · -- the queue is empty and closing: the thread ends
    obtain ⟨pre, hpre⟩ := hwoken (.inr hc)
    refine ⟨pre ++ [.worker, .worker],
      { s with queue := s.queue.signalEmpty, worker := .exited }.record .exited, ?_,
      of_worker hw₁ (by simp [hq]) .exited⟩
    exact Sys.run_append_of hpre (Sys.run_worker_of_closing rfl (hq ▸ hj) (hq ▸ hc))

/-- A call of a job's transfer: the protocol's worker stays in the transfer until the loop has
finished, and then moves on to invoking the callback. -/
theorem transfer {wk : Worker} {j : SessionJob} {fd : Int} {tr : Transfer}
    (hw : w.worker? d = some wk)
    (hst : wk.stack = [.transfer fd tr (.callback j.callback j.kind j.region), .serve])
    (hq : wk.queue = s.queue) (hpc : s.worker = .transfer j none)
    (hs : w.step (.worker d) = some w₁) : ∃ as s₁, s.run as = some s₁ ∧ Mirrors d w₁ s₁ := by
  rw [World.step_worker hw hst, World.stepTask_transfer, Option.map_eq_some_iff] at hs
  obtain ⟨⟨tr₁, w₂⟩, hadv, rfl⟩ := hs
  have hw₂ : w₂.worker? d = some wk := (World.worker?_advance hadv).trans hw
  unfold World.resume
  cases hout : tr₁.outcome? with
  | none =>
    -- the loop goes on: nothing the protocol sees
    refine ⟨[], s, rfl, of_setStack hw₂ hq ?_⟩
    rw [hpc]
    exact .transfer j fd tr₁
  | some o =>
    obtain ⟨got, count, err⟩ := o
    refine ⟨[.worker], { s with worker := .invoke j none }.record (.transferred j), ?_,
      of_setStack hw₂ hq (.invoke j got count)⟩
    simp [Sys.step, Sys.workerStep, hpc]

/-- The call of a job's callback. -/
theorem invoke {wk : Worker} {j : SessionJob} {got : List UInt8} {count : Nat}
    (hw : w.worker? d = some wk)
    (hst : wk.stack = [.complete j.callback j.kind j.region got count, .serve])
    (hq : wk.queue = s.queue) (hpc : s.worker = .invoke j none)
    (hs : w.step (.worker d) = some w₁) : ∃ as s₁, s.run as = some s₁ ∧ Mirrors d w₁ s₁ := by
  rw [World.step_worker hw hst] at hs
  simp only [World.stepTask, Option.some.injEq] at hs
  subst hs
  refine ⟨[.worker], { s with worker := .callback j none }.record (.invoked j), ?_,
    of_setStack hw hq (.callback j j.callback.holds _)⟩
  simp [Sys.step, Sys.workerStep, hpc]

/-- Inside a job's callback: dropping an owner that is not the last changes nothing the
protocol sees, and recording the event returns to the loop. -/
theorem callback {wk : Worker} {j : SessionJob} {drop : Option Nat} {ev : Event}
    (hw : w.worker? d = some wk)
    (hst : wk.stack = (drop.map Task.dropRef).toList ++ [.record j.callback.key ev, .serve])
    (hq : wk.queue = s.queue) (hpc : s.worker = .callback j none)
    (hs : w.step (.worker d) = some w₁) :
    (∃ as s₁, s.run as = some s₁ ∧ Mirrors d w₁ s₁) ∨ w.DropsLastOwner d := by
  cases drop with
  | none =>
    rw [World.step_worker hw hst] at hs
    simp only [World.stepTask, Option.some.injEq] at hs
    subst hs
    refine .inl ⟨[.finish false], { s with worker := .loop }.record (.finished j false), ?_,
      of_setStack (by simp [hw]) hq .loop⟩
    simp [Sys.step, Sys.finish, hpc]
  | some e =>
    rw [World.step_worker hw hst] at hs
    simp only [World.stepTask] at hs
    have hstay : ∀ w₂ : World, w₂.worker? d = some wk →
        Mirrors d (w₂.setStack (.worker d) [.record j.callback.key ev, .serve]) s := by
      intro w₂ hw₂
      refine of_setStack hw₂ hq ?_
      rw [hpc]
      exact .callback j none ev
    cases hen : w.entries[e]? with
    | none =>
      simp only [hen, Option.some.injEq] at hs
      subst hs
      exact .inl ⟨[], s, rfl, hstay w hw⟩
    | some en =>
      simp only [hen] at hs
      split at hs
      · -- the last owner goes: the shutdown starts on this thread
        exact .inr ⟨e, en, [.record j.callback.key ev, .serve],
          by simp [World.stackOf_worker, hw, hst], hen, ‹_›⟩
      · cases hs
        exact .inl ⟨[], s, rfl, hstay _ (by simp [hw])⟩

/-- Every step of a descriptor's worker thread is matched by steps of the protocol, from a
state the descriptor stands for to one it stands for again, unless a callback is about to drop
the last owner of an entry. -/
theorem step (h : Mirrors d w s) (hs : w.step (.worker d) = some w₁) :
    (∃ as s₁, s.run as = some s₁ ∧ Mirrors d w₁ s₁) ∨ w.DropsLastOwner d := by
  unfold Mirrors at h
  rcases hw : w.worker? d with _ | wk <;> rw [hw] at h
  · -- without a worker the thread has nothing to run
    simp [World.step, World.stackOf_worker, hw] at hs
  · obtain ⟨hq, hl⟩ := h
    generalize hst : wk.stack = st at hl
    generalize hpc : s.worker = pc at hl
    cases hl with
    | loop => exact .inl (serve hw hst hq (.inl hpc) hs)
    | sleep hdr => exact .inl (serve hw hst hq (.inr ⟨hpc, hdr⟩) hs)
    | transfer j fd tr => exact .inl (transfer hw hst hq hpc hs)
    | invoke j got count => exact .inl (invoke hw hst hq hpc hs)
    | callback j drop ev => exact callback hw hst hq hpc hs
    | exited => simp [World.step, World.stackOf_worker, hw, hst] at hs

/-- The protocol with one more log entry stands for what it stood for. -/
theorem record {e : WorkerProtocol.Event SessionJob} (h : Mirrors d w s) :
    Mirrors d w (s.record e) := h

/-- A submission on the session thread is matched by the protocol's submission of the same
job, whose thread is always made, and by the push of the job it took. -/
theorem submit (h : Mirrors d w s) (key : String) (holds : Option Nat) (cb : CallbackSpec)
    (kind : JobKind) (n : Nat) (region : List UInt8) :
    ∃ as s₁, s.run as = some s₁ ∧
      Mirrors d ((Act.submit key d holds cb kind n region).run.run w).2 s₁ := by
  cases hd : w.desc? d with
  | none =>
    have hrun : (Act.submit key d holds cb kind n region).run.run w =
        (.error (Doc.misuse "no such descriptor"), w) := by
      simp only [Act.submit, Act.run_bind, Act.run_get, hd, Act.run_misuse]
    exact ⟨[], s, rfl, by rw [hrun]; exact h⟩
  | some dsc =>
    have hw : w.worker? d = dsc.worker := by simp [World.worker?, hd]
    -- the worker the submission meets stands where the protocol's worker is
    have hmet : (dsc.worker.getD ⟨dsc.fd, JobQueue.new, [], false⟩).queue = s.queue ∧
        ∀ q, (dsc.worker.getD ⟨dsc.fd, JobQueue.new, [], false⟩).queue.accept (.ok ()) =
          .ok (false, q) → LoopStack q (dsc.worker.getD ⟨dsc.fd, JobQueue.new, [], false⟩).stack
            s.worker := by
      unfold Mirrors at h
      rw [hw] at h
      cases hdw : dsc.worker with
      | none =>
        rw [hdw] at h
        refine ⟨h.1.symm, fun q ha => ?_⟩
        -- a fresh queue always starts its worker
        simp [JobQueue.accept, JobQueue.startOnce, JobQueue.new] at ha
      | some wk =>
        rw [hdw] at h
        refine ⟨h.1, fun q ha => ?_⟩
        rw [Option.getD_some] at ha ⊢
        rw [JobQueue.eq_of_accept_not_started ha]
        exact h.2
    cases ha : (dsc.worker.getD ⟨dsc.fd, JobQueue.new, [], false⟩).queue.accept (.ok ()) with
    | error e =>
      -- refused: nothing queued, the protocol only logs the refusal
      refine ⟨[.submit ⟨kind, n, region, ⟨key, cb.tag, holds⟩⟩ (.ok ())],
        s.record (.refused ⟨kind, n, region, ⟨key, cb.tag, holds⟩⟩ e), ?_, ?_⟩
      · simp [Sys.step, WorkerProtocol.Sys.submit, ← hmet.1, ha]
      · rw [World.run_submit_of_refused key holds cb kind n region hd ha]
        exact h.record
    | ok r =>
      obtain ⟨started, q⟩ := r
      let job : SessionJob := ⟨kind, n, region, ⟨key, cb.tag, holds⟩⟩
      refine ⟨[.submit job (.ok ()), .push s.pending.length],
        { s with queue := q.push job, worker := if started then .loop else s.worker,
                 pending := (s.pending ++ [job]).eraseIdx s.pending.length }.record
          (.accepted job started) |>.record (.pushed job), ?_, ?_⟩
      · simp [Sys.run, Sys.step, WorkerProtocol.Sys.submit, ← hmet.1, ha, Sys.pushPending]
        rfl
      · refine of_worker (World.worker?_run_submit key holds cb kind n region hd ha) rfl ?_
        cases started with
        | true => exact .loop
        | false => exact (hmet.2 q ha).push job

/-- A step that leaves the descriptor's worker as it was keeps what the descriptor stands for. -/
theorem of_worker?_eq (h : Mirrors d w s) (hw : w₁.worker? d = w.worker? d) : Mirrors d w₁ s := by
  unfold Mirrors at h ⊢
  rwa [hw]

end Mirrors

/-- The session's runs around a descriptor's worker thread: its own steps, short of a callback
dropping the last owner of an entry, and steps of any thread that leave the worker as it was. -/
inductive LoopRun (d : Nat) : World → World → Prop
  | done (w : World) : LoopRun d w w
  | worker {w w₁ w₂ : World} : w.step (.worker d) = some w₁ → ¬w.DropsLastOwner d →
      LoopRun d w₁ w₂ → LoopRun d w w₂
  | other {w w₁ w₂ : World} (t : ThreadId) : w.step t = some w₁ → w₁.worker? d = w.worker? d →
      LoopRun d w₁ w₂ → LoopRun d w w₂
  | submit {w w₂ : World} (key : String) (holds : Option Nat) (cb : CallbackSpec) (kind : JobKind)
      (n : Nat) (region : List UInt8) :
      LoopRun d ((Act.submit key d holds cb kind n region).run.run w).2 w₂ → LoopRun d w w₂

/-- Every such run of the session is matched by a run of the protocol, which ends in a state the
descriptor stands for: the session's worker loop refines the protocol's. -/
theorem Mirrors.run {d : Nat} {w w' : World} {s : WorkerProtocol.Sys SessionJob}
    (h : Mirrors d w s) (hr : LoopRun d w w') :
    ∃ as s', s.run as = some s' ∧ Mirrors d w' s' := by
  induction hr generalizing s with
  | done => exact ⟨[], s, rfl, h⟩
  | worker hs hlast _ ih =>
    -- each step of the worker thread is matched by some protocol steps, then the rest
    rcases h.step hs with ⟨as, s₁, hrun, h₁⟩ | hdrop
    · obtain ⟨bs, s', hrun', h'⟩ := ih h₁
      exact ⟨as ++ bs, s', WorkerProtocol.Sys.run_append_of hrun hrun', h'⟩
    · exact absurd hdrop hlast
  | other t _ hw _ ih => exact ih (h.of_worker?_eq hw)
  | submit key holds cb kind n region _ ih =>
    obtain ⟨as, s₁, hrun, h₁⟩ := h.submit key holds cb kind n region
    obtain ⟨bs, s', hrun', h'⟩ := ih h₁
    exact ⟨as ++ bs, s', WorkerProtocol.Sys.run_append_of hrun hrun', h'⟩

/-- A descriptor that never took a job stands for the protocol before anything happened. -/
theorem Mirrors.initial {d : Nat} {w : World} (hw : w.worker? d = none) :
    Mirrors d w WorkerProtocol.Sys.initial := by
  simp only [Mirrors, hw]
  exact ⟨rfl, rfl⟩

/-- From a descriptor that never took a job, every such run ends in a state that stands for a
reachable state of the protocol, so every invariant of the protocol holds of the session's
queue and worker thread. -/
theorem Mirrors.reachable_of_run {d : Nat} {w w' : World} (hw : w.worker? d = none)
    (hr : LoopRun d w w') : ∃ s, WorkerProtocol.Reachable s ∧ Mirrors d w' s := by
  obtain ⟨as, s, hrun, h⟩ := (Mirrors.initial hw).run hr
  exact ⟨s, WorkerProtocol.Reachable.initial.run hrun, h⟩

end Session
end Descriptors
