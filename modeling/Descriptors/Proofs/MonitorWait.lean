import Descriptors.Proofs.MonitorCalls
/-! # One wait, whatever its observers do

A wait takes a snapshot of the associations, asks `select` which watched numbers are readable,
then notifies, in registration order, each association of the snapshot whose number came back
readable. Its observers receive the monitor and may change it, or wait on it again: the
notifications stay those of the snapshot, so an association added meanwhile waits for the
next wait and one removed meanwhile is still told. Because the watched set and the
associations agree, every readable number `select` reports belongs to exactly one
association, and the count the wait returns is the number of readable descriptors.

To see which observers a wait calls, it is run in a state monad that records each call to
`select` and each notification, over any state of the observers' own. -/
namespace Descriptors
namespace Monitor

variable {α σ : Type}

/-- What a traced wait records. -/
inductive Traced (α : Type) where
  | select
  | notify (a : Association α)

/-- `select`, its call recorded. -/
def tracedSelect (select : List Int → Int → StateM σ (Except IoError (List Int))) :
    List Int → Int → StateM (σ × List (Traced α)) (Except IoError (List Int)) :=
  fun watched highest (st, log) =>
    let (r, st) := (select watched highest st).run
    pure (r, (st, log ++ [.select]))

/-- An observer, its notification recorded. -/
def tracedNotify (observe : Monitor α → Association α → StateM σ (Monitor α)) :
    Monitor α → Association α → StateM (σ × List (Traced α)) (Monitor α) :=
  fun m a (st, log) =>
    let (m, st) := (observe m a st).run
    pure (m, (st, log ++ [.notify a]))

@[simp] theorem run_tracedSelect (select : List Int → Int → StateM σ (Except IoError (List Int)))
    (watched : List Int) (highest : Int) (st : σ) (log : List (Traced α)) :
    ((tracedSelect select watched highest).run (st, log)).run =
      ((select watched highest st).run.1, (select watched highest st).run.2, log ++ [.select]) :=
  rfl

/-- Dispatching a list of associations records one notification for each, in order, whatever
the observers do to the monitor. -/
theorem foldlM_tracedNotify (observe : Monitor α → Association α → StateM σ (Monitor α))
    (l : List (Association α)) (m : Monitor α) (st : σ) (log : List (Traced α)) :
    ((l.foldlM (tracedNotify observe) m).run (st, log)).run.2.2 = log ++ l.map .notify := by
  induction l generalizing m st log with
  | nil => simp
  | cons a l ih =>
    simp only [List.foldlM_cons, StateT.run_bind, Id.run_bind]
    exact (ih _ _ _).trans (by simp)

theorem due_eq_filter (snapshot : List (Association α)) (ready : List Int) :
    due snapshot ready = snapshot.filter (fun a => a.fd ∈ ready) := by
  simp [due]

/-- On a valid monitor, a readable subset of the watched numbers picks out exactly as many
associations as it has numbers: each number has exactly one association. -/
theorem Valid.length_due {m : Monitor α} (h : Valid m) {ready : List Int} (hnd : ready.Nodup)
    (hsub : ∀ fd ∈ ready, fd ∈ m.watched) : (due m.associations ready).length = ready.length := by
  have hmap : (due m.associations ready).map (·.fd) = m.watched.filter (fun fd => fd ∈ ready) := by
    rw [due_eq_filter, h.watched_eq, List.filter_map]
    rfl
  have hwnd : m.watched.Nodup := h.watched_eq ▸ h.nodup
  -- the readable watched numbers are the readable numbers, each once
  have hperm : (m.watched.filter (fun fd => fd ∈ ready)).Perm ready := by
    refine (List.perm_ext_iff_of_nodup (hwnd.sublist List.filter_sublist) hnd).2 fun fd => ?_
    simp only [List.mem_filter, decide_eq_true_eq]
    exact ⟨fun hm => hm.2, fun hm => ⟨hsub fd hm, hm⟩⟩
  rw [← List.length_map (f := (·.fd)), hmap]
  exact hperm.length_eq

section Wait

variable (select : List Int → Int → StateM σ (Except IoError (List Int)))
  (observe : Monitor α → Association α → StateM σ (Monitor α)) (limited : Bool)
  (m : Monitor α) (st : σ)

/-- Without a time limit and with nothing to watch, the wait fails at once: `select` is not
called and no observer is told. -/
theorem wait_of_nothing_monitored (hl : limited = false) (he : m.associations = []) :
    ((m.wait (tracedSelect select) (tracedNotify observe) limited).run (st, [])).run =
      ((.error (.wait .nothingMonitored), m), (st, [])) := by
  simp [wait, hl, isEmpty, he]

end Wait

/-- A wait on a monitor that any sequence of calls left, whatever `select` reports and whatever
the observers do. Without a time limit and with nothing watched it fails at once, calling
neither `select` nor any observer. Otherwise it calls `select` once: on a failure it reports
it as a failed wait, on an empty answer it times out, in both cases telling no observer and
keeping the monitor; on a readable subset `R` of the watched numbers it tells exactly the
associations of the snapshot taken when it began whose numbers are in `R`, once each, in
registration order, and reports `|R| ≥ 1` descriptors ready. -/
theorem wait_notifies_snapshot (cs : List (Call α))
    (select : List Int → Int → StateM σ (Except IoError (List Int)))
    (observe : Monitor α → Association α → StateM σ (Monitor α)) (limited : Bool) (st : σ) :
    let m := replay cs
    let out := ((m.wait (tracedSelect select) (tracedNotify observe) limited).run (st, [])).run
    (limited = false → m.associations = [] →
      out.1 = (.error (.wait .nothingMonitored), m) ∧ out.2.2 = []) ∧
    (limited = true ∨ m.associations ≠ [] →
      (∀ e, (select m.watched m.highest st).run.1 = .error e →
        out.1 = (.error (.wait e), m) ∧ out.2.2 = [.select]) ∧
      ((select m.watched m.highest st).run.1 = .ok [] →
        out.1 = (.ok .timedOut, m) ∧ out.2.2 = [.select]) ∧
      (∀ R, (select m.watched m.highest st).run.1 = .ok R → R ≠ [] → R.Nodup →
        (∀ fd ∈ R, fd ∈ m.watched) →
        out.1.1 = .ok (.ready R.length) ∧ 0 < R.length ∧
        out.2.2 = .select :: (m.associations.filter (fun a => a.fd ∈ R)).map .notify)) := by
  intro m out
  refine ⟨fun hl he => by simp [out, wait_of_nothing_monitored select observe limited m st hl he],
    fun hgo => ?_⟩
  -- the wait goes on to `select`
  have hgo' : (!limited && m.isEmpty) = false := by
    rcases hgo with h | h <;> simp [h, isEmpty]
  refine ⟨fun e hr => by simp [out, wait, hgo', hr], fun hr => by simp [out, wait, hgo', hr],
    fun R hr hne hnd hsub => ?_⟩
  -- a readable subset: the snapshot's due associations are dispatched
  obtain ⟨fd, R, rfl⟩ := List.exists_cons_of_ne_nil hne
  have hlen : (due m.associations (fd :: R)).length = (fd :: R).length :=
    (replay_valid cs).length_due hnd hsub
  have hlog := foldlM_tracedNotify observe (due m.associations (fd :: R)) m
    (select m.watched m.highest st).run.2 [.select]
  refine ⟨?_, by simp, ?_⟩
  · simp [out, wait, hgo', hr, hlen]
  · simp only [out, wait, hgo']
    simp [hr]
    rw [hlog, due_eq_filter]
    simp

end Monitor
end Descriptors
