import Descriptors.Session.Async
/-! # Running steps of a session

A step of a session runs in `ExceptT Doc (StateM World)`. The lemmas here take a step apart
one primitive at a time (`run_bind`, `run_get`, a throw, a failure), so that the spec lemmas of
the library's functions never unfold the monad. Beside them: the jobs queued on a descriptor,
the label under which an answer reports a failure, and what performing nothing does while no
helper thread is about. -/
namespace Descriptors
namespace Session

namespace Act

variable {α β : Type}

theorem run_bind (x : Act α) (f : α → Act β) (w : World) :
    (x >>= f).run.run w = (match x.run.run w with
      | (.ok a, w') => (f a).run.run w'
      | (.error e, w') => (.error e, w')) := by
  simp only [ExceptT.run_bind, StateT.run_bind]
  rcases x.run.run w with ⟨_ | _, _⟩ <;> rfl

@[simp] theorem run_get (w : World) : (get : Act World).run.run w = (.ok w, w) := rfl

@[simp] theorem run_pure (a : α) (w : World) : (pure a : Act α).run.run w = (.ok a, w) := rfl

@[simp] theorem run_throw (e : Doc) (w : World) : (throw e : Act α).run.run w = (.error e, w) :=
  rfl

@[simp] theorem run_modify (f : World → World) (w : World) :
    (modify f : Act Unit).run.run w = (.ok (), f w) := rfl

@[simp] theorem run_set (w w' : World) : (set w' : Act Unit).run.run w = (.ok (), w') := rfl

@[simp] theorem run_fail (e : Error) (w : World) :
    (fail e : Act α).run.run w = (.error (w.errorDoc e), w) := rfl

@[simp] theorem run_misuse (m : String) (w : World) :
    (misuse m : Act α).run.run w = (.error (Doc.misuse m), w) := rfl

theorem run_map (f : α → β) (x : Act α) (w : World) :
    (f <$> x).run.run w = (match x.run.run w with
      | (.ok a, w') => (.ok (f a), w')
      | (.error e, w') => (.error e, w')) := by
  simp only [ExceptT.run_map, StateT.run_map]
  rcases x.run.run w with ⟨_ | _, _⟩ <;> rfl

theorem run_number {w : World} {d : Nat} {desc : Desc} (hd : w.desc? d = some desc) :
    (number d).run.run w = (.ok desc.fd, w) := by
  simp only [number, run_bind, run_get, hd]
  rfl

theorem run_orFail (r : Except Error α) (w : World) :
    (orFail r).run.run w = (match r with
      | .ok a => (.ok a, w)
      | .error e => (.error (w.errorDoc e), w)) := by
  cases r <;> rfl

theorem run_bytes {src : ByteSource} {bs : List UInt8} (hs : src.resolve = .ok bs) (w : World) :
    (bytes src).run.run w = (.ok bs, w) := by
  simp only [bytes, hs]
  rfl

theorem run_buffer {w : World} {name : String} {buf : Buffer}
    (hb : lookupIn w.buffers name = some buf) : (buffer name).run.run w = (.ok buf, w) := by
  simp only [buffer, run_bind, run_get, hb, run_pure]

@[simp] theorem run_need (a : α) (w : World) : (need (.ok a)).run.run w = (.ok a, w) := rfl

theorem run_allocation {n : Nat} (h : n ≤ allocationLimit) (w : World) :
    (allocation n).run.run w = (.ok n, w) := by
  simp only [allocation, if_neg (Nat.not_lt.2 h), run_pure]

theorem run_takenBuffer {w : World} {b : String} {buf : Buffer}
    (hb : lookupIn w.buffers b = some buf) : (takenBuffer b).run.run w = (.ok buf, w) := by
  simp only [takenBuffer, run_bind, run_get, hb, run_pure]

/-- Taking a buffer moves it out of the session. -/
theorem run_takeBuffer {w : World} {b : String} {buf : Buffer}
    (hb : lookupIn w.buffers b = some buf) :
    (takeBuffer b).run.run w = (.ok buf, { w with buffers := eraseIn w.buffers b }) := by
  simp only [takeBuffer, run_bind, run_takenBuffer hb, run_modify, run_pure]

theorem run_tryCatch (x : Act α) (h : Doc → Act α) (w : World) :
    (tryCatch x h).run.run w = (match x.run.run w with
      | (.ok a, w') => (.ok a, w')
      | (.error e, w') => (h e).run.run w') := by
  rw [ExceptT.run_tryCatch]
  simp only [StateT.run_bind]
  rcases x.run.run w with ⟨_ | _, _⟩ <;> rfl

/-- The answer of a step is its document, whether the step ran through or stopped early. -/
theorem run_answer (x : Act Doc) (w : World) :
    (answer x).run w = (match (x.run.run w).1 with
      | .ok d => d
      | .error d => d, (x.run.run w).2) := by
  simp only [answer]
  rcases hx : x.run.run w with ⟨_ | _, _⟩ <;> simp [StateT.run_bind, hx] <;> rfl

/-- Without an interruption a transfer runs alone, and its answer is the operation's. -/
theorem answer_interruptible_none (t : Option Helper → Act Doc) (w : World) :
    ((answer (interruptible (.ok none) t)).run w).1 = ((answer (t none)).run w).1 := by
  simp only [run_answer, interruptible, prepareHelper, run_bind, run_need, run_pure,
    run_tryCatch]
  -- the handler rethrows what it caught, after only letting the other threads run
  rcases (t none).run.run w with ⟨_ | _, w'⟩ <;> rfl

/-- A step that goes through on every world. -/
def Quiet (x : Act Unit) : Prop := ∀ w, ∃ w', x.run.run w = (.ok (), w')

theorem quiet_pure : Quiet (pure ()) := fun w => ⟨w, rfl⟩

end Act

namespace World

/-- The jobs queued on descriptor `d`: none before its first job. -/
def queuedJobs (w : World) (d : Nat) : List SessionJob :=
  ((w.worker? d).map (·.queue.jobs)).getD []

theorem runUntil_of_goal {goal : World → Bool} {w : World} (h : goal w = true) (fuel : Nat) :
    runUntil goal fuel w = w := by
  cases fuel <;> simp [runUntil, h]

/-- With no helper about, performing nothing only clears the session thread's outcome. -/
theorem perform_nil {w : World} (h : w.helperStack = []) :
    w.perform [] = { w with mainStack := [], mainOutcome := none } := by
  simp only [perform]
  rw [runUntil_of_goal (by simp [h])]
  simp [h]

end World

/-- The label under which an answer reports a failure, if it reports one. -/
def Doc.failureLabel : Doc → Option String
  | .record (("error", .text label) :: _) => some label
  | _ => none

namespace Doc

@[simp] theorem failureLabel_errorDoc (w : World) (e : Error) :
    (w.errorDoc e).failureLabel = some e.label := rfl

@[simp] theorem failureLabel_extend_errorDoc (w : World) (e : Error)
    (extra : List (String × Doc)) : ((w.errorDoc e).extend extra).failureLabel = some e.label :=
  rfl

@[simp] theorem failureLabel_misuse (m : String) : (misuse m).failureLabel = some "DriverError" :=
  rfl

@[simp] theorem failureLabel_ok (v : Doc) : (ok v).failureLabel = none := rfl

@[simp] theorem failureLabel_okWith (v : Doc) (extra : List (String × Doc)) :
    (okWith v extra).failureLabel = none := rfl

@[simp] theorem extend_errorDoc_nil (w : World) (e : Error) :
    (w.errorDoc e).extend [] = w.errorDoc e := by
  simp [extend, World.errorDoc, ofError, failure]

end Doc

end Session
end Descriptors
