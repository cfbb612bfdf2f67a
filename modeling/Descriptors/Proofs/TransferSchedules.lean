import Descriptors.Job
/-! # Blocking transfers under any schedule of calls

A blocking read of `n` bytes issues `read(2)` calls until `n` bytes have arrived, the stream
has ended, or a call failed with anything but `EINTR`; a blocking write issues `write(2)` calls
until every byte is gone, a call accepted nothing, or a call failed. Each call may be
interrupted, fail, report the end of the stream (for a write: accept nothing), or move any
number of bytes from one up to what it was asked for.

A schedule of calls is stated against the other side: the bytes a reader will still receive,
and the bytes a writer's sink has taken. Whatever the chunking and wherever the interruptions
fall, a read receives what one read of `n` bytes would, and a write delivers a prefix of its
bytes, in order and each once, all of them unless a call accepted nothing. A failure keeps the
count moved before it, and besides the interrupted calls at most `n` are issued. -/
namespace Descriptors

/-- What a reader will still receive: `bytes`, then the end of the stream when `ended`. -/
structure Incoming where
  bytes : List UInt8
  ended : Bool

namespace Incoming

/-- The source once its first `k` bytes were received. -/
def consume (s : Incoming) (k : Nat) : Incoming := ⟨s.bytes.drop k, s.ended⟩

@[simp] theorem bytes_consume (s : Incoming) (k : Nat) : (s.consume k).bytes = s.bytes.drop k :=
  rfl

@[simp] theorem ended_consume (s : Incoming) (k : Nat) : (s.consume k).ended = s.ended := rfl

end Incoming

namespace ReadCall

/-- What one `read(2)` asking for `want` bytes may do to the source `s`, and the source it
leaves: an interruption or a failure takes nothing; the end of the stream is reported once
nothing is left and the stream ended; otherwise the next `1..want` bytes arrive, in order. -/
inductive Allowed : Incoming → Nat → ReadCall → Incoming → Prop
  | interrupted (s : Incoming) (want : Nat) : Allowed s want .interrupted s
  | failed (s : Incoming) (want : Nat) (e : IoError) : Allowed s want (.failed e) s
  | endOfStream (s : Incoming) (want : Nat) :
      s.bytes = [] → s.ended = true → Allowed s want .endOfStream s
  | received (s : Incoming) (want k : Nat) : 0 < k → k ≤ want → k ≤ s.bytes.length →
      Allowed s want (.received (s.bytes.take k)) (s.consume k)

end ReadCall

namespace ReadLoop

/-- `l` runs through the calls `calls` against the source `s` and ends as `l'`, leaving the
source `s'`. A call is issued only while the loop runs, and asks for what it still wants. -/
inductive Runs : Incoming → ReadLoop → List ReadCall → Incoming → ReadLoop → Prop
  | done (s : Incoming) (l : ReadLoop) : Runs s l [] s l
  | call {s s₁ s' : Incoming} {left : Nat} {cs : List (List UInt8)} {c : ReadCall}
      {calls : List ReadCall} {l' : ReadLoop} :
      ReadCall.Allowed s left c s₁ → Runs s₁ ((running left cs).step c) calls s' l' →
      Runs s (running left cs) (c :: calls) s' l'

/-- The schedule of a run is what the loop's own `run` goes through. -/
theorem Runs.run_eq {s s' : Incoming} {l l' : ReadLoop} {calls : List ReadCall}
    (h : Runs s l calls s' l') : l.run calls = l' := by
  induction h with
  | done => rfl
  | call _ _ ih => simpa [run] using ih

@[simp] theorem gathered_nil : gathered [] = [] := rfl

@[simp] theorem gathered_cons (bs : List UInt8) (cs : List (List UInt8)) :
    gathered (bs :: cs) = gathered cs ++ bs := by
  simp [gathered]

/-- How a read of `n` bytes from `S` stands once the source is left as `s`: what arrived,
followed by what is left, is all of `S`. A running loop still wants `left > 0` bytes; a
finished one holds the first `n` bytes of `S` (fewer only when `S` ended first), unless a
failure stopped it short of `n`. -/
def Tracks (S : Incoming) (n : Nat) (s : Incoming) : ReadLoop → Prop
  | running left cs =>
    gathered cs ++ s.bytes = S.bytes ∧ s.ended = S.ended ∧ 0 < left ∧
      left + (gathered cs).length = n
  | finished got err =>
    got ++ s.bytes = S.bytes ∧ s.ended = S.ended ∧ (err = none → got = S.bytes.take n) ∧
      ∀ e, err = some e → got.length < n

theorem tracks_start (S : Incoming) (n : Nat) : Tracks S n S (start n) := by
  unfold start
  split <;> simp_all [Tracks]
  omega

/-- One call keeps the loop in step with its source. -/
theorem Tracks.step {S s s₁ : Incoming} {n left : Nat} {cs : List (List UInt8)} {c : ReadCall}
    (ht : Tracks S n s (running left cs)) (hc : ReadCall.Allowed s left c s₁) :
    Tracks S n s₁ ((running left cs).step c) := by
  obtain ⟨hsrc, hend, hleft, hn⟩ := ht
  cases hc with
  | interrupted => exact ⟨hsrc, hend, hleft, hn⟩
  | failed e => exact ⟨hsrc, hend, by simp, fun _ _ => by omega⟩
  | endOfStream hnil _ =>
    -- the source is used up, so what arrived is all of it, and fewer than `n` bytes
    have hall : gathered cs = S.bytes := by simpa [hnil] using hsrc
    refine ⟨hsrc, hend, fun _ => ?_, by simp⟩
    rw [← hall, List.take_of_length_le (by omega)]
  | received k hk hkw hks =>
    have hlen : (s.bytes.take k).length = k := by simp [List.length_take]; omega
    have hsrc' : gathered cs ++ s.bytes.take k ++ s.bytes.drop k = S.bytes := by
      rw [List.append_assoc, List.take_append_drop, hsrc]
    by_cases hlt : k < left
    · simp only [ReadLoop.step, hlen, hlt, if_true]
      exact ⟨by simpa using hsrc', hend, by omega, by simp [hlen]; omega⟩
    · -- the last chunk completes the request: `n` bytes arrived
      simp only [ReadLoop.step, hlen, hlt, if_false]
      refine ⟨by simpa using hsrc', hend, fun _ => ?_, by simp⟩
      rw [← hsrc, gathered_cons, ← hn, show left = k by omega, Nat.add_comm,
        List.take_length_add_append]

/-- A whole run keeps the loop in step with its source. -/
theorem Runs.tracks {S s s' : Incoming} {n : Nat} {l l' : ReadLoop} {calls : List ReadCall}
    (h : Runs s l calls s' l') (ht : Tracks S n s l) : Tracks S n s' l' := by
  induction h with
  | done => exact ht
  | call hc _ ih => exact ih (ht.step hc)

/-- A call other than an interruption leaves the loop wanting fewer bytes, or ends it. -/
theorem Tracks.request_step {S s s₁ : Incoming} {n left : Nat} {cs : List (List UInt8)}
    {c : ReadCall} (ht : Tracks S n s (running left cs)) (hc : ReadCall.Allowed s left c s₁) :
    ((running left cs).step c).request + (if (c != .interrupted) = true then 1 else 0) ≤ left := by
  have hleft : 0 < left := ht.2.2.1
  cases hc with
  | interrupted => simp [ReadLoop.step, request]
  | failed e => simp [ReadLoop.step, request]; omega
  | endOfStream => simp [ReadLoop.step, request]; omega
  | received k hk hkw hks =>
    have hlen : (s.bytes.take k).length = k := by simp [List.length_take]; omega
    by_cases hlt : k < left
    · simp [ReadLoop.step, hlen, hlt, request]; omega
    · simp [ReadLoop.step, hlen, hlt, request]; omega

/-- Besides the interruptions, a run issues at most as many calls as bytes are still
wanted. -/
theorem Runs.calls_le {S s s' : Incoming} {n : Nat} {l l' : ReadLoop} {calls : List ReadCall}
    (h : Runs s l calls s' l') (ht : Tracks S n s l) :
    calls.countP (· != .interrupted) ≤ l.request := by
  induction h with
  | done => simp
  | call hc _ ih =>
    have hstep := ht.request_step hc
    have hrest := ih (ht.step hc)
    rw [List.countP_cons]
    simp only [request]
    omega

/-- A read of `n` bytes under any schedule of calls: what arrives is a prefix of the source
and exactly that much is taken from it; without a failure it is the first `n` bytes, all that
one read of `n` bytes would give; a failure stops it short of `n`. Besides interruptions at
most `n` calls are issued. -/
theorem Runs.read_outcome {S s' : Incoming} {n : Nat} {calls : List ReadCall}
    {got : List UInt8} {err : Option IoError}
    (h : Runs S (start n) calls s' (finished got err)) :
    calls.countP (· != .interrupted) ≤ n ∧ got = S.bytes.take got.length ∧
      s' = S.consume got.length ∧ (err = none → got = S.bytes.take n) ∧
      ∀ e, err = some e → got.length < n := by
  have hcalls := h.calls_le (tracks_start S n)
  obtain ⟨hsrc, hend, hok, hfail⟩ := h.tracks (tracks_start S n)
  have hreq : (start n).request = n := by unfold start; split <;> simp_all [request]
  have htake : got = S.bytes.take got.length := by
    rw [← hsrc, List.take_left' rfl]
  refine ⟨hreq ▸ hcalls, htake, ?_, hok, hfail⟩
  have hdrop : S.bytes.drop got.length = s'.bytes := by rw [← hsrc, List.drop_left]
  simp only [Incoming.consume, hdrop, ← hend]

end ReadLoop

namespace WriteCall

/-- What one `write(2)` offered the bytes `offered` may do, and the bytes it hands to the sink:
an interruption, a failure or a call that accepts nothing hands over nothing; otherwise the
first `1..|offered|` bytes go, in order. -/
inductive Allowed : List UInt8 → WriteCall → List UInt8 → Prop
  | interrupted (offered : List UInt8) : Allowed offered .interrupted []
  | failed (offered : List UInt8) (e : IoError) : Allowed offered (.failed e) []
  | refused (offered : List UInt8) : Allowed offered .refused []
  | accepted (offered : List UInt8) (k : Nat) : 0 < k → k ≤ offered.length →
      Allowed offered (.accepted k) (offered.take k)

end WriteCall

namespace WriteLoop

/-- `l` runs through the calls `calls` while the sink, holding `sink`, takes what they hand
over, and ends as `l'` with the sink holding `sink'`. A call is issued only while the loop
runs, and is offered what is still to be sent. -/
inductive Runs : List UInt8 → WriteLoop → List WriteCall → List UInt8 → WriteLoop → Prop
  | done (sink : List UInt8) (l : WriteLoop) : Runs sink l [] sink l
  | call {sink out sink' rest : List UInt8} {sent : Nat} {c : WriteCall}
      {calls : List WriteCall} {l' : WriteLoop} :
      WriteCall.Allowed rest c out → Runs (sink ++ out) ((running rest sent).step c) calls sink' l' →
      Runs sink (running rest sent) (c :: calls) sink' l'

/-- The schedule of a run is what the loop's own `run` goes through. -/
theorem Runs.run_eq {sink sink' : List UInt8} {l l' : WriteLoop} {calls : List WriteCall}
    (h : Runs sink l calls sink' l') : l.run calls = l' := by
  induction h with
  | done => rfl
  | call _ _ ih => simpa [run] using ih

/-- How a write of the bytes `D` stands once the sink, which held `base` before it, holds
`sink`: the sink took exactly the first `sent` bytes of `D` after `base`. A running loop still
offers the rest, which is not empty; a failure stops it short of all of `D`. -/
def Tracks (D base sink : List UInt8) : WriteLoop → Prop
  | running rest sent => sink = base ++ D.take sent ∧ rest = D.drop sent ∧ sent < D.length
  | finished sent err =>
    sink = base ++ D.take sent ∧ sent ≤ D.length ∧ ∀ e, err = some e → sent < D.length

theorem tracks_start (D base : List UInt8) : Tracks D base base (start D) := by
  unfold start
  cases D <;> simp [Tracks]

/-- One call keeps the loop in step with its sink. -/
theorem Tracks.step {D base sink rest out : List UInt8} {sent : Nat} {c : WriteCall}
    (ht : Tracks D base sink (running rest sent)) (hc : WriteCall.Allowed rest c out) :
    Tracks D base (sink ++ out) ((running rest sent).step c) := by
  obtain ⟨hsink, hrest, hsent⟩ := ht
  cases hc with
  | interrupted => exact ⟨by simpa using hsink, hrest, hsent⟩
  | failed e => exact ⟨by simpa using hsink, by omega, fun _ _ => hsent⟩
  | refused => exact ⟨by simpa using hsink, by omega, by simp⟩
  | accepted k hk hkr =>
    -- the sink now holds the first `sent + k` bytes
    have hsink' : sink ++ rest.take k = base ++ D.take (sent + k) := by
      rw [hsink, hrest, List.take_add, List.append_assoc]
    have hlen : rest.length = D.length - sent := by rw [hrest, List.length_drop]
    cases hd : rest.drop k with
    | nil =>
      have : rest.length ≤ k := List.drop_eq_nil_iff.1 hd
      simp only [WriteLoop.step, hd]
      exact ⟨hsink', by omega, by simp⟩
    | cons b bs =>
      have : ¬ rest.length ≤ k := fun hle => by simp [List.drop_eq_nil_iff.2 hle] at hd
      simp only [WriteLoop.step, hd]
      exact ⟨hsink', by rw [← hd, hrest, List.drop_drop], by omega⟩

/-- A whole run keeps the loop in step with its sink. -/
theorem Runs.tracks {D base sink sink' : List UInt8} {l l' : WriteLoop}
    {calls : List WriteCall} (h : Runs sink l calls sink' l') (ht : Tracks D base sink l) :
    Tracks D base sink' l' := by
  induction h with
  | done => exact ht
  | call hc _ ih => exact ih (ht.step hc)

/-- A call that neither fails nor accepts nothing and still ends the loop has sent the last
byte. -/
theorem Tracks.sent_all_step {D base sink rest out : List UInt8} {sent sent' : Nat}
    {c : WriteCall} (ht : Tracks D base sink (running rest sent))
    (hc : WriteCall.Allowed rest c out) (hr : c ≠ .refused)
    (hfin : (running rest sent).step c = finished sent' none) : sent' = D.length := by
  obtain ⟨_, hrest, hsent⟩ := ht
  cases hc with
  | interrupted => simp [WriteLoop.step] at hfin
  | failed e => simp [WriteLoop.step] at hfin
  | refused => exact absurd rfl hr
  | accepted k hk hkr =>
    have hlen : rest.length = D.length - sent := by rw [hrest, List.length_drop]
    cases hd : rest.drop k with
    | nil =>
      have : rest.length ≤ k := List.drop_eq_nil_iff.1 hd
      simp only [WriteLoop.step, hd, finished.injEq] at hfin
      omega
    | cons b bs => simp [WriteLoop.step, hd] at hfin

/-- A run in which no call accepted nothing, and which ends without a failure, sent every
byte, unless it issued no call at all. -/
theorem Runs.sent_all {D base sink sink' : List UInt8} {l l' : WriteLoop}
    {calls : List WriteCall} (h : Runs sink l calls sink' l') (ht : Tracks D base sink l)
    (hr : .refused ∉ calls) {sent' : Nat} (hl' : l' = finished sent' none) :
    l = finished sent' none ∨ sent' = D.length := by
  induction h with
  | done => exact .inl hl'
  | call hc _ ih =>
    have hc' : _ ≠ WriteCall.refused := fun he => hr (he ▸ List.mem_cons_self)
    rcases ih (ht.step hc) (fun hm => hr (List.mem_cons_of_mem _ hm)) hl' with hfin | hall
    · exact .inr (ht.sent_all_step hc hc' hfin)
    · exact .inr hall

/-- A call other than an interruption leaves fewer bytes to send, or ends the loop. -/
theorem Tracks.pending_step {D base sink rest out : List UInt8} {sent : Nat} {c : WriteCall}
    (ht : Tracks D base sink (running rest sent)) (hc : WriteCall.Allowed rest c out) :
    ((running rest sent).step c).pending.length + (if (c != .interrupted) = true then 1 else 0) ≤
      rest.length := by
  obtain ⟨_, hrest, hsent⟩ := ht
  have hpos : 0 < rest.length := by rw [hrest, List.length_drop]; omega
  cases hc with
  | interrupted => simp [WriteLoop.step, pending]
  | failed e => simp [WriteLoop.step, pending]; omega
  | refused => simp [WriteLoop.step, pending]; omega
  | accepted k hk hkr =>
    cases hd : rest.drop k with
    | nil => simp [WriteLoop.step, hd, pending]; omega
    | cons b bs =>
      have hlen : bs.length + 1 = rest.length - k := by
        rw [← List.length_cons, ← hd, List.length_drop]
      simp [WriteLoop.step, hd, pending]
      omega

/-- Besides the interruptions, a run issues at most as many calls as bytes are still to
send. -/
theorem Runs.calls_le {D base sink sink' : List UInt8} {l l' : WriteLoop}
    {calls : List WriteCall} (h : Runs sink l calls sink' l') (ht : Tracks D base sink l) :
    calls.countP (· != .interrupted) ≤ l.pending.length := by
  induction h with
  | done => simp
  | call hc _ ih =>
    have hstep := ht.pending_step hc
    have hrest := ih (ht.step hc)
    rw [List.countP_cons]
    simp only [pending]
    omega

/-- A write of the bytes `D` under any schedule of calls: the sink takes the first `sent` of
them, in order and each once, and all of them unless a call accepted nothing; a failure stops
it short of all of `D`. Besides interruptions at most `|D|` calls are issued. -/
theorem Runs.write_outcome {D base sink : List UInt8} {calls : List WriteCall} {sent : Nat}
    {err : Option IoError} (h : Runs base (start D) calls sink (finished sent err)) :
    calls.countP (· != .interrupted) ≤ D.length ∧ sink = base ++ D.take sent ∧
      sent ≤ D.length ∧ (err = none → .refused ∉ calls → sent = D.length) ∧
      ∀ e, err = some e → sent < D.length := by
  have hcalls := h.calls_le (tracks_start D base)
  obtain ⟨hsink, hle, hfail⟩ := h.tracks (tracks_start D base)
  have hpend : (start D).pending.length ≤ D.length := by
    unfold start; split <;> simp [pending]
  refine ⟨by omega, hsink, hle, fun he hr => ?_, hfail⟩
  subst he
  rcases h.sent_all (tracks_start D base) hr rfl with hfin | hall
  · -- nothing to send: the loop was finished from the start
    unfold start at hfin
    split at hfin <;> simp_all
  · exact hall

end WriteLoop

/-- The region handed back keeps its length when what arrived fits it. -/
theorem Job.length_handBack {region got : List UInt8} (h : got.length ≤ region.length) :
    (Job.handBack region got).length = region.length := by
  simp [Job.handBack]
  omega

/-- A blocking transfer of `n` bytes over a buffer `region` of at least one and at least `n`
bytes: the capacity check passes, then whatever the calls do the transfer reports what one
atomic transfer would. A read that meets no failure returns `min n |S|` bytes, the first bytes
of the source: the buffer's front becomes those bytes, the rest of the buffer stays, and exactly
they are taken from the source. A write hands the sink the buffer's first bytes, in order and
each once, all `n` unless a call accepted nothing. A failure reports the count moved before it.
Besides interruptions at most `n` calls are issued. (`Transfer.start` over `region` is
`ReadLoop.start n` for a read and `WriteLoop.start (region.take n)` for a write.) -/
theorem blocking_transfer_matches_atomic (fd : Int) (region : List UInt8) (n : Nat)
    (hL : 0 < region.length) (hn : n ≤ region.length) :
    checkCapacity n region.length = .ok () ∧
    (∀ (S s' : Incoming) (calls : List ReadCall) (got : List UInt8) (err : Option IoError),
      ReadLoop.Runs S (ReadLoop.start n) calls s' (.finished got err) →
      calls.countP (· != .interrupted) ≤ n ∧ s' = S.consume got.length ∧
      Job.handBack region got = S.bytes.take got.length ++ region.drop got.length ∧
      (Job.handBack region got).length = region.length ∧
      (err = none → got = S.bytes.take n ∧
        transferResult .read fd got.length err = .ok (min n S.bytes.length)) ∧
      ∀ e, err = some e → got.length < n ∧
        transferResult .read fd got.length err = .error (.transfer .read fd got.length e)) ∧
    (∀ (base sink : List UInt8) (calls : List WriteCall) (sent : Nat) (err : Option IoError),
      WriteLoop.Runs base (WriteLoop.start (region.take n)) calls sink (.finished sent err) →
      calls.countP (· != .interrupted) ≤ n ∧ sink = base ++ region.take sent ∧ sent ≤ n ∧
      (err = none → (.refused ∉ calls → sent = n) ∧ transferResult .write fd sent err = .ok sent) ∧
      ∀ e, err = some e → sent < n ∧
        transferResult .write fd sent err = .error (.transfer .write fd sent e)) := by
  have hcap : checkCapacity n region.length = .ok () := by
    rw [checkCapacity, if_neg (by omega)]
  refine ⟨hcap, fun S s' calls got err h => ?_, fun base sink calls sent err h => ?_⟩
  · obtain ⟨hcalls, hprefix, hsrc, hok, hfail⟩ := h.read_outcome
    -- what arrived fits the buffer, since at most `n` bytes arrive
    have hfit : got.length ≤ n := by
      cases err with
      | none => rw [hok rfl, List.length_take]; exact Nat.min_le_left _ _
      | some e => exact Nat.le_of_lt (hfail e rfl)
    refine ⟨hcalls, hsrc, by rw [Job.handBack, ← hprefix], Job.length_handBack (by omega),
      fun he => ⟨hok he, ?_⟩, fun e he => ⟨hfail e he, by simp [he, transferResult]⟩⟩
    subst he
    rw [hok rfl]
    simp [transferResult]
  · have hD : (region.take n).length = n := by simp; omega
    obtain ⟨hcalls, hsink, hle, hall, hfail⟩ := h.write_outcome
    rw [hD] at hcalls hle hall hfail
    refine ⟨hcalls, by rw [hsink, List.take_take, Nat.min_eq_left hle], hle,
      fun he => ⟨hall he, by simp [he, transferResult]⟩,
      fun e he => ⟨hfail e he, by simp [he, transferResult]⟩⟩

/-- Three bytes read into a four-byte buffer from a source of five, in two chunks around an
interruption: the buffer's front takes them, its last byte stays, and two bytes are left. -/
theorem read_in_two_chunks :
    0 < [(0 : UInt8), 0, 0, 0].length ∧ 3 ≤ [(0 : UInt8), 0, 0, 0].length ∧
      ReadLoop.Runs ⟨[1, 2, 3, 4, 5], false⟩ (ReadLoop.start 3)
        [.received [1], .interrupted, .received [2, 3]] ⟨[4, 5], false⟩
        (.finished [1, 2, 3] none) ∧
      Job.handBack [0, 0, 0, 0] [1, 2, 3] = [1, 2, 3, 0] := by
  have hrun : ReadLoop.Runs ⟨[1, 2, 3, 4, 5], false⟩ (ReadLoop.start 3)
      [.received [1], .interrupted, .received [2, 3]] ⟨[4, 5], false⟩
      (.finished [1, 2, 3] none) :=
    .call (.received _ 3 1 (by decide) (by decide) (by decide))
      (.call (.interrupted _ _)
        (.call (.received _ 2 2 (by decide) (by decide) (by decide)) (.done _ _)))
  obtain ⟨-, hread, -⟩ := blocking_transfer_matches_atomic 7 [0, 0, 0, 0] 3 (by decide) (by decide)
  obtain ⟨-, -, hback, -⟩ := hread _ _ _ _ _ hrun
  exact ⟨by decide, by decide, hrun, hback⟩

end Descriptors
