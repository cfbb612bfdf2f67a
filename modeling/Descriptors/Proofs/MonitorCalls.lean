import Mathlib.Data.List.Perm.Basic
import Descriptors.Monitor
/-! # The monitor under any sequence of calls

A monitor keeps what it watches three times over: the watched numbers, the highest of them,
and the associations in registration order. Starting and stopping keep the three in
agreement, whatever numbers they are given and in whatever order, directly or from an observer
during a dispatch: no number is associated twice, the watched numbers are exactly the
associated ones and all fit the readiness set, and the highest is their maximum. Stopping
recomputes the highest only when the number stopped was the highest, which is right because
no number is associated twice. The associations are those the calls' plain rule leaves:
a successful start appends, a stop removes. -/
namespace Descriptors
namespace Monitor

variable {α : Type}

/-- A call that may change a monitor. -/
inductive Call (α : Type) where
  | start (observer : α) (fd : Int)
  | stop (fd : Int)

namespace Call

/-- What the call returns on a monitor. -/
def result : Call α → Monitor α → Except Error (Monitor α)
  | start ob fd, m => m.start ob fd
  | stop fd, m => m.stop fd

/-- What a call leaves of a list of associations by the rule alone: the start of a number in
range that no association has appends it; a stop removes the number's association. -/
def onAssociations (as : List (Association α)) : Call α → List (Association α)
  | start ob fd => if inRange fd && !as.any (·.fd == fd) then as ++ [⟨fd, ob⟩] else as
  | stop fd => as.filter (·.fd != fd)

end Call

/-- The monitor a call leaves: the one it returns, or the same one when it fails. -/
def perform (m : Monitor α) (c : Call α) : Monitor α :=
  match c.result m with
  | .ok m' => m'
  | .error _ => m

/-- A new monitor after a sequence of calls. -/
def replay (cs : List (Call α)) : Monitor α := cs.foldl perform empty

section Highest

/-! `highestOf` is a fold of `max` from `-1`; these are its facts from any starting value. -/

variable {as : List (Association α)}

theorem le_foldl_max_fd (h : Int) (as : List (Association α)) :
    h ≤ as.foldl (fun h a => max h a.fd) h := by
  induction as generalizing h with
  | nil => exact Int.le_refl h
  | cons a as ih => exact Int.le_trans (Int.le_max_left h a.fd) (ih _)

theorem fd_le_foldl_max_fd (h : Int) {a : Association α} (ha : a ∈ as) :
    a.fd ≤ as.foldl (fun h a => max h a.fd) h := by
  induction as generalizing h with
  | nil => simp at ha
  | cons b as ih =>
    rcases List.mem_cons.1 ha with rfl | ha
    · exact Int.le_trans (Int.le_max_right h a.fd) (le_foldl_max_fd _ as)
    · exact ih _ ha

theorem foldl_max_fd_le {h b : Int} (hb : h ≤ b) (hall : ∀ a ∈ as, a.fd ≤ b) :
    as.foldl (fun h a => max h a.fd) h ≤ b := by
  induction as generalizing h with
  | nil => exact hb
  | cons a as ih =>
    exact ih (Int.max_le.2 ⟨hb, hall a (by simp)⟩) (fun x hx => hall x (by simp [hx]))

theorem foldl_max_fd_eq_or_mem (h : Int) (as : List (Association α)) :
    as.foldl (fun h a => max h a.fd) h = h ∨
      ∃ a ∈ as, a.fd = as.foldl (fun h a => max h a.fd) h := by
  induction as generalizing h with
  | nil => exact .inl rfl
  | cons a as ih =>
    rcases ih (max h a.fd) with he | ⟨b, hb, he⟩
    · -- the fold stopped at `max h a.fd`: either the start or `a`
      simp only [List.foldl_cons, he]
      rcases Int.le_total h a.fd with hle | hle
      · exact .inr ⟨a, by simp, (Int.max_eq_right hle).symm⟩
      · exact .inl (Int.max_eq_left hle)
    · exact .inr ⟨b, by simp [hb], he⟩

theorem highestOf_append (a : Association α) :
    highestOf (as ++ [a]) = max (highestOf as) a.fd := by
  simp [highestOf, List.foldl_append]

theorem neg_one_le_highestOf : -1 ≤ highestOf as := le_foldl_max_fd _ _

theorem fd_le_highestOf {a : Association α} (ha : a ∈ as) : a.fd ≤ highestOf as :=
  fd_le_foldl_max_fd _ ha

/-- The highest of a list whose numbers are not negative is one of them, unless it is empty. -/
theorem highestOf_mem (hne : as ≠ []) (hpos : ∀ a ∈ as, 0 ≤ a.fd) :
    ∃ a ∈ as, a.fd = highestOf as := by
  rcases foldl_max_fd_eq_or_mem (-1) as with he | hm
  · obtain ⟨a, ha⟩ := List.exists_mem_of_ne_nil as hne
    have h₁ := fd_le_highestOf ha
    have h₂ := hpos a ha
    simp only [highestOf] at h₁
    omega
  · exact hm

/-- Removing a number that is not the highest keeps the highest. -/
theorem highestOf_filter_of_ne {x : Int} (hx : x ≠ highestOf as) :
    highestOf (as.filter (·.fd != x)) = highestOf as := by
  apply Int.le_antisymm
  · exact foldl_max_fd_le neg_one_le_highestOf
      (fun a ha => fd_le_highestOf (List.mem_of_mem_filter ha))
  · rcases foldl_max_fd_eq_or_mem (-1) as with he | ⟨a, ha, he⟩
    · have he' : highestOf as = -1 := he
      rw [he']
      exact neg_one_le_highestOf
    · -- the association that attains the highest is kept
      have he' : a.fd = highestOf as := he
      have hk : a ∈ as.filter (·.fd != x) := by
        simp only [List.mem_filter, ha, true_and, bne_iff_ne, ne_eq]
        exact fun hax => hx (hax ▸ he')
      rw [← he']
      exact fd_le_highestOf hk

end Highest

/-- The three views of a monitor agree: no number is associated twice, the watched numbers are
the associated ones in registration order, all fit the readiness set, and the highest is their
maximum. -/
structure Valid (m : Monitor α) : Prop where
  nodup : (m.associations.map (·.fd)).Nodup
  watched_eq : m.watched = m.associations.map (·.fd)
  in_range : ∀ a ∈ m.associations, inRange a.fd = true
  highest_eq : m.highest = highestOf m.associations

theorem inRange_iff {fd : Int} : inRange fd = true ↔ 0 ≤ fd ∧ fd < 1024 := by
  unfold inRange setSize
  simp only [Bool.and_eq_true, decide_eq_true_eq]

section Calls

variable {m m' : Monitor α} {ob : α} {fd : Int}

theorem start_of_not_inRange (h : inRange fd = false) :
    m.start ob fd = .error (.outOfRange fd) := by
  simp [start, h]

theorem start_of_watched (hr : inRange fd = true) (hw : fd ∈ m.watched) :
    m.start ob fd = .error (.alreadyMonitored fd) := by
  simp [start, hr, hw]

theorem start_of_fresh (hr : inRange fd = true) (hw : fd ∉ m.watched) :
    m.start ob fd = .ok { watched := m.watched ++ [fd], highest := max m.highest fd,
                          associations := m.associations ++ [⟨fd, ob⟩] } := by
  simp [start, hr, hw]

theorem stop_of_not_monitored (h : m.isMonitored fd = false) :
    m.stop fd = .error (.notMonitored fd) := by
  simp [stop, h]

theorem stop_of_monitored (h : m.isMonitored fd = true) :
    m.stop fd = .ok { watched := m.watched.erase fd,
                      associations := m.associations.filter (·.fd != fd),
                      highest := if fd == m.highest then highestOf
                        (m.associations.filter (·.fd != fd)) else m.highest } := by
  simp [stop, h]

theorem start_eq_outOfRange_iff : m.start ob fd = .error (.outOfRange fd) ↔ inRange fd = false := by
  cases hr : inRange fd
  · simp [start_of_not_inRange hr]
  · by_cases hw : fd ∈ m.watched
    · simp [start_of_watched hr hw]
    · simp [start_of_fresh hr hw]

theorem start_eq_alreadyMonitored_iff (hr : inRange fd = true) :
    m.start ob fd = .error (.alreadyMonitored fd) ↔ m.isMonitored fd = true := by
  by_cases hw : fd ∈ m.watched
  · simp [start_of_watched hr hw, isMonitored, hr, hw]
  · simp [start_of_fresh hr hw, isMonitored, hw]

/-- A start fails only for a number out of range or already watched. -/
theorem start_error {e : Error} (he : m.start ob fd = .error e) :
    e = .outOfRange fd ∨ e = .alreadyMonitored fd := by
  cases hr : inRange fd
  · rw [start_of_not_inRange hr] at he
    cases he
    exact .inl rfl
  · by_cases hw : fd ∈ m.watched
    · rw [start_of_watched hr hw] at he
      cases he
      exact .inr rfl
    · simp [start_of_fresh hr hw] at he

/-- A number joins the watched set only when it fits it. -/
theorem inRange_of_start (hs : m.start ob fd = .ok m') : inRange fd = true := by
  cases hr : inRange fd
  · simp [start_of_not_inRange hr] at hs
  · rfl

theorem stop_eq_notMonitored_iff : m.stop fd = .error (.notMonitored fd) ↔ m.isMonitored fd = false := by
  cases hm : m.isMonitored fd
  · simp [stop_of_not_monitored hm]
  · simp [stop_of_monitored hm]

theorem stop_error {e : Error} (he : m.stop fd = .error e) : e = .notMonitored fd := by
  cases hm : m.isMonitored fd
  · rw [stop_of_not_monitored hm] at he
    cases he
    rfl
  · simp [stop_of_monitored hm] at he

/-- A number leaves the watched set only when it fits it. -/
theorem inRange_of_stop (hs : m.stop fd = .ok m') : inRange fd = true := by
  cases hm : m.isMonitored fd
  · simp [stop_of_not_monitored hm] at hs
  · simp only [isMonitored, Bool.and_eq_true] at hm
    exact hm.1

end Calls

namespace Valid

variable {m m' : Monitor α} {ob : α} {fd : Int}

theorem empty : Valid (empty : Monitor α) :=
  ⟨List.nodup_nil, rfl, by simp [Monitor.empty], rfl⟩

theorem mem_watched_iff (h : Valid m) : fd ∈ m.watched ↔ ∃ a ∈ m.associations, a.fd = fd := by
  simp [h.watched_eq]

/-- A number is monitored exactly when some association has it. -/
theorem isMonitored_iff (h : Valid m) : m.isMonitored fd = true ↔ ∃ a ∈ m.associations, a.fd = fd := by
  rw [isMonitored, Bool.and_eq_true, List.contains_iff_mem, h.mem_watched_iff]
  constructor
  · exact fun hm => hm.2
  · rintro ⟨a, ha, rfl⟩
    exact ⟨h.in_range a ha, a, ha, rfl⟩

theorem start (h : Valid m) (hs : m.start ob fd = .ok m') : Valid m' := by
  cases hr : inRange fd
  · simp [start_of_not_inRange hr] at hs
  by_cases hw : fd ∈ m.watched
  · simp [start_of_watched hr hw] at hs
  · rw [start_of_fresh hr hw] at hs
    cases hs
    -- the number is new, so it joins every view at the end
    have hfresh : fd ∉ m.associations.map (·.fd) := h.watched_eq ▸ hw
    refine ⟨?_, by simp [h.watched_eq], ?_, ?_⟩
    · simpa [List.nodup_append] using
        ⟨h.nodup, fun b hb => fun hbf => hfresh (hbf ▸ List.mem_map_of_mem hb)⟩
    · simpa [or_imp, forall_and] using ⟨h.in_range, hr⟩
    · simp [h.highest_eq, highestOf_append]

theorem stop (h : Valid m) (hs : m.stop fd = .ok m') : Valid m' := by
  cases hm : m.isMonitored fd
  · simp [stop_of_not_monitored hm] at hs
  rw [stop_of_monitored hm] at hs
  cases hs
  have hsub := (List.filter_sublist (p := (·.fd != fd)) (l := m.associations)).map (·.fd)
  refine ⟨h.nodup.sublist hsub, ?_, ?_, ?_⟩
  · -- erasing from a list without repeats is filtering it
    rw [h.watched_eq, h.nodup.erase_eq_filter, List.filter_map]
    rfl
  · exact fun a ha => h.in_range a (List.mem_of_mem_filter ha)
  · by_cases hfd : fd = m.highest
    · simp [hfd]
    · simp only [beq_iff_eq, hfd, if_false]
      rw [highestOf_filter_of_ne (h.highest_eq ▸ hfd), h.highest_eq]

theorem perform (h : Valid m) (c : Call α) : Valid (m.perform c) := by
  unfold Monitor.perform
  split
  · rename_i m' hc
    cases c with
    | start ob fd => exact h.start hc
    | stop fd => exact h.stop hc
  · exact h

/-- Calls from a valid monitor leave it valid. -/
theorem foldl_perform (h : Valid m) (cs : List (Call α)) : Valid (cs.foldl Monitor.perform m) := by
  induction cs generalizing m with
  | nil => exact h
  | cons c cs ih => exact ih (h.perform c)

end Valid

namespace Valid

variable {m : Monitor α}

/-- Each call changes the associations by the plain rule. -/
theorem perform_associations (h : Valid m) (c : Call α) :
    (m.perform c).associations = c.onAssociations m.associations := by
  cases c with
  | start ob fd =>
    cases hr : inRange fd
    · simp [Monitor.perform, Call.result, start_of_not_inRange hr, Call.onAssociations, hr]
    · by_cases hw : fd ∈ m.watched
      · -- already watched: some association has the number
        obtain ⟨a, ha, hfd⟩ := h.mem_watched_iff.1 hw
        have hany : m.associations.any (·.fd == fd) = true := List.any_eq_true.2 ⟨a, ha, by simp [hfd]⟩
        simp [Monitor.perform, Call.result, start_of_watched hr hw, Call.onAssociations, hany]
      · have hany : m.associations.any (·.fd == fd) = false := by
          simpa [h.mem_watched_iff] using hw
        simp [Monitor.perform, Call.result, start_of_fresh hr hw, Call.onAssociations, hr, hany]
  | stop fd =>
    cases hm : m.isMonitored fd
    · -- not monitored: no association has the number, so the rule removes nothing
      have hnone : ∀ a ∈ m.associations, a.fd ≠ fd := fun a ha hfd => by
        simp [h.isMonitored_iff.2 ⟨a, ha, hfd⟩] at hm
      simp only [Monitor.perform, Call.result, stop_of_not_monitored hm, Call.onAssociations]
      exact (List.filter_eq_self.2 fun a ha => by simpa using hnone a ha).symm
    · simp [Monitor.perform, Call.result, stop_of_monitored hm, Call.onAssociations]

theorem foldl_associations (h : Valid m) (cs : List (Call α)) :
    (cs.foldl Monitor.perform m).associations = cs.foldl Call.onAssociations m.associations := by
  induction cs generalizing m with
  | nil => rfl
  | cons c cs ih => simpa [h.perform_associations c] using ih (h.perform c)

/-- The highest is the largest associated number, or `-1` when there is none. -/
theorem highest_spec (h : Valid m) :
    (m.associations = [] → m.highest = -1) ∧ (∀ a ∈ m.associations, a.fd ≤ m.highest) ∧
    (m.associations ≠ [] → ∃ a ∈ m.associations, a.fd = m.highest) := by
  rw [h.highest_eq]
  refine ⟨fun he => by simp [he, highestOf], fun a ha => fd_le_highestOf ha, fun hne => ?_⟩
  exact highestOf_mem hne fun a ha => (inRange_iff.1 (h.in_range a ha)).1

end Valid

theorem replay_valid (cs : List (Call α)) : Valid (replay cs) :=
  Valid.empty.foldl_perform cs

/-- Any sequence of starts and stops, made directly or by observers during a dispatch, keeps
the monitor's views in agreement: no number associated twice, the watched numbers exactly the
associated ones, all in the readiness set's range, the highest their maximum or `-1`, and the
associations in the order of each number's latest successful start. A number is monitored
exactly when associated; a start fails as out of range exactly for numbers outside the range,
otherwise as already monitored exactly for monitored ones; a stop fails as not monitored
exactly for numbers not monitored; no other failure occurs, and no number outside the range is
ever added to or removed from the watched set. -/
theorem replay_consistent (cs : List (Call α)) :
    let m := replay cs
    ((m.associations.map (·.fd)).Nodup ∧ m.watched = m.associations.map (·.fd) ∧
      ∀ a ∈ m.associations, inRange a.fd = true) ∧
    ((m.associations = [] → m.highest = -1) ∧ (∀ a ∈ m.associations, a.fd ≤ m.highest) ∧
      (m.associations ≠ [] → ∃ a ∈ m.associations, a.fd = m.highest)) ∧
    m.associations = cs.foldl Call.onAssociations [] ∧
    (∀ fd, m.isMonitored fd = true ↔ ∃ a ∈ m.associations, a.fd = fd) ∧
    (∀ ob fd, (m.start ob fd = .error (.outOfRange fd) ↔ inRange fd = false) ∧
      (inRange fd = true →
        (m.start ob fd = .error (.alreadyMonitored fd) ↔ m.isMonitored fd = true)) ∧
      (∀ e, m.start ob fd = .error e → e = .outOfRange fd ∨ e = .alreadyMonitored fd) ∧
      (∀ m', m.start ob fd = .ok m' → inRange fd = true)) ∧
    (∀ fd, (m.stop fd = .error (.notMonitored fd) ↔ m.isMonitored fd = false) ∧
      (∀ e, m.stop fd = .error e → e = .notMonitored fd) ∧
      (∀ m', m.stop fd = .ok m' → inRange fd = true)) := by
  intro m
  have h : Valid m := replay_valid cs
  refine ⟨⟨h.nodup, h.watched_eq, h.in_range⟩, h.highest_spec,
    Valid.empty.foldl_associations cs, fun fd => h.isMonitored_iff, fun ob fd => ?_, fun fd => ?_⟩
  · exact ⟨start_eq_outOfRange_iff, start_eq_alreadyMonitored_iff, fun e he => start_error he,
      fun m' hs => inRange_of_start hs⟩
  · exact ⟨stop_eq_notMonitored_iff, fun e he => stop_error he, fun m' hs => inRange_of_stop hs⟩

end Monitor
end Descriptors
