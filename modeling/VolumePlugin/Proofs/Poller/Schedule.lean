import VolumePlugin.Proofs.Poller.Course

/-! The schedule of a wait that no signal disturbs. Its probes start at equal distances, the
deadline bounds their number, and the first one with a result ends it. -/

namespace VolumePlugin.Poller

open Timeline (sleepLength longestSleep)

variable {α : Type} {p : Poller} {action : String} {volume duration deadline : Nat}

/-- Whether a wait goes on without a signal: it takes no notice of the signal, or the signal stays
as it was made. -/
structure Undisturbed (p : Poller) (t : Timeline) : Prop where
  inOrder : t.InOrder
  silent : p.detached = true ∨ t.signal = {} ∧ t.pending = []

namespace Undisturbed

variable {t t' : Timeline}

theorem passes (h : p.Undisturbed t) (ht : t.Passes t') : p.Undisturbed t' := by
  refine ⟨ht.inOrder h.inOrder, ?_⟩
  rcases h.silent with hdetached | ⟨hsignal, hpending⟩
  · exact .inl hdetached
  · obtain ⟨hsame, hstill⟩ := ht.still hpending
    exact .inr ⟨hsame.trans hsignal, hstill⟩

theorem forbids_eq (h : p.Undisturbed t) : p.forbids t.signal = false := by
  rcases h.silent with hdetached | ⟨hsignal, -⟩
  · simp [forbids, hdetached]
  · simp [forbids, hsignal]

theorem disturbance_eq (h : p.Undisturbed t) (seen : Nat) :
    p.disturbance? seen t.signal = none := by
  rcases h.silent with hdetached | ⟨hsignal, -⟩
  · simp [disturbance?, hdetached]
  · simp [disturbance?, hsignal]

end Undisturbed

/-- The time between the starts of two probes. -/
def period (p : Poller) (duration : Nat) : Nat :=
  sleepLength duration + sleepLength p.interval

/-- How many probes may follow the first one until the time is over. -/
def lastProbe (p : Poller) (duration : Nat) : Nat :=
  (p.timeout - (p.interval - sleepLength p.interval)) / p.period duration

theorem lt_lastProbe (hinterval : 0 < p.interval) (duration k : Nat) :
    k < p.lastProbe duration ↔
      k * p.period duration + sleepLength duration + p.interval ≤ p.timeout := by
  have hlength := Timeline.sleepLength_pos hinterval
  have hle := Timeline.sleepLength_le p.interval
  have hperiod : 0 < p.period duration := Nat.add_pos_right _ hlength
  rw [lastProbe, ← Nat.succ_le_iff, Nat.le_div_iff_mul_le hperiod, Nat.succ_mul]
  unfold period at hperiod ⊢
  omega

variable (p action volume duration deadline) in
/-- How a wait goes on from a moment, some probes of which have started before: it starts `n` probes
without a result in time, and another one that ends it. -/
structure Regular (outcomes : Nat → Except CsiError (Option α)) (now : Nat) (before : List Nat)
    (n : Nat) (made : Except CsiError α × Timeline × List Nat) : Prop where
  starts : made.2.2 = before ++ (List.range (n + 1)).map fun k => now + k * p.period duration
  ends : made.2.1.now = now + n * p.period duration + sleepLength duration
  undecided : ∀ k < n, outcomes (before.length + k) = .ok none
  inTime : ∀ k < n, now + k * p.period duration + sleepLength duration + p.interval ≤ deadline
  result : decided? (outcomes (before.length + n)) = some made.1 ∨
    outcomes (before.length + n) = .ok none ∧ deadline < made.2.1.now + p.interval ∧
      made.1 = .error (.timeout action volume)

variable {outcomes : Nat → Except CsiError (Option α)}
  {made : Except CsiError α × Timeline × List Nat}

/-- A round goes before the rest of a regular course. -/
theorem Regular.cons {now n : Nat} {before : List Nat} (hnone : outcomes before.length = .ok none)
    (hdeadline : now + sleepLength duration + p.interval ≤ deadline)
    (h : p.Regular action volume duration deadline outcomes (now + p.period duration)
      (before ++ [now]) n made) :
    p.Regular action volume duration deadline outcomes now before (n + 1) made where
  starts := by
    rw [h.starts, List.range_succ_eq_map (n := n + 1)]
    simp [Nat.add_assoc, Nat.succ_mul, Nat.add_comm (p.period duration), Function.comp_def]
  ends := by
    rw [h.ends, Nat.succ_mul]
    omega
  undecided := by
    rintro (_ | k) hk
    · simpa using hnone
    · simpa [Nat.add_assoc, Nat.add_comm 1] using h.undecided k (by omega)
  inTime := by
    rintro (_ | k) hk
    · simpa using hdeadline
    · have hrest := h.inTime k (by omega)
      rw [Nat.succ_mul]
      omega
  result := by simpa [Nat.add_assoc, Nat.add_comm 1] using h.result

/-- The induction follows the course. Nothing but the end of an interval wakes the sleeper, so every
round lasts for one period. -/
theorem Course.regular (hinterval : 0 < p.interval) {seen : Nat} {t : Timeline} {s : List Nat}
    {starts : List (Start α)}
    (h : p.Course action volume duration (scripted outcomes) deadline seen t s starts made)
    (ht : p.Undisturbed t) :
    ∃ n, p.Regular action volume duration deadline outcomes t.now s n made := by
  induction h with
  | forbidden forbids => simp [ht.forbids_eq] at forbids
  | @finished seen t s result t' s' allowed last =>
      obtain ⟨rfl, rfl, hresult⟩ := attempt_finished allowed last
      refine ⟨0, by simp [scripted], by simp [Timeline.now_advance], by simp, by simp, ?_⟩
      simpa [scripted] using hresult
  | cancelled round | signalled round =>
      have hpassed := ht.passes (round.passes hinterval ht.inOrder)
      have hdisturbed := round.disturbed hinterval ht.inOrder (by simp)
      simp [hpassed.disturbance_eq] at hdisturbed
  | @elapsed seen t s t' s' starts made round _ ih =>
      obtain ⟨n, hrest⟩ := ih (ht.passes (round.passes hinterval ht.inOrder))
      obtain ⟨hnone, rfl⟩ : outcomes s.length = .ok none ∧ s ++ [t.now] = s' := by
        simpa [scripted] using round.probe_eq
      have hdeadline := (round.slept hinterval ht.inOrder).1
      have hnow := (round.undisturbed hinterval ht.inOrder).1
      rw [Timeline.now_advance] at hdeadline
      rw [hnow, Nat.add_assoc t.now] at hrest
      exact ⟨n + 1, hrest.cons hnone hdeadline⟩

variable (p action volume duration) in
/-- How a wait ends with the probe number `k`: the probes start one period apart, those before the
last have no result, and the last one either has the result or leaves no time for another one. -/
structure EndsWith (outcomes : Nat → Except CsiError (Option α)) (now k : Nat)
    (made : Except CsiError α × Timeline × List Nat) : Prop where
  starts : made.2.2 = (List.range (k + 1)).map fun j => now + j * p.period duration
  ends : made.2.1.now = now + k * p.period duration + sleepLength duration
  inTime : k ≤ p.lastProbe duration
  undecided : ∀ j < k, outcomes j = .ok none
  result : decided? (outcomes k) = some made.1 ∨
    outcomes k = .ok none ∧ k = p.lastProbe duration ∧ made.1 = .error (.timeout action volume)

theorem Regular.endsWith (hinterval : 0 < p.interval) {now n : Nat}
    (h : p.Regular action volume duration (now + p.timeout) outcomes now [] n made) :
    p.EndsWith action volume duration outcomes now n made := by
  have hlast : n ≤ p.lastProbe duration := by
    cases n with
    | zero => exact Nat.zero_le _
    | succ n =>
        have htime := h.inTime n (by omega)
        exact (lt_lastProbe hinterval duration n).mpr (by omega)
  refine ⟨by simpa using h.starts, h.ends, hlast, by simpa using h.undecided, ?_⟩
  rcases h.result with hdecided | ⟨hnone, hlate, hresult⟩
  · exact .inl (by simpa using hdecided)
  · have hall : p.lastProbe duration ≤ n := by
      refine Nat.le_of_not_lt fun hlt => ?_
      have htime := (lt_lastProbe hinterval duration n).mp hlt
      have hends := h.ends
      omega
    exact .inr ⟨by simpa using hnone, Nat.le_antisymm hlast hall, hresult⟩

theorem EndsWith.now_le (hinterval : 0 < p.interval) {now k : Nat}
    (h : p.EndsWith action volume duration outcomes now k made) (hduration : duration = 0) :
    made.2.1.now ≤ now + p.timeout := by
  subst hduration
  have hends := h.ends
  have hlength := Timeline.sleepLength_le p.interval
  have hzero := Timeline.sleepLength_le 0
  cases k with
  | zero => omega
  | succ k =>
      have htime := (lt_lastProbe hinterval 0 k).mp h.inTime
      have hperiod : p.period 0 ≤ p.interval := by
        unfold period
        omega
      rw [Nat.succ_mul] at hends
      omega

end VolumePlugin.Poller
