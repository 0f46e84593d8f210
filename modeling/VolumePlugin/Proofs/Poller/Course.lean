import VolumePlugin.Poller
import VolumePlugin.Proofs.Timeline

/-! The course of a wait: which probes it starts, what it sees when it starts them, and how it ends.
A course follows the loop for as long as it goes on, and a wait with an interval takes one. -/

namespace VolumePlugin.Poller

open Timeline (sleepLength)

variable {σ α : Type} {p : Poller} {action : String} {volume duration : Nat}
  {probe : Nat → σ → Except CsiError (Option α) × σ} {deadline : Nat}

/-- The result of a wait that an outcome of a probe decides. -/
def decided? : Except CsiError (Option α) → Option (Except CsiError α)
  | .error e => some (.error e)
  | .ok (some a) => some (.ok a)
  | .ok none => none

/-! ## Attempts -/

/-- An attempt goes to sleep only after a probe without a result, and only if the deadline leaves a
whole interval. -/
theorem attempt_asleep {t t' : Timeline} {s s' : σ} {wake : Nat}
    (h : p.attempt action volume duration probe deadline t s = (.asleep wake, t', s')) :
    p.forbids t.signal = false ∧ probe t.now s = (.ok none, s') ∧ t' = t.advance duration ∧
      wake = t'.now + sleepLength p.interval ∧ t'.now + p.interval ≤ deadline := by
  cases hforbids : p.forbids t.signal with
  | true => simp [attempt, hforbids] at h
  | false =>
      rcases hprobe : probe t.now s with ⟨outcome, s₁⟩
      match outcome with
      | .error e => simp [attempt, hforbids, hprobe] at h
      | .ok (some a) => simp [attempt, hforbids, hprobe] at h
      | .ok none =>
          by_cases hlate : deadline < (t.advance duration).now + p.interval
          · simp [attempt, hforbids, hprobe, hlate] at h
          · obtain ⟨hwake, rfl, rfl⟩ : _ ∧ _ ∧ _ := by
              simpa [attempt, hforbids, hprobe, hlate] using h
            exact ⟨rfl, rfl, rfl, hwake.symm, Nat.le_of_not_lt hlate⟩

/-- A probe that is the last one of its wait has a result, or leaves no time for another one. -/
theorem attempt_finished {t t' : Timeline} {s s' : σ} {result : Except CsiError α}
    (hforbids : p.forbids t.signal = false)
    (h : p.attempt action volume duration probe deadline t s = (.finished result, t', s')) :
    t' = t.advance duration ∧ s' = (probe t.now s).2 ∧
      (decided? (probe t.now s).1 = some result ∨
        (probe t.now s).1 = .ok none ∧ deadline < t'.now + p.interval ∧
          result = .error (.timeout action volume)) := by
  rcases hprobe : probe t.now s with ⟨outcome, s₁⟩
  match outcome with
  | .error e =>
      obtain ⟨rfl, rfl, rfl⟩ : _ ∧ _ ∧ _ := by simpa [attempt, hforbids, hprobe] using h
      exact ⟨rfl, rfl, .inl rfl⟩
  | .ok (some a) =>
      obtain ⟨rfl, rfl, rfl⟩ : _ ∧ _ ∧ _ := by simpa [attempt, hforbids, hprobe] using h
      exact ⟨rfl, rfl, .inl rfl⟩
  | .ok none =>
      by_cases hlate : deadline < (t.advance duration).now + p.interval
      · obtain ⟨rfl, rfl, rfl⟩ : _ ∧ _ ∧ _ := by
          simpa [attempt, hforbids, hprobe, hlate] using h
        exact ⟨rfl, rfl, .inr ⟨rfl, hlate, rfl⟩⟩
      · simp [attempt, hforbids, hprobe, hlate] at h

/-! ## Sleeps -/

theorem disturbance_ne_elapsed (seen : Nat) (signal : Signal) :
    p.disturbance? seen signal ≠ some .elapsed := by
  unfold disturbance?
  split
  · simp
  · split
    · split <;> simp
    · split <;> simp

theorem disturbance_cancelled {seen : Nat} {signal : Signal}
    (h : p.disturbance? seen signal = some .cancelled) :
    signal.value = true ∨ signal.closed = true := by
  unfold disturbance? at h
  split at h
  · simp at h
  · split at h
    · exact .inl (by simpa using h)
    · split at h
      next hclosed => exact .inr hclosed
      · simp at h

theorem disturbance_signalled {seen : Nat} {signal : Signal}
    (h : p.disturbance? seen signal = some .signalled) : seen < signal.sends := by
  unfold disturbance? at h
  split at h
  · simp at h
  · split at h
    next hsends => exact hsends
    · split at h <;> simp at h

/-- How a sleep until a given moment ends: at that moment if nothing disturbs the sleeper, or before
it with the disturbance. -/
structure Slept (p : Poller) (seen wake : Nat) (t : Timeline) (w : Wake) (t' : Timeline) :
    Prop where
  passes : t.Passes t'
  now_le : t'.now ≤ wake
  woken : (w = .elapsed ∧ t'.now = wake ∧ p.disturbance? seen t'.signal = none) ∨
    p.disturbance? seen t'.signal = some w

/-- The induction is on the events to come. One that is due happens at once, and any other one only
when nothing has disturbed the sleeper at the present moment. -/
theorem sleepThrough_slept {seen wake : Nat} (pending : List (Nat × SignalEvent)) :
    ∀ (now : Nat) (signal : Signal), now ≤ wake → Timeline.InOrder ⟨now, signal, pending⟩ →
      p.Slept seen wake ⟨now, signal, pending⟩ (p.sleepThrough seen wake now signal pending).1
        (p.sleepThrough seen wake now signal pending).2 := by
  induction pending with
  | nil =>
      intro now signal hnow ht
      unfold sleepThrough
      split
      next w hw => exact ⟨.refl _, hnow, .inr hw⟩
      next hw => exact ⟨.idle hnow (by simp) (.refl _), Nat.le_refl _, .inl ⟨rfl, rfl, hw⟩⟩
  | cons e rest ih =>
      intro now signal hnow ht
      obtain ⟨first, sorted⟩ := List.pairwise_cons.mp ht.sorted
      have hnext : ∀ f ∈ e :: rest, e.1 ≤ f.1 := by simpa using first
      have hahead : now ≤ e.1 := ht.ahead e (by simp)
      unfold sleepThrough
      split
      next hdue =>
        obtain rfl := Nat.le_antisymm hahead hdue
        obtain ⟨passes, now_le, woken⟩ := ih e.1 (signal.apply e.2) hnow ⟨first, sorted⟩
        exact ⟨.event passes, now_le, woken⟩
      next hdue =>
        split
        next w hw => exact ⟨.refl _, hnow, .inr hw⟩
        next hw =>
          split
          next hearly =>
            obtain ⟨passes, now_le, woken⟩ :=
              ih e.1 (signal.apply e.2) (Nat.le_of_lt hearly) ⟨first, sorted⟩
            exact ⟨.idle hahead hnext (.event passes), now_le, woken⟩
          next hlater =>
            have hquiet : ∀ f ∈ e :: rest, wake ≤ f.1 :=
              fun f hf => Nat.le_trans (Nat.le_of_not_lt hlater) (hnext f hf)
            exact ⟨.idle hnow hquiet (.refl _), Nat.le_refl _, .inl ⟨rfl, rfl, hw⟩⟩

theorem sleep_slept (p : Poller) (seen : Nat) {wake : Nat} {t : Timeline} (ht : t.InOrder)
    (hwake : t.now < wake) :
    p.Slept seen wake t (p.sleep seen wake t).1 (p.sleep seen wake t).2 := by
  unfold sleep
  split
  next w hw => exact ⟨.refl t, Nat.le_of_lt hwake, .inr hw⟩
  · rw [if_neg (by omega)]
    exact sleepThrough_slept t.pending _ _ (Nat.le_of_lt hwake) ht

/-! ## Rounds -/

variable (p action volume duration probe deadline) in
/-- A probe without a result, and the sleep after it. -/
def Round (seen : Nat) (t : Timeline) (s : σ) (w : Wake) (t' : Timeline) (s' : σ) : Prop :=
  ∃ wake t₁, p.attempt action volume duration probe deadline t s = (.asleep wake, t₁, s') ∧
    p.sleep seen wake t₁ = (w, t')

section Rounds

variable {seen : Nat} {t t' : Timeline} {s s' : σ} {w : Wake}

namespace Round

theorem allowed (h : p.Round action volume duration probe deadline seen t s w t' s') :
    p.forbids t.signal = false := by
  obtain ⟨wake, t₁, hattempt, -⟩ := h
  exact (attempt_asleep hattempt).1

theorem probe_eq (h : p.Round action volume duration probe deadline seen t s w t' s') :
    probe t.now s = (.ok none, s') := by
  obtain ⟨wake, t₁, hattempt, -⟩ := h
  exact (attempt_asleep hattempt).2.1

/-- The sleep of a round lasts for an interval, which ends before the deadline. -/
theorem slept (h : p.Round action volume duration probe deadline seen t s w t' s')
    (hinterval : 0 < p.interval) (ht : t.InOrder) :
    (t.advance duration).now + p.interval ≤ deadline ∧
      p.Slept seen ((t.advance duration).now + sleepLength p.interval) (t.advance duration) w
        t' := by
  obtain ⟨wake, t₁, hattempt, hsleep⟩ := h
  obtain ⟨-, -, rfl, rfl, hdeadline⟩ := attempt_asleep hattempt
  refine ⟨hdeadline, ?_⟩
  have hslept := sleep_slept p seen ((Timeline.passes_advance ht duration).inOrder ht)
    (Nat.lt_add_of_pos_right (Timeline.sleepLength_pos hinterval))
  rwa [hsleep] at hslept

theorem passes (h : p.Round action volume duration probe deadline seen t s w t' s')
    (hinterval : 0 < p.interval) (ht : t.InOrder) : t.Passes t' :=
  (Timeline.passes_advance ht duration).trans (h.slept hinterval ht).2.passes

theorem inOrder (h : p.Round action volume duration probe deadline seen t s w t' s')
    (hinterval : 0 < p.interval) (ht : t.InOrder) : t'.InOrder :=
  (h.passes hinterval ht).inOrder ht

theorem now_le (h : p.Round action volume duration probe deadline seen t s w t' s')
    (hinterval : 0 < p.interval) (ht : t.InOrder) : t'.now ≤ deadline := by
  obtain ⟨hdeadline, hslept⟩ := h.slept hinterval ht
  have hwake := hslept.now_le
  have hlength := Timeline.sleepLength_le p.interval
  omega

theorem disturbed (h : p.Round action volume duration probe deadline seen t s w t' s')
    (hinterval : 0 < p.interval) (ht : t.InOrder) (hw : w ≠ .elapsed) :
    p.disturbance? seen t'.signal = some w := by
  rcases (h.slept hinterval ht).2.woken with ⟨rfl, -⟩ | hwoken
  · exact absurd rfl hw
  · exact hwoken

theorem undisturbed (h : p.Round action volume duration probe deadline seen t s .elapsed t' s')
    (hinterval : 0 < p.interval) (ht : t.InOrder) :
    t'.now = t.now + sleepLength duration + sleepLength p.interval ∧
      p.disturbance? seen t'.signal = none := by
  rcases (h.slept hinterval ht).2.woken with ⟨-, hnow, hnone⟩ | hwoken
  · exact ⟨by rw [hnow, Timeline.now_advance], hnone⟩
  · exact absurd hwoken (disturbance_ne_elapsed _ _)

theorem unique {t₁ t₂ : Timeline} {s₁ s₂ : σ} {w w' : Wake}
    (h : p.Round action volume duration probe deadline seen t s w t₁ s₁)
    (h' : p.Round action volume duration probe deadline seen t s w' t₂ s₂) :
    w = w' ∧ t₁ = t₂ ∧ s₁ = s₂ := by
  obtain ⟨wake, u, hattempt, hsleep⟩ := h
  obtain ⟨wake', u', hattempt', hsleep'⟩ := h'
  obtain ⟨⟨⟩, rfl, rfl⟩ : _ ∧ _ ∧ _ := by simpa [hattempt] using hattempt'
  obtain ⟨rfl, rfl⟩ : _ ∧ _ := by simpa [hsleep] using hsleep'
  exact ⟨rfl, rfl, rfl⟩

theorem attempt_ne_finished {t₁ t₂ : Timeline} {s₁ s₂ : σ} {result : Except CsiError α}
    (h : p.Round action volume duration probe deadline seen t s w t₁ s₁) :
    p.attempt action volume duration probe deadline t s ≠ (.finished result, t₂, s₂) := by
  obtain ⟨wake, u, hattempt, -⟩ := h
  simp [hattempt]

end Round

/-! ### Effort -/

/-- How many more rounds there may be: one for each interval that is left until the deadline, and
one for each disturbance. -/
def effort (p : Poller) (deadline seen : Nat) (t : Timeline) : Nat :=
  (deadline - t.now) / sleepLength p.interval + t.backlog seen

theorem Round.effort_elapsed
    (h : p.Round action volume duration probe deadline seen t s .elapsed t' s')
    (hinterval : 0 < p.interval) (ht : t.InOrder) :
    p.effort deadline seen t' < p.effort deadline seen t := by
  have hbacklog := (h.passes hinterval ht).backlog_le seen
  have hnow := (h.undisturbed hinterval ht).1
  have hdeadline := h.now_le hinterval ht
  have hlength := Timeline.sleepLength_pos hinterval
  have hquotient : (deadline - t'.now) / sleepLength p.interval + 1 ≤
      (deadline - t.now) / sleepLength p.interval := by
    rw [← Nat.add_div_right _ hlength]
    exact Nat.div_le_div_right (by omega)
  simp only [effort]
  omega

theorem Round.effort_signalled
    (h : p.Round action volume duration probe deadline seen t s .signalled t' s')
    (hinterval : 0 < p.interval) (ht : t.InOrder) :
    p.effort deadline t'.signal.sends t' < p.effort deadline seen t := by
  have hpasses := h.passes hinterval ht
  have hbacklog := hpasses.backlog_le seen
  have hseen := disturbance_signalled (h.disturbed hinterval ht (by simp))
  have hquotient : (deadline - t'.now) / sleepLength p.interval ≤
      (deadline - t.now) / sleepLength p.interval :=
    Nat.div_le_div_right (Nat.sub_le_sub_left hpasses.now_le _)
  simp only [effort, Timeline.backlog, hseen, if_true, Nat.lt_irrefl, if_false] at hbacklog ⊢
  omega

end Rounds

/-! ## Courses -/

/-- A probe at its start. -/
structure Start (α : Type) where
  /-- How many of the sends the wait has seen. -/
  seen : Nat
  /-- The present moment, with the signal and what will happen to it. -/
  timeline : Timeline
  /-- What the probe comes to. -/
  outcome : Except CsiError (Option α)

variable (p action volume duration probe deadline) in
/-- The probes that a wait starts which has seen some of the sends, and what the wait leads to. -/
inductive Course :
    Nat → Timeline → σ → List (Start α) → Except CsiError α × Timeline × σ → Prop where
  | forbidden {seen t s} (forbids : p.forbids t.signal = true) :
      Course seen t s [] (.error (cancellation action volume), t, s)
  | finished {seen t s result t' s'} (allowed : p.forbids t.signal = false)
      (last : p.attempt action volume duration probe deadline t s = (.finished result, t', s')) :
      Course seen t s [⟨seen, t, (probe t.now s).1⟩] (result, t', s')
  | cancelled {seen t s t' s'}
      (round : p.Round action volume duration probe deadline seen t s .cancelled t' s') :
      Course seen t s [⟨seen, t, .ok none⟩] (.error (cancellation action volume), t', s')
  | signalled {seen t s t' s' starts made}
      (round : p.Round action volume duration probe deadline seen t s .signalled t' s') :
      Course t'.signal.sends t' s' starts made →
      Course seen t s (⟨seen, t, .ok none⟩ :: starts) made
  | elapsed {seen t s t' s' starts made}
      (round : p.Round action volume duration probe deadline seen t s .elapsed t' s') :
      Course seen t' s' starts made →
      Course seen t s (⟨seen, t, .ok none⟩ :: starts) made

variable {seen : Nat} {t t' : Timeline} {s s' : σ} {w : Wake} {starts : List (Start α)}
  {made : Except CsiError α × Timeline × σ}

/-- How a course goes on after a round. -/
theorem Course.after (h : p.Course action volume duration probe deadline seen t s starts made)
    (round : p.Round action volume duration probe deadline seen t s w t' s') :
    ∃ rest, starts = ⟨seen, t, .ok none⟩ :: rest ∧
      match w with
      | .cancelled => rest = [] ∧ made = (.error (cancellation action volume), t', s')
      | .signalled => p.Course action volume duration probe deadline t'.signal.sends t' s' rest made
      | .elapsed => p.Course action volume duration probe deadline seen t' s' rest made := by
  cases h with
  | forbidden forbids => exact absurd round.allowed (by simp [forbids])
  | finished allowed last => exact absurd last round.attempt_ne_finished
  | cancelled round' =>
      obtain ⟨rfl, rfl, rfl⟩ := round.unique round'
      exact ⟨[], rfl, rfl, rfl⟩
  | signalled round' rest =>
      obtain ⟨rfl, rfl, rfl⟩ := round.unique round'
      exact ⟨_, rfl, rest⟩
  | elapsed round' rest =>
      obtain ⟨rfl, rfl, rfl⟩ := round.unique round'
      exact ⟨_, rfl, rest⟩

/-- What a course starts and leads to is determined by the state that it starts from. -/
theorem Course.unique {starts' : List (Start α)} {made' : Except CsiError α × Timeline × σ}
    (h : p.Course action volume duration probe deadline seen t s starts made)
    (h' : p.Course action volume duration probe deadline seen t s starts' made') :
    starts = starts' ∧ made = made' := by
  induction h generalizing starts' made' with
  | forbidden forbids =>
      cases h' with
      | forbidden => exact ⟨rfl, rfl⟩
      | finished allowed => simp [forbids] at allowed
      | cancelled round | signalled round | elapsed round =>
          have hallowed := round.allowed
          simp [forbids] at hallowed
  | finished allowed last =>
      cases h' with
      | forbidden forbids => simp [forbids] at allowed
      | finished _ last' =>
          obtain ⟨⟨⟩, rfl, rfl⟩ : _ ∧ _ ∧ _ := by simpa [last] using last'
          exact ⟨rfl, rfl⟩
      | cancelled round | signalled round | elapsed round =>
          exact absurd last round.attempt_ne_finished
  | cancelled round =>
      obtain ⟨rest, rfl, rfl, rfl⟩ := h'.after round
      exact ⟨rfl, rfl⟩
  | signalled round _ ih | elapsed round _ ih =>
      obtain ⟨rest, rfl, hrest⟩ := h'.after round
      obtain ⟨rfl, rfl⟩ := ih hrest
      exact ⟨rfl, rfl⟩

/-- The attempts follow a course if there are enough of them. Each round takes some of the effort,
so the induction is on the number of attempts. -/
theorem attempts_course (hinterval : 0 < p.interval) (fuel : Nat) :
    ∀ (turn seen : Nat) (t : Timeline) (s : σ), t.InOrder → p.effort deadline seen t < fuel →
      ∃ starts, p.Course action volume duration probe deadline seen t s starts
        (p.attempts action volume duration probe deadline fuel turn seen t s) := by
  induction fuel with
  | zero =>
      intro turn seen t s _ hfuel
      exact absurd hfuel (Nat.not_lt_zero _)
  | succ fuel ih =>
      intro turn seen t s ht hfuel
      unfold attempts
      rcases hattempt : p.attempt action volume duration probe deadline t s with ⟨attempt, t₁, s₁⟩
      cases attempt with
      | finished result =>
          cases hforbids : p.forbids t.signal with
          | true =>
              obtain ⟨rfl, rfl, rfl⟩ : _ ∧ _ ∧ _ := by
                simpa [Poller.attempt, hforbids] using hattempt
              exact ⟨[], .forbidden hforbids⟩
          | false => exact ⟨_, .finished hforbids hattempt⟩
      | asleep wake =>
          have hwake : t₁.now < wake := by
            rw [(attempt_asleep hattempt).2.2.2.1]
            exact Nat.lt_add_of_pos_right (Timeline.sleepLength_pos hinterval)
          simp only [if_pos hwake]
          rcases hsleep : p.sleep seen wake t₁ with ⟨w, t₂⟩
          have round : p.Round action volume duration probe deadline seen t s w t₂ s₁ :=
            ⟨wake, t₁, hattempt, hsleep⟩
          cases w with
          | cancelled => exact ⟨_, .cancelled round⟩
          | signalled =>
              have heffort := round.effort_signalled hinterval ht
              obtain ⟨starts, hcourse⟩ :=
                ih turnLength t₂.signal.sends t₂ s₁ (round.inOrder hinterval ht) (by omega)
              exact ⟨_, .signalled round hcourse⟩
          | elapsed =>
              have heffort := round.effort_elapsed hinterval ht
              obtain ⟨starts, hcourse⟩ :=
                ih turnLength seen t₂ s₁ (round.inOrder hinterval ht) (by omega)
              exact ⟨_, .elapsed round hcourse⟩

variable (p action volume duration probe) in
/-- A wait with an interval takes a course to its end, whatever happens to the signal. -/
theorem wait_course (hinterval : 0 < p.interval) (ht : t.InOrder) (s : σ) :
    ∃ starts, p.Course action volume duration probe (t.now + p.timeout) 0 t s starts
      (p.wait action volume duration probe t s) := by
  refine attempts_course hinterval _ _ _ _ _ ht ?_
  have hlength := Timeline.sleepLength_pos hinterval
  have hbacklog : t.backlog 0 ≤ t.pending.length + 1 := by
    unfold Timeline.backlog
    split <;> omega
  simp only [effort, attemptBound, Nat.add_sub_cancel_left, Nat.max_eq_right hlength]
  omega

/-- A wait with an interval leads to what its course leads to, and to nothing else. -/
theorem course_iff_wait (hinterval : 0 < p.interval) (ht : t.InOrder) :
    (∃ starts, p.Course action volume duration probe (t.now + p.timeout) 0 t s starts made) ↔
      p.wait action volume duration probe t s = made := by
  obtain ⟨starts, hcourse⟩ := wait_course p action volume duration probe hinterval ht s
  constructor
  · rintro ⟨starts', h⟩
    exact (hcourse.unique h).2
  · rintro rfl
    exact ⟨starts, hcourse⟩

/-! ### Scripts -/

/-- Probes that come to the outcomes of a sequence one after another, and keep the moments that they
start at. -/
def scripted (outcomes : Nat → Except CsiError (Option α)) (now : Nat) (starts : List Nat) :
    Except CsiError (Option α) × List Nat :=
  (outcomes starts.length, starts ++ [now])

/-- The moments that the probes keep are those that the course has them start at. -/
theorem Course.recorded {outcomes : Nat → Except CsiError (Option α)} {s : List Nat}
    {made : Except CsiError α × Timeline × List Nat}
    (h : p.Course action volume duration (scripted outcomes) deadline seen t s starts made) :
    made.2.2 = s ++ starts.map (·.timeline.now) := by
  induction h with
  | forbidden => simp
  | finished allowed last =>
      obtain ⟨-, rfl, -⟩ := attempt_finished allowed last
      rfl
  | cancelled round =>
      obtain ⟨-, rfl⟩ := Prod.mk.inj round.probe_eq
      rfl
  | signalled round _ ih | elapsed round _ ih =>
      obtain ⟨-, rfl⟩ := Prod.mk.inj round.probe_eq
      simpa using ih

end VolumePlugin.Poller
