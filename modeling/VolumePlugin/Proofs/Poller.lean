import VolumePlugin.Poller

/-! What waits preserve. Whatever happens to the signal, a wait changes nothing but by its probes,
and a value that it yields is the one that its last probe yielded. -/

namespace VolumePlugin.Poller

variable {σ α : Type} {p : Poller} {action : String} {volume duration : Nat}
  {probe : Nat → σ → Except CsiError (Option α) × σ}

/-- What every probe keeps, and what holds after a probe that yields a value. -/
structure ProbeSpec (probe : Nat → σ → Except CsiError (Option α) × σ) (kept : σ → Prop)
    (found : α → σ → Prop) : Prop where
  keep : ∀ now s, kept s → kept (probe now s).2
  find : ∀ now s a, kept s → (probe now s).1 = .ok (some a) → found a (probe now s).2

variable {kept : σ → Prop} {found : α → σ → Prop}

theorem attempt_spec (h : ProbeSpec probe kept found) {deadline : Nat} {t t' : Timeline} {s s' : σ}
    {outcome : Attempt α} (hs : kept s)
    (he : p.attempt action volume duration probe deadline t s = (outcome, t', s')) :
    kept s' ∧ ∀ a, outcome = .finished (.ok a) → found a s' := by
  unfold attempt at he
  split at he
  · obtain ⟨rfl, -, rfl⟩ := by simpa using he
    exact ⟨hs, by simp⟩
  · have hkeep := h.keep t.now s hs
    have hfind := fun a => h.find t.now s a hs
    rcases hp : probe t.now s with ⟨result, s₁⟩
    rw [hp] at he hkeep hfind
    dsimp only at he hkeep hfind
    split at he
    · obtain ⟨rfl, -, rfl⟩ := by simpa using he
      exact ⟨hkeep, by simp⟩
    · obtain ⟨rfl, -, rfl⟩ := by simpa using he
      refine ⟨hkeep, fun b hb => ?_⟩
      exact hfind b (by simpa using hb)
    · split at he
      · obtain ⟨rfl, -, rfl⟩ := by simpa using he
        exact ⟨hkeep, by simp⟩
      · obtain ⟨rfl, -, rfl⟩ := by simpa using he
        exact ⟨hkeep, by simp⟩

/-- The induction follows the attempts. Sleeps move the timeline and leave the state alone. -/
theorem attempts_spec (h : ProbeSpec probe kept found) {deadline : Nat} (fuel : Nat) :
    ∀ (turn seen : Nat) (t : Timeline) (s : σ), kept s →
      kept (p.attempts action volume duration probe deadline fuel turn seen t s).2.2 ∧
      ∀ a, (p.attempts action volume duration probe deadline fuel turn seen t s).1 = .ok a →
        found a (p.attempts action volume duration probe deadline fuel turn seen t s).2.2 := by
  induction fuel with
  | zero =>
      intro turn seen t s hs
      exact ⟨hs, by simp [attempts]⟩
  | succ fuel ih =>
      intro turn seen t s hs
      unfold attempts
      rcases he : p.attempt action volume duration probe deadline t s with ⟨outcome, t', s'⟩
      obtain ⟨hkeep, hfind⟩ := attempt_spec h hs he
      cases outcome with
      | finished result => exact ⟨hkeep, fun a ha => hfind a (congrArg Attempt.finished ha)⟩
      | asleep wake =>
          dsimp only
          split
          · exact ⟨hkeep, by simp⟩
          · exact ih _ _ _ _ hkeep
          · exact ih _ _ _ _ hkeep

variable (p action volume duration) in
/-- A wait keeps what its probes keep, and yields only what a probe has found. -/
theorem wait_spec (h : ProbeSpec probe kept found) (t : Timeline) {s : σ} (hs : kept s) :
    kept (p.wait action volume duration probe t s).2.2 ∧
      ∀ a, (p.wait action volume duration probe t s).1 = .ok a →
        found a (p.wait action volume duration probe t s).2.2 :=
  attempts_spec h _ _ _ _ _ hs

/-- A wait is over at once if the first probe has a value. -/
theorem wait_of_probe {t : Timeline} {s s' : σ} {a : α} (hsignal : p.forbids t.signal = false)
    (hprobe : probe t.now s = (.ok (some a), s')) :
    p.wait action volume duration probe t s = (.ok a, t.advance duration, s') := by
  have hattempt : p.attempt action volume duration probe (t.now + p.timeout) t s =
      (.finished (.ok a), t.advance duration, s') := by
    simp [attempt, hsignal, hprobe]
  obtain ⟨fuel, hfuel⟩ := Nat.exists_eq_succ_of_ne_zero (n := p.attemptBound t)
    (by simp [attemptBound])
  rw [wait, hfuel, attempts, hattempt]

/-! ## Waits that see a part of the state -/

section Views

variable {τ : Type} {view : τ → σ} {whole : Nat → τ → Except CsiError (Option α) × τ}

theorem attempt_view (h : ∀ now s, probe now (view s) = ((whole now s).1, view (whole now s).2))
    (deadline : Nat) (t : Timeline) (s : τ) :
    p.attempt action volume duration probe deadline t (view s) =
      let made := p.attempt action volume duration whole deadline t s
      (made.1, made.2.1, view made.2.2) := by
  unfold attempt
  split
  · rfl
  · rw [h]
    dsimp only
    split
    · rfl
    · rfl
    · split <;> rfl

theorem attempts_view (h : ∀ now s, probe now (view s) = ((whole now s).1, view (whole now s).2))
    (deadline fuel : Nat) : ∀ (turn seen : Nat) (t : Timeline) (s : τ),
      p.attempts action volume duration probe deadline fuel turn seen t (view s) =
        let made := p.attempts action volume duration whole deadline fuel turn seen t s
        (made.1, made.2.1, view made.2.2) := by
  induction fuel with
  | zero =>
      intro turn seen t s
      rfl
  | succ fuel ih =>
      intro turn seen t s
      unfold attempts
      rw [attempt_view h]
      rcases p.attempt action volume duration whole deadline t s with ⟨outcome, t', s'⟩
      cases outcome with
      | finished result => rfl
      | asleep wake =>
          dsimp only
          split
          · rfl
          · exact ih _ _ _ _
          · exact ih _ _ _ _

/-- A wait whose probes leave a part of the state out of account goes on in the same way without
that part. -/
theorem wait_view (h : ∀ now s, probe now (view s) = ((whole now s).1, view (whole now s).2))
    (t : Timeline) (s : τ) :
    p.wait action volume duration probe t (view s) =
      let made := p.wait action volume duration whole t s
      (made.1, made.2.1, view made.2.2) :=
  attempts_view h _ _ _ _ t s

end Views

/-! ## What waits fail with -/

/-- The failures that a wait can end with: those of its probes, and its own. -/
structure FailureSpec (action : String) (volume : Nat)
    (probe : Nat → σ → Except CsiError (Option α) × σ) (bad : CsiError → Prop) : Prop where
  probe : ∀ now s e, (probe now s).1 = .error e → bad e
  timeout : bad (.timeout action volume)
  cancellation : bad (cancellation action volume)

variable {bad : CsiError → Prop}

theorem attempt_error (h : FailureSpec action volume probe bad) {deadline : Nat} {t t' : Timeline}
    {s s' : σ} {e : CsiError}
    (he : p.attempt action volume duration probe deadline t s = (.finished (.error e), t', s')) :
    bad e := by
  unfold attempt at he
  split at he
  · obtain ⟨rfl, -⟩ := by simpa using he
    exact h.cancellation
  · have hprobe := h.probe t.now s
    rcases hp : probe t.now s with ⟨result, s₁⟩
    rw [hp] at he hprobe
    dsimp only at he hprobe
    split at he
    · obtain ⟨rfl, -⟩ := by simpa using he
      exact hprobe _ rfl
    · simp at he
    · split at he
      · obtain ⟨rfl, -⟩ := by simpa using he
        exact h.timeout
      · simp at he

theorem attempts_error (h : FailureSpec action volume probe bad) {deadline : Nat} {e : CsiError}
    (fuel : Nat) : ∀ (turn seen : Nat) (t : Timeline) (s : σ),
      (p.attempts action volume duration probe deadline fuel turn seen t s).1 = .error e →
        bad e := by
  induction fuel with
  | zero =>
      intro turn seen t s he
      obtain rfl : .timeout action volume = e := by simpa [attempts] using he
      exact h.timeout
  | succ fuel ih =>
      intro turn seen t s he
      unfold attempts at he
      rcases hattempt : p.attempt action volume duration probe deadline t s with ⟨outcome, t', s'⟩
      rw [hattempt] at he
      cases outcome with
      | finished result =>
          obtain rfl : result = .error e := he
          exact attempt_error h hattempt
      | asleep wake =>
          dsimp only at he
          split at he
          · obtain rfl : Poller.cancellation action volume = e := by simpa using he
            exact h.cancellation
          · exact ih _ _ _ _ he
          · exact ih _ _ _ _ he

theorem wait_error (h : FailureSpec action volume probe bad) {t : Timeline} {s : σ} {e : CsiError}
    (he : (p.wait action volume duration probe t s).1 = .error e) : bad e :=
  attempts_error h _ _ _ _ _ he

end VolumePlugin.Poller
