import VolumePlugin.Proofs.Poller.Schedule

/-! What a shutdown does to a wait. Whatever happens to the signal, and whenever it does, the signal
keeps a wait from further probes and ends it, and takes nothing away from a probe with a result. -/

namespace VolumePlugin.Poller

variable {σ α : Type} {p : Poller} {action : String} {volume duration deadline seen : Nat}
  {probe : Nat → σ → Except CsiError (Option α) × σ} {t : Timeline} {s : σ}
  {starts : List (Start α)} {made : Except CsiError α × Timeline × σ}

theorem eq_error_of_decided {outcome : Except CsiError (Option α)} {e : CsiError}
    (h : decided? outcome = some (.error e)) : outcome = .error e := by
  match outcome with
  | .error e' => simpa [decided?] using h
  | .ok (some a) => simp [decided?] at h
  | .ok none => simp [decided?] at h

namespace Course

theorem allowed (h : p.Course action volume duration probe deadline seen t s starts made) :
    ∀ start ∈ starts, p.forbids start.timeline.signal = false := by
  induction h with
  | forbidden => simp
  | finished allowed _ => simpa using allowed
  | cancelled round => simpa using round.allowed
  | signalled round _ ih | elapsed round _ ih =>
      exact List.forall_mem_cons.mpr ⟨round.allowed, ih⟩

/-- A course goes forward in time. -/
theorem passes (h : p.Course action volume duration probe deadline seen t s starts made)
    (hinterval : 0 < p.interval) (ht : t.InOrder) :
    (∀ start ∈ starts, t.Passes start.timeline) ∧ t.Passes made.2.1 := by
  induction h with
  | forbidden => exact ⟨by simp, .refl _⟩
  | finished allowed last =>
      obtain ⟨rfl, -⟩ := attempt_finished allowed last
      exact ⟨by simpa using .refl _, Timeline.passes_advance ht _⟩
  | cancelled round => exact ⟨by simpa using .refl _, round.passes hinterval ht⟩
  | signalled round _ ih | elapsed round _ ih =>
      have hround := round.passes hinterval ht
      obtain ⟨hstarts, hmade⟩ := ih (round.inOrder hinterval ht)
      exact ⟨List.forall_mem_cons.mpr ⟨.refl _, fun start hs => hround.trans (hstarts start hs)⟩,
        hround.trans hmade⟩

/-- A wait is cancelled by the signal, unless a probe fails in the same way. -/
theorem unavailable (h : p.Course action volume duration probe deadline seen t s starts made)
    (hinterval : 0 < p.interval) (ht : t.InOrder) {text : String}
    (hmade : made.1 = .error (.unavailable text)) :
    made.2.1.signal.value = true ∨ made.2.1.signal.closed = true ∨
      ∃ start ∈ starts, start.outcome = .error (.unavailable text) := by
  induction h with
  | forbidden hforbids => exact .inl (Bool.and_eq_true_iff.mp hforbids).2
  | finished allowed last =>
      obtain ⟨-, -, hdecided | ⟨-, -, hlate⟩⟩ := attempt_finished allowed last
      · obtain rfl := hmade
        exact .inr (.inr ⟨_, List.mem_singleton_self _, eq_error_of_decided hdecided⟩)
      · obtain rfl := hlate
        simp at hmade
  | cancelled round =>
      rcases disturbance_cancelled (round.disturbed hinterval ht (by simp)) with hvalue | hclosed
      · exact .inl hvalue
      · exact .inr (.inl hclosed)
  | signalled round _ ih | elapsed round _ ih =>
      rcases ih (round.inOrder hinterval ht) hmade with hvalue | hclosed | ⟨start, hs, houtcome⟩
      · exact .inl hvalue
      · exact .inr (.inl hclosed)
      · exact .inr (.inr ⟨start, List.mem_cons_of_mem _ hs, houtcome⟩)

/-- A course ends no later than the last probe that may start. -/
theorem now_le (h : p.Course action volume duration probe deadline seen t s starts made)
    (hinterval : 0 < p.interval) (ht : t.InOrder) (hnow : t.now ≤ deadline) :
    made.2.1.now ≤ deadline + duration := by
  have hlength := Timeline.sleepLength_le duration
  induction h with
  | forbidden =>
      dsimp only
      omega
  | finished allowed last =>
      obtain ⟨rfl, -⟩ := attempt_finished allowed last
      dsimp only
      rw [Timeline.now_advance]
      omega
  | cancelled round => exact Nat.le_add_right_of_le (round.now_le hinterval ht)
  | signalled round _ ih | elapsed round _ ih =>
      exact ih (round.inOrder hinterval ht) (round.now_le hinterval ht)

end Course

end VolumePlugin.Poller
