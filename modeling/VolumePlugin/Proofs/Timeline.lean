import VolumePlugin.Timeline

/-! The passing of time. Whatever takes its time, a probe or a sleep, goes from moment to moment,
and what is due happens on the way and in its order. -/

namespace VolumePlugin

namespace Signal

end Signal

namespace Timeline

/-- What will happen is not over yet, and comes in order of time. -/
structure InOrder (t : Timeline) : Prop where
  ahead : ∀ e ∈ t.pending, t.now ≤ e.1
  sorted : t.pending.Pairwise fun e f => e.1 ≤ f.1

/-- One timeline becomes another one as time passes: moments go by before anything is due, and what
is due happens. -/
inductive Passes : Timeline → Timeline → Prop where
  | refl (t : Timeline) : Passes t t
  | idle {now moment : Nat} {signal : Signal} {pending : List (Nat × SignalEvent)} {t : Timeline}
      (later : now ≤ moment) (quiet : ∀ e ∈ pending, moment ≤ e.1) :
      Passes ⟨moment, signal, pending⟩ t → Passes ⟨now, signal, pending⟩ t
  | event {e : Nat × SignalEvent} {signal : Signal} {rest : List (Nat × SignalEvent)}
      {t : Timeline} :
      Passes ⟨e.1, signal.apply e.2, rest⟩ t → Passes ⟨e.1, signal, e :: rest⟩ t

namespace Passes

variable {t t' t'' : Timeline}

theorem trans (h : Passes t t') (h' : Passes t' t'') : Passes t t'' := by
  induction h with
  | refl t => exact h'
  | idle later quiet _ ih => exact .idle later quiet (ih h')
  | event _ ih => exact .event (ih h')

theorem now_le (h : Passes t t') : t.now ≤ t'.now := by
  induction h with
  | refl t => exact Nat.le_refl _
  | idle later _ _ ih => exact Nat.le_trans later ih
  | event _ ih => exact ih

theorem inOrder (h : Passes t t') (ht : t.InOrder) : t'.InOrder := by
  induction h with
  | refl t => exact ht
  | idle _ quiet _ ih => exact ih ⟨quiet, ht.sorted⟩
  | event _ ih =>
      obtain ⟨first, sorted⟩ := List.pairwise_cons.mp ht.sorted
      exact ih ⟨first, sorted⟩

/-- Nothing happens where nothing is to come. -/
theorem still (h : Passes t t') (hpending : t.pending = []) :
    t'.signal = t.signal ∧ t'.pending = [] := by
  induction h with
  | refl t => exact ⟨rfl, hpending⟩
  | idle _ _ _ ih => exact ih hpending
  | event => simp at hpending

end Passes

/-- How many disturbances may still come for somebody who has seen some of the sends: one for the
sends that are over, and one for each event to come. -/
def backlog (seen : Nat) (t : Timeline) : Nat :=
  t.pending.length + if seen < t.signal.sends then 1 else 0

theorem Passes.backlog_le {t t' : Timeline} (h : Passes t t') (seen : Nat) :
    t'.backlog seen ≤ t.backlog seen := by
  induction h with
  | refl t => exact Nat.le_refl _
  | idle _ _ _ ih => exact ih
  | event _ ih =>
      refine Nat.le_trans ih ?_
      simp only [backlog, List.length_cons]
      split <;> omega

/-! ## Ways to let time pass -/

/-- The events before a moment lie between any earlier moment and that one. -/
theorem passes_applyBefore {moment : Nat} (pending : List (Nat × SignalEvent)) :
    ∀ (now : Nat) (signal : Signal), now ≤ moment → InOrder ⟨now, signal, pending⟩ →
      Passes ⟨now, signal, pending⟩ (applyBefore moment moment signal pending) := by
  induction pending with
  | nil =>
      intro now signal hnow _
      exact .idle hnow (by simp) (.refl _)
  | cons e rest ih =>
      intro now signal hnow ht
      obtain ⟨first, sorted⟩ := List.pairwise_cons.mp ht.sorted
      have hnext : ∀ f ∈ e :: rest, e.1 ≤ f.1 := by simpa using first
      by_cases he : e.1 < moment
      · rw [applyBefore, if_pos he]
        have hrest := ih e.1 (signal.apply e.2) (Nat.le_of_lt he) ⟨first, sorted⟩
        exact .idle (ht.ahead e (by simp)) hnext (.event hrest)
      · rw [applyBefore, if_neg he]
        exact .idle hnow (fun f hf => Nat.le_trans (Nat.le_of_not_lt he) (hnext f hf)) (.refl _)

theorem now_applyBefore (limit moment : Nat) (pending : List (Nat × SignalEvent))
    (signal : Signal) : (applyBefore limit moment signal pending).now = moment := by
  induction pending generalizing signal with
  | nil => rfl
  | cons e rest ih =>
      unfold applyBefore
      split
      · exact ih _
      · rfl

theorem passes_advance {t : Timeline} (ht : t.InOrder) (duration : Nat) :
    t.Passes (t.advance duration) := by
  unfold advance
  split
  · exact .refl t
  · exact passes_applyBefore t.pending _ _ (Nat.le_add_right _ _) ht

theorem now_advance (t : Timeline) (duration : Nat) :
    (t.advance duration).now = t.now + sleepLength duration := by
  unfold advance
  split
  · simp_all [sleepLength]
  · exact now_applyBefore _ _ _ _

theorem sleepLength_le (duration : Nat) : sleepLength duration ≤ duration :=
  Nat.min_le_left _ _

theorem sleepLength_pos {duration : Nat} (h : 0 < duration) : 0 < sleepLength duration :=
  Nat.lt_min.mpr ⟨h, by decide⟩

/-! ## Schedules -/

theorem mem_place {e f : Nat × SignalEvent} {pending : List (Nat × SignalEvent)} :
    f ∈ place e pending ↔ f = e ∨ f ∈ pending := by
  induction pending with
  | nil => simp [place]
  | cons p ps ih =>
      unfold place
      split
      · simp
      · simp [ih, or_left_comm]

theorem sorted_place {pending : List (Nat × SignalEvent)} (e : Nat × SignalEvent)
    (h : pending.Pairwise fun e f => e.1 ≤ f.1) :
    (place e pending).Pairwise fun e f => e.1 ≤ f.1 := by
  induction pending with
  | nil => simp [place]
  | cons p ps ih =>
      obtain ⟨first, sorted⟩ := List.pairwise_cons.mp h
      unfold place
      split
      next hlt =>
        refine List.pairwise_cons.mpr ⟨fun f hf => ?_, h⟩
        rcases List.mem_cons.mp hf with rfl | hf
        · exact Nat.le_of_lt hlt
        · exact Nat.le_trans (Nat.le_of_lt hlt) (first f hf)
      next hle =>
        refine List.pairwise_cons.mpr ⟨fun f hf => ?_, ih sorted⟩
        rcases mem_place.mp hf with rfl | hf
        · exact Nat.le_of_not_lt hle
        · exact first f hf

theorem InOrder.schedule {t : Timeline} (ht : t.InOrder) (delay : Nat) (e : SignalEvent) :
    (t.schedule delay e).InOrder := by
  refine ⟨fun f hf => ?_, sorted_place _ ht.sorted⟩
  rcases mem_place.mp hf with rfl | hf
  · exact Nat.le_add_right _ _
  · exact ht.ahead f hf

/-- Whatever is scheduled comes in order of time. -/
theorem InOrder.scheduleAll {t : Timeline} (ht : t.InOrder) (events : List (Nat × SignalEvent)) :
    (t.scheduleAll events).InOrder := by
  unfold Timeline.scheduleAll
  induction events generalizing t with
  | nil => exact ht
  | cons e events ih => exact ih (ht.schedule e.1 e.2)

end Timeline

end VolumePlugin
