import VolumePlugin.Controller.Service
import VolumePlugin.Proofs.Cloud.Calls
import VolumePlugin.Proofs.Poller
import VolumePlugin.Proofs.Prog

/-! What the provider in memory answers to the controller service. Time and the shutdown signal
count only for how a wait ends, so nothing is said about them. -/

namespace VolumePlugin.Controller

open Cloud (Memory)
open Cloud.Memory (Answered Observed Shown settle)
open Prog (Delivers Either Ensures)

variable {α : Type}

/-- The answers that the provider in memory can give, whatever the time is and however long the
service waits. -/
def Answers : (q : Query) → Memory → q.Answer → Memory → Prop
  | .call c, m, a, m' => Memory.answer c m = (a, m')
  | .wait volume goal, m, a, m' => ∃ (p : Poller) (t t' : Timeline),
      p.wait goal.action volume 0 (probe Memory.answer volume goal) t m = (a, t', m')

theorem answers_sound (p : Poller) (q : Query) (s : Timeline × Memory) :
    Answers q s.2 (answerQuery p Memory.answer q s).1 (answerQuery p Memory.answer q s).2.2 := by
  cases q with
  | call c => rfl
  | wait volume goal => exact ⟨p, s.1, _, rfl⟩

/-! ## Single questions -/

@[simp] theorem delivers_ofExcept {σ : Type} {answers : (q : Query) → σ → q.Answer → σ → Prop}
    (result : Except CsiError α) (s : σ) (ok : α → σ → Prop) (bad : CsiError → σ → Prop) :
    Delivers answers (Job.ofExcept result) s ok bad ↔ Either ok bad result s := Iff.rfl

/-- A check that fails ends the work, and one that succeeds changes nothing. -/
theorem delivers_ofExcept_bind {σ β : Type} {answers : (q : Query) → σ → q.Answer → σ → Prop}
    {result : Except CsiError α} {f : α → Job β} {s : σ} {ok : β → σ → Prop}
    {bad : CsiError → σ → Prop} (hbad : ∀ e, result = .error e → bad e s)
    (hf : ∀ a, result = .ok a → Delivers answers (f a) s ok bad) :
    Delivers answers (Job.ofExcept result >>= f) s ok bad := by
  cases result with
  | error e => exact hbad e rfl
  | ok a => exact hf a rfl

theorem ensures_ask_call (c : Cloud.Call) (next : c.Answer → Prog Query.Answer α) (m : Memory)
    (post : α → Memory → Prop) :
    Ensures Answers (Prog.ask (A := Query.Answer) (.call c) next) m post ↔
      Ensures Answers (next (Memory.answer c m).1) (Memory.answer c m).2 post := by
  constructor
  · intro h
    exact h _ _ rfl
  · intro h a m' ha
    obtain ⟨rfl, rfl⟩ := Prod.mk.inj ha
    exact h

@[simp] theorem delivers_attempt (c : Cloud.Call) (m : Memory) (ok : c.Answer → Memory → Prop)
    (bad : CsiError → Memory → Prop) :
    Delivers Answers (Job.attempt c) m ok bad ↔
      ok (Memory.answer c m).1 (Memory.answer c m).2 :=
  ensures_ask_call c _ m _

@[simp] theorem delivers_call (c : Cloud.Call) (m : Memory) (ok : c.Result → Memory → Prop)
    (bad : CsiError → Memory → Prop) :
    Delivers Answers (Job.call c) m ok bad ↔
      Either ok (fun e => bad (.cloud e)) (Memory.answer c m).1 (Memory.answer c m).2 := by
  refine (ensures_ask_call c _ m _).trans ?_
  generalize Memory.answer c m = reply
  rcases reply with ⟨_ | _, _⟩ <;> exact Iff.rfl

/-- A search changes nothing. It looks at one page. -/
theorem delivers_search (m : Memory) (label : String) (ok : Option RemoteVolume → Memory → Prop)
    (bad : CsiError → Memory → Prop) :
    Delivers Answers (Job.calls (Cloud.findVolume label)) m ok bad ↔
      ok ((m.page (.ofLabel label) (m.selected (·.label) (.ofLabel label) m.volumes)).items.find?
        (·.label = label)) m :=
  ensures_ask_call _ _ m _

/-- Where listings regard labels, a search finds the first volume with the label. -/
theorem delivers_findVolume {m : Memory} (h : m.ignoresLabels = false) (label : String)
    (ok : Option RemoteVolume → Memory → Prop) (bad : CsiError → Memory → Prop) :
    Delivers Answers (Job.calls (Cloud.findVolume label)) m ok bad ↔
      ok (m.labelled? label) m := by
  rw [← Cloud.Memory.find?_page_ofLabel h]
  exact delivers_search m label ok bad

/-! ## How work goes on -/

section Running

variable {σ β : Type} {p : Poller} {answer : (c : Cloud.Call) → σ → c.Answer × σ} {t : Timeline}
  {s : σ}

theorem ofExcept_ok_bind (a : α) (f : α → Job β) : Job.ofExcept (.ok a) >>= f = f a := rfl

theorem run_attempt_bind (c : Cloud.Call) (f : c.Answer → Job β) :
    (Job.attempt c >>= f).run.run (answerQuery p answer) (t, s) =
      (f (answer c s).1).run.run (answerQuery p answer) (t, (answer c s).2) := rfl

theorem asked_attempt_bind (c : Cloud.Call) (f : c.Answer → Job β) :
    (Job.attempt c >>= f).run.asked (answerQuery p answer) (t, s) =
      .call c :: (f (answer c s).1).run.asked (answerQuery p answer) (t, (answer c s).2) := rfl

/-- Work that goes on after a check has passed it. -/
theorem ofExcept_bind_eq_ok {result : Except CsiError α} {f : α → Job β} {b : β}
    (h : ((Job.ofExcept result >>= f).run.run (answerQuery p answer) (t, s)).1 = .ok b) :
    ∃ a, result = .ok a ∧ Job.ofExcept result >>= f = f a := by
  cases result with
  | error e => cases h
  | ok a => exact ⟨a, rfl, rfl⟩

/-- Work that goes on after a call has been granted it. -/
theorem call_bind_eq_ok {c : Cloud.Call} {f : c.Result → Job β} {b : β}
    (h : ((Job.call c >>= f).run.run (answerQuery p answer) (t, s)).1 = .ok b) :
    ∃ a, (answer c s).1 = .ok a ∧
      (Job.call c >>= f).run.run (answerQuery p answer) (t, s) =
        (f a).run.run (answerQuery p answer) (t, (answer c s).2) := by
  have hrun : (Job.call c >>= f).run.run (answerQuery p answer) (t, s) =
      (ExceptT.mk (.done ((answer c s).1.mapError .cloud)) >>= f).run.run (answerQuery p answer)
        (t, (answer c s).2) := rfl
  rw [hrun] at h ⊢
  cases hanswer : (answer c s).1 with
  | error e =>
      rw [hanswer] at h
      cases h
  | ok a => exact ⟨a, rfl, rfl⟩

/-- Work that goes on after a wait has ended well. -/
theorem wait_bind_eq_ok {volume : Nat} {goal : Goal} {f : RemoteVolume → Job β} {b : β}
    (h : ((Job.wait volume goal >>= f).run.run (answerQuery p answer) (t, s)).1 = .ok b) :
    ∃ v t' s', p.wait goal.action volume 0 (probe answer volume goal) t s = (.ok v, t', s') ∧
      (Job.wait volume goal >>= f).run.run (answerQuery p answer) (t, s) =
        (f v).run.run (answerQuery p answer) (t', s') := by
  have hrun : (Job.wait volume goal >>= f).run.run (answerQuery p answer) (t, s) =
      let made := p.wait goal.action volume 0 (probe answer volume goal) t s
      (ExceptT.mk (.done made.1) >>= f).run.run (answerQuery p answer) made.2 := rfl
  rw [hrun] at h ⊢
  rcases hwait : p.wait goal.action volume 0 (probe answer volume goal) t s with ⟨result, t', s'⟩
  rw [hwait] at h
  cases result with
  | error e => cases h
  | ok v => exact ⟨v, t', s', rfl, rfl⟩

end Running

/-! ## Waits -/

theorem probe_error {volume now : Nat} {goal : Goal} {m : Memory} {e : CsiError}
    (h : (probe Memory.answer volume goal now m).1 = .error e) : ∃ cause, e = .cloud cause := by
  unfold probe at h
  split at h
  · next cause _ _ => exact ⟨cause, (Except.error.inj h).symm⟩
  · cases h

theorem probeSpec {m : Memory} (hm : m.Ordered) (volume : Nat) (goal : Goal) :
    Poller.ProbeSpec (probe Memory.answer volume goal) (Observed m) fun v m' =>
      goal.isMet v ∧ ∃ w, Shown v w ∧ m'.volume? volume = some (settle w) := by
  constructor
  · intro now s hs
    have hread := hs.trans (Observed.getVolume (hs.ordered hm) volume)
    unfold probe
    simp only [Cloud.Memory.answer]
    rcases hget : s.getVolume volume with ⟨result, s'⟩
    rw [hget] at hread
    cases result <;> exact hread
  · intro now s v hs hv
    unfold probe at hv ⊢
    simp only [Cloud.Memory.answer] at hv ⊢
    rcases hget : s.getVolume volume with ⟨result, s'⟩
    rw [hget] at hv
    cases result with
    | error e => simp at hv
    | ok u =>
        by_cases hmet : goal.isMet u
        · obtain rfl : u = v := by simpa [hmet] using hv
          obtain ⟨w, -, hshown, hafter⟩ := Cloud.Memory.getVolume_eq_ok (congrArg Prod.fst hget)
          exact ⟨hmet, w, hshown, by simpa only [hget] using hafter⟩
        · simp [hmet] at hv

/-- The call that a query leads to. To wait for a volume is to read it again and again. -/
def Query.toCall : Query → Cloud.Call
  | .call c => c
  | .wait volume _ => .getVolume volume

/-- Waits do what their reads do, so a query does no more than its call. -/
theorem Answers.answered {q : Query} {m m' : Memory} {a : q.Answer} (ha : Answers q m a m')
    (h : m.Numbered) : Answered q.toCall m m' := by
  cases q with
  | call c =>
      have hm' : m' = (Memory.answer c m).2 := (congrArg Prod.snd ha).symm
      exact hm' ▸ Memory.answered h c
  | wait volume goal =>
      obtain ⟨p, t, t', hwait⟩ := ha
      have hspec := p.wait_spec goal.action volume 0 (probeSpec h.ordered volume goal) t
        (Observed.refl m)
      rw [hwait] at hspec
      exact .observed h hspec.1

/-- A wait only reads. If it ends well, the provider showed the volume as it was waited for. -/
theorem delivers_wait {m : Memory} (hm : m.Ordered) (volume : Nat) (goal : Goal) :
    Delivers Answers (Job.wait volume goal) m
      (fun v m' => Observed m m' ∧ goal.isMet v ∧
        ∃ w, Shown v w ∧ m'.volume? volume = some (settle w))
      (fun _ m' => Observed m m') := by
  rintro result m' ⟨p, t, t', hwait⟩
  have hspec := p.wait_spec goal.action volume 0 (probeSpec hm volume goal) t (Observed.refl m)
  rw [hwait] at hspec
  cases result with
  | ok v => exact ⟨hspec.1, hspec.2 v rfl⟩
  | error e => exact hspec.1

/-- A volume for which the service has waited is ready for use at the provider. -/
theorem delivers_waitActive {m : Memory} (hm : m.Ordered) (volume : Nat) :
    Delivers Answers (Job.waitActive volume) m
      (fun v m' => Observed m m' ∧
        ∃ w, Shown v w ∧ w.status = .active ∧ m'.volume? volume = some w)
      (fun _ m' => Observed m m') := by
  apply (delivers_wait hm volume (.status .active)).mono
  · rintro v m' ⟨hread, hmet, w, hshown, hw⟩
    have hstatus : w.status = .active := by
      have hv : v.status = .active := by simpa [Goal.isMet] using hmet
      rcases hshown with rfl | rfl <;> exact hv
    have hsettle : settle w = w := by
      cases w
      cases hstatus
      rfl
    exact ⟨hread, w, hshown, hstatus, hsettle ▸ hw⟩
  · exact fun _ _ h => h

end VolumePlugin.Controller
