import VolumePlugin.Host.Job
import VolumePlugin.Proofs.Host.Commands
import VolumePlugin.Proofs.Host.Memory
import VolumePlugin.Proofs.Prog

/-! What the host in memory answers to the node service. Which disks are new depends on the past of
the service, so nothing is said about that. -/

namespace VolumePlugin.Host

open Prog (Asks Delivers Either Ensures)

variable {α : Type}

/-- The answers that the host in memory can give, whatever disks the service has met. -/
def Answers : (q : Query) → Memory → q.Answer → Memory → Prop
  | .call c, h, a, h' => Memory.answer c h = (a, h')
  | .newDisks _, h, _, h' => h' = h
  | .lock, h, _, h' => h' = h
  | .unlock, h, _, h' => h' = h

theorem answers_sound (q : Query) (s : List String × Memory) :
    Answers q s.2 (answerQuery Memory.answer q s).1 (answerQuery Memory.answer q s).2.2 := by
  cases q <;> rfl

/-! ## Single questions -/

theorem ensures_ask (c : Call) (h : Memory) (post : c.Answer → Memory → Prop) :
    Ensures Answers (ask c) h post ↔ post (Memory.answer c h).1 (Memory.answer c h).2 := by
  constructor
  · intro hpost
    exact hpost _ _ rfl
  · intro hpost a h' ha
    obtain ⟨rfl, rfl⟩ := Prod.mk.inj ha
    exact hpost

section Jobs

variable {σ : Type} {answers : (q : Query) → σ → q.Answer → σ → Prop}

@[simp] theorem delivers_ofExcept (result : Except CsiError α) (s : σ)
    (ok : α → σ → Prop) (bad : CsiError → σ → Prop) :
    Delivers answers (Job.ofExcept result) s ok bad ↔ Either ok bad result s := Iff.rfl

@[simp] theorem delivers_ofWork (work : Work (Except CsiError α)) (s : σ)
    (ok : α → σ → Prop) (bad : CsiError → σ → Prop) :
    Delivers answers (Job.ofWork work) s ok bad ↔ Ensures answers work s (Either ok bad) := Iff.rfl

theorem delivers_demand {ε : Type} (work : Work (Except ε α)) (failure : ε → CsiError)
    (s : σ) (ok : α → σ → Prop) (bad : CsiError → σ → Prop) :
    Delivers answers (Job.demand work failure) s ok bad ↔
      Ensures answers work s (Either ok fun e => bad (failure e)) := by
  refine (Prog.ensures_bind ..).trans ?_
  constructor
  · intro hpost
    refine hpost.mono fun result s' hr => ?_
    cases result <;> exact hr
  · intro hpost
    refine hpost.mono fun result s' hr => ?_
    cases result <;> exact hr

/-- Work under the lock is like work without it, where the lock is always free. -/
theorem delivers_locked_of_free (hlock : ∀ s a s', answers .lock s a s' ↔ s' = s)
    (hunlock : ∀ s a s', answers .unlock s a s' ↔ s' = s) (task : Job α) (s : σ)
    (ok : α → σ → Prop) (bad : CsiError → σ → Prop) :
    Delivers answers (Job.locked task) s ok bad ↔ Delivers answers task s ok bad := by
  have hstart : Delivers answers (Job.locked task) s ok bad ↔
      Ensures answers (task.run.bind fun result =>
        (Prog.question (A := Query.Answer) .unlock).bind fun _ => .done result) s
        (Either ok bad) := by
    constructor
    · intro hpost
      exact hpost () s ((hlock ..).mpr rfl)
    · intro hpost a s' hs'
      rw [(hlock ..).mp hs']
      exact hpost
  rw [hstart, Prog.ensures_bind]
  constructor
  · intro hpost
    exact hpost.mono fun result s' hr => hr () s' ((hunlock ..).mpr rfl)
  · intro hpost
    refine Prog.Ensures.mono hpost fun result s' hr => ?_
    intro a s'' hs''
    rw [(hunlock ..).mp hs'']
    exact hr

end Jobs

theorem delivers_run (c : Command) (failure : Failure → CsiError) (h : Memory)
    (ok : CommandOutput → Memory → Prop) (bad : CsiError → Memory → Prop) :
    Delivers Answers (Job.demand (ask (.run c)) failure) h ok bad ↔ ok (h.run c).1 (h.run c).2 := by
  rw [delivers_demand, ensures_ask]
  rfl

/-- Work under the lock is like work without it, for whoever works on one request at a time. -/
theorem delivers_locked (task : Job α) (h : Memory) (ok : α → Memory → Prop)
    (bad : CsiError → Memory → Prop) :
    Delivers Answers (Job.locked task) h ok bad ↔ Delivers Answers task h ok bad :=
  delivers_locked_of_free (fun _ _ _ => Iff.rfl) (fun _ _ _ => Iff.rfl) task h ok bad

/-! ## Questions that leave the mounts alone -/

/-- Whether a question is neither about the lock nor changes a mount. -/
def Quiet : Query → Prop
  | .call (.mount _) | .call (.unmount _) | .call (.formatAndMount _) => False
  | .lock | .unlock => False
  | _ => True

theorem mounts_of_quiet (q : Query) (h : Memory) (a : q.Answer) (h' : Memory) (hq : Quiet q)
    (ha : Answers q h a h') : h'.mounts = h.mounts := by
  cases q with
  | newDisks disks => rw [ha]
  | lock => exact hq.elim
  | unlock => exact hq.elim
  | call c =>
      obtain rfl : (Memory.answer c h).2 = h' := congrArg Prod.snd ha
      cases c with
      | mount m => exact hq.elim
      | unmount target => exact hq.elim
      | formatAndMount m => exact hq.elim
      | makeDirectories path => exact Memory.mounts_addDirectories h path
      | run command => exact (Memory.undisturbed_run h command).mounts
      | _ => rfl

end VolumePlugin.Host
