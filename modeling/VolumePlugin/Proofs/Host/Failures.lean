import VolumePlugin.Proofs.Host.Answers

/-! # A host whose commands fail

Any command may fail, at any time and with any code that tells of a failure. A command that fails
does nothing. All else on the host is as ever. -/

namespace VolumePlugin.Host

open Prog (Asks Delivers Either Ensures)

/-- Whether what a command leaves behind tells of a failure. Two codes of `blkid` are answers. -/
def Command.Failed (c : Command) (out : CommandOutput) : Prop :=
  if c.program = "blkid" then out.code ≠ some 0 ∧ out.code ≠ some 2 else out.success = false

/-- Which commands fail, counted from the first one on, and what they leave behind then. -/
structure Failures where
  output? : Nat → Command → Option CommandOutput
  failed : ∀ n c out, output? n c = some out → c.Failed out

namespace Failures

/-- Whether there is a command that fails. -/
def Strike (f : Failures) : Prop :=
  ∃ n c out, f.output? n c = some out

end Failures

/-- A host, and the commands that were run on it with what they left behind. -/
@[ext]
structure Trial where
  host : Memory
  outputs : List (Command × CommandOutput) := []

namespace Trial

def run (f : Failures) (t : Trial) (c : Command) : CommandOutput × Trial :=
  match f.output? t.outputs.length c with
  | some out => (out, ⟨t.host.logged c, t.outputs ++ [(c, out)]⟩)
  | none => ((t.host.run c).1, ⟨(t.host.run c).2, t.outputs ++ [(c, (t.host.run c).1)]⟩)

/-- The answer to a call, and what there is after it. Only commands fail. -/
def answer (f : Failures) : (call : Call) → Trial → call.Answer × Trial
  | .run c, t => (.ok (t.run f c).1, (t.run f c).2)
  | call, t => ((Memory.answer call t.host).1, { t with host := (Memory.answer call t.host).2 })

/-- What is left of a command that did nothing. -/
def failed (t : Trial) (c : Command) (out : CommandOutput) : Trial :=
  ⟨t.host.logged c, t.outputs ++ [(c, out)]⟩

/-- What is left of a command that the host carried out. -/
def carried (t : Trial) (c : Command) : Trial :=
  ⟨(t.host.run c).2, t.outputs ++ [(c, (t.host.run c).1)]⟩

theorem run_cases (f : Failures) (t : Trial) (c : Command) :
    (∃ out, f.Strike ∧ c.Failed out ∧ t.run f c = (out, t.failed c out)) ∨
      t.run f c = ((t.host.run c).1, t.carried c) := by
  unfold run
  cases hout : f.output? t.outputs.length c with
  | some out => exact .inl ⟨out, ⟨_, _, _, hout⟩, f.failed _ _ _ hout, rfl⟩
  | none => exact .inr rfl

end Trial

/-- The answers that a host can give whose commands fail in some way. -/
def AnswersAmid (f : Failures) : (q : Query) → Trial → q.Answer → Trial → Prop
  | .call c, t, a, t' => Trial.answer f c t = (a, t')
  | .newDisks _, t, _, t' => t' = t
  | .lock, t, _, t' => t' = t
  | .unlock, t, _, t' => t' = t

section Amid

variable {α : Type} {f : Failures} {t : Trial}

theorem answersAmid_sound (q : Query) (s : List String × Trial) :
    AnswersAmid f q s.2 (answerQuery (Trial.answer f) q s).1
      (answerQuery (Trial.answer f) q s).2.2 := by
  cases q <;> rfl

/-! ## Questions that are no commands -/

/-- Whether a question is about something else than a command. -/
def Commandless : Query → Prop
  | .call (.run _) => False
  | _ => True

/-- A question that is no command is answered as ever. -/
theorem answers_of_commandless {q : Query} (hq : Commandless q) {a : q.Answer} {t' : Trial}
    (ha : AnswersAmid f q t a t') : Answers q t.host a t'.host ∧ t'.outputs = t.outputs := by
  cases q with
  | newDisks disks => exact ⟨congrArg Trial.host ha, congrArg Trial.outputs ha⟩
  | lock => exact ⟨congrArg Trial.host ha, congrArg Trial.outputs ha⟩
  | unlock => exact ⟨congrArg Trial.host ha, congrArg Trial.outputs ha⟩
  | call c =>
      cases c with
      | run c => exact hq.elim
      | _ =>
        obtain ⟨rfl, rfl⟩ := Prod.mk.inj ha
        exact ⟨rfl, rfl⟩

/-- Work without commands does what it does on the host. -/
theorem ensures_amid {p : Work α} {post : α → Memory → Prop} (hp : Asks Commandless p)
    (h : Ensures Answers p t.host post) :
    Ensures (AnswersAmid f) p t fun a t' => post a t'.host ∧ t'.outputs = t.outputs := by
  induction p generalizing t with
  | done a => exact ⟨h, rfl⟩
  | ask q next ih =>
      intro a t' ha
      obtain ⟨hhost, houtputs⟩ := answers_of_commandless hp.1 ha
      rw [← houtputs]
      exact ih a (hp.2 a) (h a t'.host hhost)

theorem ensures_ask_amid {c : Call} (hc : Commandless (.call c)) (t : Trial)
    (post : c.Answer → Trial → Prop) :
    Ensures (AnswersAmid f) (ask c) t post ↔
      post (Memory.answer c t.host).1 { t with host := (Memory.answer c t.host).2 } := by
  have hanswer : Trial.answer f c t =
      ((Memory.answer c t.host).1, { t with host := (Memory.answer c t.host).2 }) := by
    cases c with
    | run c => exact hc.elim
    | _ => rfl
  constructor
  · intro hpost
    exact hpost _ _ hanswer
  · intro hpost a t' ha
    obtain ⟨rfl, rfl⟩ := Prod.mk.inj (hanswer.symm.trans ha)
    exact hpost

/-! ## Commands and the lock -/

theorem delivers_run_amid (c : Command) (failure : Failure → CsiError) (t : Trial)
    (ok : CommandOutput → Trial → Prop) (bad : CsiError → Trial → Prop) :
    Delivers (AnswersAmid f) (Job.demand (ask (.run c)) failure) t ok bad ↔
      ok (t.run f c).1 (t.run f c).2 := by
  rw [delivers_demand]
  constructor
  · intro hpost
    exact hpost _ _ rfl
  · intro hpost a t' ha
    obtain ⟨rfl, rfl⟩ := Prod.mk.inj ha
    exact hpost

theorem delivers_locked_amid (task : Job α) (t : Trial) (ok : α → Trial → Prop)
    (bad : CsiError → Trial → Prop) :
    Delivers (AnswersAmid f) (Job.locked task) t ok bad ↔
      Delivers (AnswersAmid f) task t ok bad :=
  delivers_locked_of_free (fun _ _ _ => Iff.rfl) (fun _ _ _ => Iff.rfl) task t ok bad

end Amid

end VolumePlugin.Host
