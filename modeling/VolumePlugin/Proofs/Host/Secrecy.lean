import VolumePlugin.Proofs.Host.Answers

/-! # What `cryptsetup` is given to read

A key reaches `cryptsetup` by what the command reads, and nothing else that happens on the host
depends on that. Work that differs only in what `cryptsetup` is given to read has the same result on
hosts that differ only in what it was given to read before. -/

namespace VolumePlugin

/-! ## Programs put to other surroundings -/

namespace Prog

variable {Q R : Type} {A : Q → Type} {B : R → Type} {α β σ : Type}

theorem through_bind (f : (q : Q) → Prog B (A q)) (p : Prog A α) (g : α → Prog A β) :
    (p.bind g).through f = (p.through f).bind fun a => (g a).through f := by
  induction p with
  | done a => rfl
  | ask q next ih => simp only [ask_bind, through, bind_bind, ih]

/-- A program is run in other surroundings by a run of what it puts to them. -/
theorem run_through (answer : (r : R) → σ → B r × σ) (f : (q : Q) → Prog B (A q)) (p : Prog A α)
    (s : σ) : (p.through f).run answer s = p.run (fun q s => (f q).run answer s) s := by
  induction p generalizing s with
  | done a => rfl
  | ask q next ih => rw [through, run_bind, run, ih]

end Prog

namespace Host

/-! ## Commands -/

/-- The command without what `cryptsetup` is given to read. Whether it is given anything stays. -/
def Command.redacted (c : Command) : Command :=
  if c.program = "cryptsetup" then { c with stdin := c.stdin.map fun _ => "" } else c

@[simp] theorem Command.program_redacted (c : Command) : c.redacted.program = c.program := by
  unfold redacted
  split <;> rfl

@[simp] theorem Command.arguments_redacted (c : Command) : c.redacted.arguments = c.arguments := by
  unfold redacted
  split <;> rfl

@[simp] theorem Command.line_redacted (c : Command) : c.redacted.line = c.line := by
  simp [line]

theorem Command.redacted_cryptsetup (arguments : List String) (stdin : Option String) :
    redacted ⟨"cryptsetup", arguments, stdin⟩ =
      ⟨"cryptsetup", arguments, stdin.map fun _ => ""⟩ :=
  if_pos rfl

namespace Memory

/-- The host without what `cryptsetup` was given to read. -/
def redacted (h : Memory) : Memory :=
  { h with commands := h.commands.map Command.redacted }

theorem cryptsetup_redacted (h : Memory) (arguments : List String) :
    h.redacted.cryptsetup arguments =
      ((h.cryptsetup arguments).1, (h.cryptsetup arguments).2.redacted) := by
  unfold cryptsetup
  split
  · rfl
  · split <;> rfl

theorem carryOut_redacted (h : Memory) (c : Command) :
    h.redacted.carryOut c.redacted = ((h.carryOut c).1, (h.carryOut c).2.redacted) := by
  unfold carryOut
  rw [Command.program_redacted, Command.arguments_redacted]
  split
  · split <;> rfl
  · exact h.cryptsetup_redacted c.arguments
  · rfl

theorem logged_redacted (h : Memory) (c : Command) :
    h.redacted.logged c.redacted = (h.logged c).redacted := by
  simp [redacted, logged]

/-- A command is answered by what its line says, and does nothing else than that. -/
theorem run_redacted (h : Memory) (c : Command) :
    h.redacted.run c.redacted = ((h.run c).1, (h.run c).2.redacted) := by
  have hline : h.redacted.response? c.redacted.line = h.response? c.line := by
    rw [Command.line_redacted]
    rfl
  cases hresponse : h.response? c.line with
  | some out =>
      rw [run_of_response? hresponse, run_of_response? (hline.trans hresponse)]
      exact congrArg (Prod.mk out) (logged_redacted h c)
  | none =>
      rw [run_of_response?_eq_none hresponse, run_of_response?_eq_none (hline.trans hresponse)]
      change (h.redacted.logged c.redacted).carryOut c.redacted = _
      rw [logged_redacted, carryOut_redacted]
      rfl

theorem addDirectories_redacted (h : Memory) (path : String) :
    h.redacted.addDirectories path = (h.addDirectories path).redacted := by
  rw [addDirectories_eq, addDirectories_eq]
  rfl

theorem unmount_redacted (h : Memory) (target : String) :
    h.redacted.unmount target = ((h.unmount target).1, (h.unmount target).2.redacted) := by
  have hmounts : h.redacted.mounts = h.mounts := rfl
  unfold unmount
  rw [hmounts]
  cases dropLastOn? target h.mounts <;> rfl

end Memory

/-! ## Questions -/

/-- Asks a question without what `cryptsetup` is given to read. -/
def hushed : (q : Query) → Work q.Answer
  | .call (.run c) => Prog.question (A := Query.Answer) (.call (.run c.redacted))
  | q => Prog.question (A := Query.Answer) q

/-- The disks that the service has met, and the host without what `cryptsetup` was given to read. -/
def redactedState (s : List String × Memory) : List String × Memory :=
  (s.1, s.2.redacted)

/-- What `cryptsetup` reads makes no difference to an answer or to the rest of the host. -/
theorem run_hushed (q : Query) (s : List String × Memory) :
    (hushed q).run (answerQuery Memory.answer) (redactedState s) =
      ((answerQuery Memory.answer q s).1, redactedState (answerQuery Memory.answer q s).2) := by
  obtain ⟨known, h⟩ := s
  cases q with
  | call c =>
      cases c with
      | run c =>
          change ((.ok (h.redacted.run c.redacted).1 : Except Failure CommandOutput),
            known, (h.redacted.run c.redacted).2) = _
          rw [Memory.run_redacted]
          rfl
      | makeDirectories path =>
          change ((.ok () : Except Failure Unit), known, h.redacted.addDirectories path) = _
          rw [Memory.addDirectories_redacted]
          rfl
      | unmount target =>
          change ((h.redacted.unmount target).1, known, (h.redacted.unmount target).2) = _
          rw [Memory.unmount_redacted]
          rfl
      | _ => rfl
  | _ => rfl

/-! ## Work that differs in what `cryptsetup` is given to read -/

/-- Whether two pieces of work differ only in what `cryptsetup` is given to read. -/
def Alike {α : Type} (p q : Work α) : Prop :=
  p.through hushed = q.through hushed

namespace Alike

variable {α β : Type} {p q : Work α}

theorem refl (p : Work α) : Alike p p := rfl

theorem symm (h : Alike p q) : Alike q p := Eq.symm h

theorem trans {r : Work α} (h : Alike p q) (h' : Alike q r) : Alike p r := Eq.trans h h'

theorem bind {f g : α → Work β} (h : Alike p q) (hf : ∀ a, Alike (f a) (g a)) :
    Alike (p.bind f) (q.bind g) := by
  unfold Alike at *
  rw [Prog.through_bind, Prog.through_bind, h, funext hf]

theorem bind_run {ε : Type} {j k : ExceptT ε Work α} {f g : α → ExceptT ε Work β}
    (h : Alike j.run k.run) (hf : ∀ a, Alike (f a).run (g a).run) :
    Alike (j >>= f).run (k >>= g).run := by
  rw [ExceptT.run_bind, ExceptT.run_bind]
  refine h.bind fun result => ?_
  cases result with
  | ok a => exact hf a
  | error e => exact refl _

theorem locked {j k : Job α} (h : Alike j.run k.run) :
    Alike (Job.locked j).run (Job.locked k).run :=
  (refl _).bind fun _ => h.bind fun _ => refl _

/-- Two commands that differ only in what `cryptsetup` is given to read. -/
theorem ask_run {c d : Command} (h : c.redacted = d.redacted) :
    Alike (ask (.run c)) (ask (.run d)) := by
  change (Prog.question (A := Query.Answer) (.call (.run c.redacted))).bind _ =
    (Prog.question (A := Query.Answer) (.call (.run d.redacted))).bind _
  rw [h]

/-- Nothing but what `cryptsetup` was given to read tells apart two runs of such work. -/
theorem run (h : Alike p q) {s t : List String × Memory}
    (hst : redactedState s = redactedState t) :
    (p.run (answerQuery Memory.answer) s).1 = (q.run (answerQuery Memory.answer) t).1 ∧
      redactedState (p.run (answerQuery Memory.answer) s).2 =
        redactedState (q.run (answerQuery Memory.answer) t).2 := by
  have hview : ∀ (work : Work α) (s : List String × Memory),
      (work.through hushed).run (answerQuery Memory.answer) (redactedState s) =
        ((work.run (answerQuery Memory.answer) s).1,
          redactedState (work.run (answerQuery Memory.answer) s).2) := by
    intro work s
    rw [Prog.run_through]
    induction work generalizing s with
    | done a => rfl
    | ask q next ih => rw [Prog.run, Prog.run, run_hushed, ih]
  have hboth := (hview p s).symm.trans ((congrArg₂ (fun (work : Work α) s =>
    work.run (answerQuery Memory.answer) s) h hst).trans (hview q t))
  exact Prod.mk.inj hboth

end Alike

end Host

end VolumePlugin
