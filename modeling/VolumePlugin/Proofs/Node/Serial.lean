import Mathlib.Logic.Function.Basic
import VolumePlugin.Proofs.Node.Quiet
import VolumePlugin.Proofs.Node.Run
import VolumePlugin.Proofs.Node.Unstaging

/-! # Node requests at the same time

Requests that reach the node service at the same time take turns, and a turn is one question to the
host. Every request that may change something is either refused before it asks anything or does all
its work under the lock. So whatever the turns are, the requests end as if each of them had been
worked on alone, in the order in which they took the lock. -/

namespace VolumePlugin.Node

open Host (Job Memory Query Work answerQuery)
open Prog (Asks)

/-! ## Work under the lock -/

/-- Whether a question is not about the lock. -/
def Inside : Query → Prop
  | .lock | .unlock => False
  | _ => True

theorem inside_of_confined {place : String → Prop} {q : Query} (h : Host.Confined place q) :
    Inside q := by
  cases q with
  | lock => exact h.elim
  | unlock => exact h.elim
  | call c => trivial
  | newDisks disks => trivial

theorem asks_inside_of_confined {α : Type} {work : Work α}
    (h : Asks (Host.Confined fun _ => True) work) : Asks Inside work :=
  h.mono fun _ => inside_of_confined

/-- A task after which the lock is given back. -/
def thenUnlock {α : Type} (task : Work α) : Work α :=
  task.bind fun a => .ask .unlock fun _ => .done a

/-- Work that is refused before it asks anything, or that is done under the lock. -/
def Guarded {α : Type} (work : Work α) : Prop :=
  (∃ a, work = .done a) ∨
    ∃ task, Asks Inside task ∧ work = .ask .lock fun _ => thenUnlock task

theorem guarded_locked {α β : Type} (valid : Except CsiError β) {task : β → Job α}
    (h : ∀ b, Asks Inside (task b).run) :
    Guarded (Job.ofExcept valid >>= fun b => Job.locked (task b)).run := by
  cases valid with
  | error e => exact .inl ⟨_, rfl⟩
  | ok b => exact .inr ⟨(task b).run, h b, rfl⟩

section Requests

theorem inside_mountSource (device : String) (luks : LuksContext) :
    Asks Inside (mountSource device luks).run := by
  apply (unlocking_mountSource device luks).mono
  rintro q (hq | rfl)
  · exact inside_of_confined (Host.confined_of_mild hq : Host.Confined (fun _ => True) q)
  · trivial

theorem inside_stageLocked (req : NodeStageVolumeRequest) (s : Staging) :
    Asks Inside (stageLocked req s).run := by
  apply (asks_inside_of_confined (Host.confined_of_asks_mild (mild_resolveDevice ..))).bind_run
  intro device
  apply Asks.bind_run (Host.asks_ask trivial)
  intro mounted
  split
  · trivial
  · split
    · trivial
    · apply (inside_mountSource ..).bind_run
      intro source
      apply (asks_inside_of_confined (confined_makeDirectories trivial)).bind_run
      intro _
      exact Asks.bind_run (Host.asks_ask trivial) fun _ => trivial

/-- Whether a request may change something on the node. -/
def Request.Mutating : Request → Prop
  | stats _ => False
  | _ => True

/-- A request that may change something does nothing at all without the lock. -/
theorem Request.guarded {r : Request} (h : r.Mutating) : Guarded r.job.run := by
  cases r with
  | stage req => exact guarded_locked _ (inside_stageLocked req)
  | unstage req =>
      exact guarded_locked _ fun key => asks_inside_of_confined (confined_unstageLocked req key)
  | publish req =>
      exact guarded_locked _ fun cap =>
        asks_inside_of_confined (confined_publishLocked (fun _ _ => trivial) cap)
  | unpublish req =>
      exact guarded_locked _ fun _ => asks_inside_of_confined (confined_unpublishLocked trivial)
  | expand req =>
      exact guarded_locked _ fun _ => asks_inside_of_confined (confined_expandLocked req)
  | stats req => exact h.elim

end Requests

/-! ## Turns -/

/-- Work that is under way at the same time, and what it shares. -/
structure Session {ι : Type} (β : ι → Type) (σ : Type) where
  work : (i : ι) → Work (β i)
  /-- Who has the lock. -/
  holder : Option ι := none
  /-- Who has taken the lock so far, one after the other. -/
  granted : List ι := []
  /-- The disks that the service has met, and the host. -/
  state : List String × σ

namespace Session

variable {ι σ : Type} [DecidableEq ι] {β : ι → Type}
variable (answer : (c : Host.Call) → σ → c.Answer × σ)

/-- One question of one request is answered. A request that wants the lock waits for as long as
another one has it. -/
def take (s : Session β σ) (i : ι) : Session β σ :=
  match s.work i with
  | .done _ => s
  | .ask .lock next =>
    match s.holder with
    | some _ => s
    | none =>
      { s with
        work := Function.update s.work i (next ())
        holder := some i
        granted := s.granted ++ [i] }
  | .ask .unlock next => { s with work := Function.update s.work i (next ()), holder := none }
  | .ask (.call c) next =>
    let reply := answerQuery answer (.call c) s.state
    { s with work := Function.update s.work i (next reply.1), state := reply.2 }
  | .ask (.newDisks disks) next =>
    let reply := answerQuery answer (.newDisks disks) s.state
    { s with work := Function.update s.work i (next reply.1), state := reply.2 }

def after (s : Session β σ) (turns : List ι) : Session β σ :=
  turns.foldl (take answer) s

section Taking

variable {answer} {s : Session β σ} {i : ι}

theorem take_done {a : β i} (hwork : s.work i = .done a) : s.take answer i = s := by
  simp only [take, hwork]

theorem take_lock_of_held {next : Unit → Work (β i)} {j : ι} (hwork : s.work i = .ask .lock next)
    (hholder : s.holder = some j) : s.take answer i = s := by
  simp only [take, hwork, hholder]

theorem take_lock_of_free {next : Unit → Work (β i)} (hwork : s.work i = .ask .lock next)
    (hholder : s.holder = none) :
    s.take answer i = ⟨Function.update s.work i (next ()), some i, s.granted ++ [i], s.state⟩ := by
  simp only [take, hwork, hholder]

theorem take_unlock {next : Unit → Work (β i)} (hwork : s.work i = .ask .unlock next) :
    s.take answer i = ⟨Function.update s.work i (next ()), none, s.granted, s.state⟩ := by
  simp only [take, hwork]

theorem take_inside {q : Query} {next : q.Answer → Work (β i)} (hwork : s.work i = .ask q next)
    (hq : Inside q) :
    s.take answer i =
      ⟨Function.update s.work i (next (answerQuery answer q s.state).1), s.holder, s.granted,
        (answerQuery answer q s.state).2⟩ := by
  cases q with
  | lock => exact hq.elim
  | unlock => exact hq.elim
  | call c => simp only [take, hwork]
  | newDisks disks => simp only [take, hwork]

end Taking

end Session

/-! ## One after the other -/

section Serial

variable {ι σ : Type} {β : ι → Type} (answer : (c : Host.Call) → σ → c.Answer × σ)
  (jobs : (i : ι) → Work (β i))

/-- The state after work that is done one after the other. -/
def served (order : List ι) (s : List String × σ) : List String × σ :=
  order.foldl (fun s i => ((jobs i).run (answerQuery answer) s).2) s

/-- What work ends with at the place that it has in an order, if all is done one after the other. -/
def RepliesAs (s₀ : List String × σ) (order : List ι) (i : ι) (a : β i) : Prop :=
  ∃ past future, order = past ++ i :: future ∧
    ((jobs i).run (answerQuery answer) (served answer jobs past s₀)).1 = a

/-- The session is as if its work had been done one after the other, in the order in which the lock
was taken. -/
structure Serial (s₀ : List String × σ) (s : Session β σ) : Prop where
  /-- Nobody takes the lock twice. -/
  once : s.granted.Nodup
  /-- What ends without having taken the lock was refused before it asked anything. -/
  refused : ∀ i a, s.work i = .done a → i ∉ s.granted → jobs i = .done a
  replies : ∀ i a, s.work i = .done a → i ∈ s.granted → RepliesAs answer jobs s₀ s.granted i a
  /-- What has ended does not keep the lock. -/
  released : ∀ i a, s.work i = .done a → s.holder ≠ some i
  /-- While nobody has the lock, nothing is half done. -/
  between : s.holder = none → s.state = served answer jobs s.granted s₀
  final : (∀ i, ∃ a, s.work i = .done a) → s.state = served answer jobs s.granted s₀

variable {answer jobs} {s₀ : List String × σ}

theorem served_append (past future : List ι) :
    served answer jobs (past ++ future) s₀ =
      served answer jobs future (served answer jobs past s₀) :=
  List.foldl_append

theorem RepliesAs.append {order : List ι} {i : ι} {a : β i}
    (h : RepliesAs answer jobs s₀ order i a) (more : List ι) :
    RepliesAs answer jobs s₀ (order ++ more) i a := by
  obtain ⟨past, future, rfl, ha⟩ := h
  exact ⟨past, future ++ more, by simp, ha⟩

/-- The task of a request does what the request does, if nobody else is at work. -/
theorem run_thenUnlock {α : Type} (task : Work α) (s : List String × σ) :
    (thenUnlock task).run (answerQuery answer) s = task.run (answerQuery answer) s := by
  rw [thenUnlock, Prog.run_bind]
  rfl

/-- What holds of a session between two turns. The one that has the lock is the last one that took
it, and has some task left to do. Left to itself, it would end as it does at its place in the
order. -/
structure Sequenced (answer : (c : Host.Call) → σ → c.Answer × σ) (jobs : (i : ι) → Work (β i))
    (s₀ : List String × σ) (s : Session β σ) : Prop where
  once : s.granted.Nodup
  outside : ∀ i, i ∉ s.granted → s.work i = jobs i
  ended : ∀ i ∈ s.granted, s.holder ≠ some i →
    ∃ a, s.work i = .done a ∧ RepliesAs answer jobs s₀ s.granted i a
  free : s.holder = none → s.state = served answer jobs s.granted s₀
  held : ∀ i, s.holder = some i → ∃ past task, s.granted = past ++ [i] ∧ Asks Inside task ∧
    s.work i = thenUnlock task ∧
    task.run (answerQuery answer) s.state =
      (jobs i).run (answerQuery answer) (served answer jobs past s₀)

theorem sequenced_start {s : Session β σ} (hwork : s.work = jobs) (hholder : s.holder = none)
    (hgranted : s.granted = []) (hstate : s.state = s₀) : Sequenced answer jobs s₀ s := by
  constructor
  · simp [hgranted]
  · simp [hwork]
  · simp [hgranted]
  · intro _
    rw [hgranted, hstate]
    rfl
  · simp [hholder]

section Steps

variable [DecidableEq ι] {s : Session β σ} {i : ι}

theorem Sequenced.lock (h : Sequenced answer jobs s₀ s) (hi : i ∉ s.granted)
    (hfree : s.holder = none) {task : Work (β i)} (htask : Asks Inside task)
    (hjob : jobs i = .ask .lock fun _ => thenUnlock task) :
    Sequenced answer jobs s₀
      ⟨Function.update s.work i (thenUnlock task), some i, s.granted ++ [i], s.state⟩ := by
  constructor
  · exact List.nodup_append.mpr
      ⟨h.once, by simp, by simpa using fun a ha => ne_of_mem_of_not_mem ha hi⟩
  · intro j hj
    simp only [List.mem_append, List.mem_singleton, not_or] at hj
    exact (Function.update_of_ne hj.2 ..).trans (h.outside j hj.1)
  · intro j hj hother
    have hne : j ≠ i := fun heq => hother (congrArg some heq.symm)
    have hj' : j ∈ s.granted := by simpa [hne] using hj
    obtain ⟨a, hwork, hreplies⟩ := h.ended j hj' (by simp [hfree])
    exact ⟨a, (Function.update_of_ne hne ..).trans hwork, hreplies.append [i]⟩
  · simp
  · intro j hj
    obtain rfl : i = j := Option.some.inj hj
    refine ⟨s.granted, task, rfl, htask, Function.update_self .., ?_⟩
    rw [hjob, ← h.free hfree]
    exact (run_thenUnlock task s.state).symm

theorem Sequenced.unlock (h : Sequenced answer jobs s₀ s) (hheld : s.holder = some i) {a : β i}
    (hwork : s.work i = thenUnlock (.done a)) :
    Sequenced answer jobs s₀ ⟨Function.update s.work i (.done a), none, s.granted, s.state⟩ := by
  obtain ⟨past, task, hgranted, -, hwork', hrun⟩ := h.held i hheld
  -- Nothing is left of the task, so the request ends with what the task ends with.
  have hdone : task.run (answerQuery answer) s.state = (a, s.state) := by
    rw [← run_thenUnlock, ← hwork', hwork]
    rfl
  rw [hdone] at hrun
  constructor
  · exact h.once
  · intro j hj
    have hne : j ≠ i := fun heq => hj (by simp [heq, hgranted])
    exact (Function.update_of_ne hne ..).trans (h.outside j hj)
  · intro j hj _
    by_cases hne : j = i
    · subst hne
      exact ⟨a, Function.update_self .., past, [], hgranted, by rw [← hrun]⟩
    · obtain ⟨b, hb, hreplies⟩ := h.ended j hj fun heq => hne (Option.some.inj (heq ▸ hheld))
      exact ⟨b, (Function.update_of_ne hne ..).trans hb, hreplies⟩
  · intro _
    dsimp only
    rw [hgranted, served_append]
    exact congrArg Prod.snd hrun
  · simp

theorem Sequenced.inside (h : Sequenced answer jobs s₀ s) (hheld : s.holder = some i) {q : Query}
    {next : q.Answer → Work (β i)} (htask : Asks Inside (Prog.ask q next))
    (hwork : s.work i = thenUnlock (.ask q next)) :
    Sequenced answer jobs s₀
      ⟨Function.update s.work i (thenUnlock (next (answerQuery answer q s.state).1)), s.holder,
        s.granted, (answerQuery answer q s.state).2⟩ := by
  obtain ⟨past, task, hgranted, -, hwork', hrun⟩ := h.held i hheld
  have hsame : task.run (answerQuery answer) s.state =
      (next (answerQuery answer q s.state).1).run (answerQuery answer)
        (answerQuery answer q s.state).2 := by
    rw [← run_thenUnlock, ← hwork', hwork, run_thenUnlock]
    rfl
  constructor
  · exact h.once
  · intro j hj
    have hne : j ≠ i := fun heq => hj (by simp [heq, hgranted])
    exact (Function.update_of_ne hne ..).trans (h.outside j hj)
  · intro j hj hother
    have hne : j ≠ i := fun heq => hother (heq ▸ hheld)
    obtain ⟨b, hb, hreplies⟩ := h.ended j hj hother
    exact ⟨b, (Function.update_of_ne hne ..).trans hb, hreplies⟩
  · intro hfree
    cases hheld.symm.trans hfree
  · intro j hj
    obtain rfl : i = j := Option.some.inj (hheld.symm.trans hj)
    exact ⟨past, _, hgranted, htask.2 _, Function.update_self .., hsame ▸ hrun⟩

/-- A turn keeps the order. -/
theorem Sequenced.take (h : Sequenced answer jobs s₀ s) (hjobs : ∀ i, Guarded (jobs i)) (i : ι) :
    Sequenced answer jobs s₀ (s.take answer i) := by
  by_cases hi : i ∈ s.granted
  · by_cases hheld : s.holder = some i
    · obtain ⟨past, task, -, htask, hwork, -⟩ := h.held i hheld
      cases task with
      | done a =>
          rw [Session.take_unlock hwork]
          exact h.unlock hheld hwork
      | ask q next =>
          rw [Session.take_inside hwork htask.1]
          exact h.inside hheld htask hwork
    · obtain ⟨a, hwork, -⟩ := h.ended i hi hheld
      rwa [Session.take_done hwork]
  · have hwork := h.outside i hi
    rcases hjobs i with ⟨a, hjob⟩ | ⟨task, htask, hjob⟩
    · rwa [Session.take_done (hwork.trans hjob)]
    · cases hholder : s.holder with
      | some j => rwa [Session.take_lock_of_held (hwork.trans hjob) hholder]
      | none =>
          rw [Session.take_lock_of_free (hwork.trans hjob) hholder]
          exact h.lock hi hholder htask hjob

theorem Sequenced.after (h : Sequenced answer jobs s₀ s) (hjobs : ∀ i, Guarded (jobs i))
    (turns : List ι) : Sequenced answer jobs s₀ (s.after answer turns) := by
  induction turns generalizing s with
  | nil => exact h
  | cons i turns ih => exact ih (h.take hjobs i)

end Steps

theorem thenUnlock_ne_done {α : Type} (task : Work α) (a : α) : thenUnlock task ≠ .done a := by
  cases task <;> exact fun h => nomatch h

theorem Sequenced.serial {s : Session β σ} (h : Sequenced answer jobs s₀ s) :
    Serial answer jobs s₀ s := by
  have hreleased : ∀ i a, s.work i = .done a → s.holder ≠ some i := by
    intro i a hdone hheld
    obtain ⟨past, task, -, -, hwork, -⟩ := h.held i hheld
    exact thenUnlock_ne_done task a (hwork.symm.trans hdone)
  refine ⟨h.once, ?_, ?_, hreleased, h.free, ?_⟩
  · intro i a hdone hi
    rw [← h.outside i hi]
    exact hdone
  · intro i a hdone hi
    obtain ⟨b, hdone', hreplies⟩ := h.ended i hi (hreleased i a hdone)
    cases hdone.symm.trans hdone'
    exact hreplies
  · intro hall
    apply h.free
    cases hholder : s.holder with
    | none => rfl
    | some i =>
        obtain ⟨a, hdone⟩ := hall i
        exact absurd hholder (hreleased i a hdone)

end Serial

section Sessions

variable {ι σ : Type}

def Session.start (requests : ι → Request) (s : List String × σ) :
    Session (fun i => Except CsiError (requests i).Response) σ :=
  { work := fun i => (requests i).job.run, state := s }

/-- Requests that may change something end as if they had been worked on one after the other,
whatever the host answers, however many they are and whatever turns they take. -/
theorem serial_after_turns [DecidableEq ι] (answer : (c : Host.Call) → σ → c.Answer × σ)
    {requests : ι → Request} (hrequests : ∀ i, (requests i).Mutating) (s : List String × σ)
    (turns : List ι) :
    Serial answer (fun i => (requests i).job.run) s
      ((Session.start requests s).after answer turns) := by
  have hstart : Sequenced answer (fun i => (requests i).job.run) s (Session.start requests s) :=
    sequenced_start rfl rfl rfl rfl
  exact (hstart.after (fun i => Request.guarded (hrequests i)) turns).serial

end Sessions

/-- Requests about one volume, the last of which names no path. -/
def rivals : Fin 4 → Request
  | 0 => stageData.request
  | 1 => publishData.request
  | 2 => unstageData.request
  | 3 => .unpublish { volumeId := "7-data" }

/-- The volume is to be unstaged and published while it is being staged, and it is published after
it was unstaged. -/
def rivalTurns : List (Fin 4) :=
  [0, 2, 0, 1, 0, 2, 0, 1, 0, 0, 0, 0, 2, 1, 2, 2, 2, 1, 2, 2, 2, 2, 1, 1, 1, 1, 1]

theorem rivals_serial :
    (∀ i, (rivals i).Mutating) ∧
      ((Session.start rivals attachedNode).after Memory.answer rivalTurns).granted = [0, 2, 1] ∧
      Serial Memory.answer (fun i => (rivals i).job.run) attachedNode
        ((Session.start rivals attachedNode).after Memory.answer rivalTurns) := by
  have hrivals : ∀ i, (rivals i).Mutating := by
    intro i
    match i with
    | 0 | 1 | 2 | 3 => trivial
  exact ⟨hrivals, by decide +kernel, serial_after_turns _ hrivals _ _⟩

end VolumePlugin.Node
