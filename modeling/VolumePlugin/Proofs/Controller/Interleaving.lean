import Mathlib.Logic.Function.Basic
import VolumePlugin.Proofs.Cloud.Calls
import VolumePlugin.Proofs.Controller.Run

/-! # Requests at the same time

Requests that are worked on at the same time take turns. In a turn a request makes one call to the
provider, or tries once what it waits for. Between two turns of a request the others may have any
number of turns, so whatever it has read may be out of date. -/

namespace VolumePlugin.Controller

open Cloud (Memory)
open Cloud.Memory (Answered Observed)
open Prog (Asks Delivers Ensures)

/-! ## Turns -/

/-- What counts for a request that has its turn while it waits. -/
structure Moment where
  poller : Poller := { interval := 1000, timeout := 60000 }
  timeline : Timeline := {}
  /-- The moment after which no attempt follows. -/
  deadline : Nat := 60000
  /-- What the wait ends with, if it does not come to another attempt. -/
  broken : Option CsiError := none

/-- A turn of one of several requests. -/
structure Turn (ι : Type) where
  who : ι
  moment : Moment := {}

/-- What a question is answered with in one turn, and the provider after it. A wait may have to be
tried again. -/
def Moment.reply (now : Moment) : (q : Query) → Memory → Option q.Answer × Memory
  | .call c, m => (some (Memory.answer c m).1, (Memory.answer c m).2)
  | .wait volume goal, m =>
    match now.broken with
    | some e => (some (.error e), m)
    | none =>
      match now.poller.attempt goal.action volume 0 (probe Memory.answer volume goal) now.deadline
          now.timeline m with
      | (.finished result, _, m) => (some result, m)
      | (.asleep _, _, m) => (none, m)

theorem Moment.reply_wait_observed (now : Moment) {m : Memory} (h : m.Ordered) (volume : Nat)
    (goal : Goal) : Observed m (now.reply (.wait volume goal) m).2 := by
  unfold Moment.reply
  cases now.broken with
  | some e => exact .refl m
  | none =>
      dsimp only
      rcases he : now.poller.attempt goal.action volume 0 (probe Memory.answer volume goal)
        now.deadline now.timeline m with ⟨outcome, t, m'⟩
      have hread := (Poller.attempt_spec (probeSpec h volume goal) (Observed.refl m) he).1
      cases outcome with
      | finished result => exact hread
      | asleep wake => exact hread

/-- A turn does at most what its call does. -/
theorem Moment.reply_answered (now : Moment) {m : Memory} (h : m.Numbered) (q : Query) :
    Answered q.toCall m (now.reply q m).2 := by
  cases q with
  | call c => exact Memory.answered h c
  | wait volume goal => exact .observed h (now.reply_wait_observed h.ordered volume goal)

/-- Work that is under way at the same time, and the provider that it shares. -/
structure Session {ι : Type} (β : ι → Type) where
  work : (i : ι) → Prog Query.Answer (β i)
  provider : Memory

namespace Session

variable {ι : Type}

def start (c : Controller) (requests : ι → Request) (m : Memory) :
    Session fun i => Except CsiError (requests i).Response :=
  ⟨fun i => ((requests i).job c).run, m⟩

variable [DecidableEq ι] {β : ι → Type}

def take (s : Session β) (t : Turn ι) : Session β :=
  match s.work t.who with
  | .done _ => s
  | .ask q next =>
    match t.moment.reply q s.provider with
    | (some a, m) => ⟨Function.update s.work t.who (next a), m⟩
    | (none, m) => ⟨s.work, m⟩

def after (s : Session β) (turns : List (Turn ι)) : Session β :=
  turns.foldl take s

@[simp] theorem after_nil (s : Session β) : s.after [] = s := rfl

@[simp] theorem after_cons (s : Session β) (t : Turn ι) (turns : List (Turn ι)) :
    s.after (t :: turns) = (s.take t).after turns := rfl

@[simp] theorem after_append (s : Session β) (past future : List (Turn ι)) :
    s.after (past ++ future) = (s.after past).after future :=
  List.foldl_append

theorem after_append_cons (s : Session β) (past : List (Turn ι)) (t : Turn ι)
    (future : List (Turn ι)) :
    s.after (past ++ t :: future) = (s.after (past ++ [t])).after future := by
  simp

/-- Everything that a turn can be. -/
inductive Taken (s : Session β) (t : Turn ι) : Session β → Prop where
  | idle {result : β t.who} (hwork : s.work t.who = .done result) : Taken s t s
  | answered {q : Query} {next : q.Answer → Prog Query.Answer (β t.who)} {a : q.Answer}
      {m : Memory} (hwork : s.work t.who = .ask q next)
      (hreply : t.moment.reply q s.provider = (some a, m)) :
      Taken s t ⟨Function.update s.work t.who (next a), m⟩
  | pending {q : Query} {next : q.Answer → Prog Query.Answer (β t.who)} {m : Memory}
      (hwork : s.work t.who = .ask q next)
      (hreply : t.moment.reply q s.provider = (none, m)) : Taken s t ⟨s.work, m⟩

theorem taken (s : Session β) (t : Turn ι) : Taken s t (s.take t) := by
  unfold take
  split
  · next hwork => exact .idle hwork
  · next hwork =>
      split
      · next hreply => exact .answered hwork hreply
      · next hreply => exact .pending hwork hreply

theorem take_answered {s : Session β} {t : Turn ι} {q : Query}
    {next : q.Answer → Prog Query.Answer (β t.who)} {a : q.Answer} {m : Memory}
    (hwork : s.work t.who = .ask q next)
    (hreply : t.moment.reply q s.provider = (some a, m)) :
    s.take t = ⟨Function.update s.work t.who (next a), m⟩ := by
  unfold take
  rw [hwork]
  dsimp only
  rw [hreply]

theorem take_pending {s : Session β} {t : Turn ι} {q : Query}
    {next : q.Answer → Prog Query.Answer (β t.who)} {m : Memory}
    (hwork : s.work t.who = .ask q next)
    (hreply : t.moment.reply q s.provider = (none, m)) : s.take t = ⟨s.work, m⟩ := by
  unfold take
  rw [hwork]
  dsimp only
  rw [hreply]

theorem take_work_of_ne (s : Session β) {t : Turn ι} {i : ι} (h : i ≠ t.who) :
    (s.take t).work i = s.work i := by
  have htaken := s.taken t
  generalize s.take t = s' at htaken ⊢
  cases htaken with
  | idle => rfl
  | answered => exact Function.update_of_ne h _ _
  | pending => rfl

/-- A turn changes the provider by what the request asks for, if it still asks for anything. -/
theorem take_provider (s : Session β) (t : Turn ι) :
    (s.take t).provider = s.provider ∨
      ∃ q next, s.work t.who = .ask q next ∧
        (s.take t).provider = (t.moment.reply q s.provider).2 := by
  have htaken := s.taken t
  generalize s.take t = s' at htaken ⊢
  cases htaken with
  | idle => exact .inl rfl
  | answered hwork hreply => exact .inr ⟨_, _, hwork, by rw [hreply]⟩
  | pending hwork hreply => exact .inr ⟨_, _, hwork, by rw [hreply]⟩

/-- What is left as it is by any call is left as it is by any turn. -/
theorem take_of_answered {s : Session β} (h : s.provider.Numbered) {p : Memory → Prop}
    (hsame : p s.provider) (hcall : ∀ c m, Answered c s.provider m → p m) (t : Turn ι) :
    p (s.take t).provider := by
  rcases s.take_provider t with heq | ⟨q, next, -, heq⟩
  · exact heq ▸ hsame
  · exact heq ▸ hcall _ _ (t.moment.reply_answered h q)

theorem take_numbered {s : Session β} (h : s.provider.Numbered) (t : Turn ι) :
    (s.take t).provider.Numbered :=
  take_of_answered h h (fun _ _ hanswered => hanswered.numbered) t

theorem after_numbered {s : Session β} (h : s.provider.Numbered) (turns : List (Turn ι)) :
    (s.after turns).provider.Numbered := by
  induction turns generalizing s with
  | nil => exact h
  | cons t turns ih => exact ih (take_numbered h t)

theorem after_counter {s : Session β} (h : s.provider.Numbered) (turns : List (Turn ι)) :
    s.provider.nextId ≤ (s.after turns).provider.nextId := by
  induction turns generalizing s with
  | nil => exact Nat.le_refl _
  | cons t turns ih =>
      have hturn : s.provider.nextId ≤ (s.take t).provider.nextId :=
        take_of_answered (p := fun m => s.provider.nextId ≤ m.nextId) h (Nat.le_refl _)
          (fun _ _ hanswered => hanswered.counter) t
      exact Nat.le_trans hturn (ih (take_numbered h t))

theorem after_regards {s : Session β} (h : s.provider.Numbered) (turns : List (Turn ι)) :
    (s.after turns).provider.ignoresLabels = s.provider.ignoresLabels := by
  induction turns generalizing s with
  | nil => rfl
  | cons t turns ih =>
      have hturn : (s.take t).provider.ignoresLabels = s.provider.ignoresLabels :=
        take_of_answered (p := fun m => m.ignoresLabels = s.provider.ignoresLabels) h rfl
          (fun _ _ hanswered => hanswered.regards) t
      exact (ih (take_numbered h t)).trans hturn

/-! ## Whole sessions -/

/-- What holds of the provider before every turn, and after the last one. -/
def Throughout (inv : Memory → Prop) (s : Session β) (turns : List (Turn ι)) : Prop :=
  ∀ past, past <+: turns → inv (s.after past).provider

namespace Throughout

variable {inv : Memory → Prop} {s : Session β} {turns : List (Turn ι)} {t : Turn ι}

theorem before (h : s.Throughout inv turns) : inv s.provider :=
  h [] List.nil_prefix

theorem last (h : s.Throughout inv turns) : inv (s.after turns).provider :=
  h turns List.prefix_rfl

theorem of_prefix (h : s.Throughout inv turns) {past : List (Turn ι)} (hpast : past <+: turns) :
    s.Throughout inv past :=
  fun earlier hearlier => h earlier (hearlier.trans hpast)

theorem first (h : s.Throughout inv (t :: turns)) : inv (s.take t).provider :=
  h [t] (List.cons_prefix_cons.mpr ⟨rfl, List.nil_prefix⟩)

theorem rest (h : s.Throughout inv (t :: turns)) : (s.take t).Throughout inv turns :=
  fun past hpast => h (t :: past) (List.cons_prefix_cons.mpr ⟨rfl, hpast⟩)

theorem drop {past future : List (Turn ι)} (h : s.Throughout inv (past ++ future)) :
    (s.after past).Throughout inv future := by
  intro earlier hearlier
  rw [← after_append]
  exact h _ ((List.prefix_append_right_inj past).mpr hearlier)

theorem drop_cons {past future : List (Turn ι)} (h : s.Throughout inv (past ++ t :: future)) :
    (s.after (past ++ [t])).Throughout inv future :=
  drop (by rwa [List.append_assoc, List.singleton_append])

end Throughout

/-- Counters only go up, so no identifier was given out twice if none has been in the end. -/
theorem throughout_unrepeated {s : Session β} (h : s.provider.Numbered) {turns : List (Turn ι)}
    (hwords : s.provider.nextId < (s.after turns).provider.nextId →
      (s.after turns).provider.nextId ≤ Text.wordBound) :
    s.Throughout (Memory.Unrepeated s.provider.nextId) turns := by
  rintro past ⟨future, rfl⟩
  have hpast := after_numbered h past
  have hfuture := after_counter hpast future
  rw [after_append] at hwords
  exact ⟨hpast, after_counter h past, fun hlt =>
    Nat.le_trans hfuture (hwords (Nat.lt_of_lt_of_le hlt hfuture))⟩

/-- What ceases to hold ceases to hold at some turn. -/
theorem exists_turn {p : Session β → Prop} {s : Session β} {turns : List (Turn ι)} (h : p s)
    (hnot : ¬ p (s.after turns)) :
    ∃ past t future, turns = past ++ t :: future ∧ p (s.after past) ∧
      ¬ p ((s.after past).take t) := by
  induction turns generalizing s with
  | nil => exact absurd h hnot
  | cons t turns ih =>
      by_cases ht : p (s.take t)
      · obtain ⟨past, u, future, rfl, hpast, hu⟩ := ih ht hnot
        exact ⟨t :: past, u, future, rfl, hpast, hu⟩
      · exact ⟨[], t, turns, rfl, h, ht⟩

/-- What holds of the work on a request and outlasts all answers holds for ever. -/
theorem after_work {i : ι} {p : Prog Query.Answer (β i) → Prop}
    (hp : ∀ q next, p (.ask q next) → ∀ a, p (next a)) {s : Session β} (h : p (s.work i))
    (turns : List (Turn ι)) : p ((s.after turns).work i) := by
  induction turns generalizing s with
  | nil => exact h
  | cons t turns ih =>
      apply ih
      by_cases hi : i = t.who
      · subst hi
        have htaken := s.taken t
        generalize s.take t = s' at htaken ⊢
        cases htaken with
        | idle => exact h
        | answered hwork hreply =>
            rw [hwork] at h
            simpa using hp _ _ h _
        | pending => exact h
      · rwa [take_work_of_ne s hi]

theorem after_asks {kind : Query → Prop} {i : ι} {s : Session β} (h : Asks kind (s.work i))
    (turns : List (Turn ι)) : Asks kind ((s.after turns).work i) :=
  after_work (p := Asks kind) (fun _ _ h => h.2) h turns

/-! ## One request alone -/

section Alone

variable {i : ι}

/-- A request that has all the turns waits as a wait does, attempt by attempt. -/
theorem exists_attempts {s : Session β} {volume : Nat} {goal : Goal}
    {next : Except CsiError RemoteVolume → Prog Query.Answer (β i)}
    (hwork : s.work i = .ask (.wait volume goal) next) (p : Poller) (deadline fuel turn seen : Nat)
    (t : Timeline) :
    ∃ turns : List (Turn ι), (∀ u ∈ turns, u.who = i) ∧
      s.after turns =
        let reply := p.attempts goal.action volume 0 (probe Memory.answer volume goal) deadline
          fuel turn seen t s.provider
        ⟨Function.update s.work i (next reply.1), reply.2.2⟩ := by
  induction fuel generalizing s turn seen t with
  | zero =>
      refine ⟨[⟨i, { broken := some (.timeout goal.action volume) }⟩], by simp, ?_⟩
      exact take_answered (t := ⟨i, _⟩) hwork rfl
  | succ fuel ih =>
      rcases he : p.attempt goal.action volume 0 (probe Memory.answer volume goal) deadline t
        s.provider with ⟨outcome, t', m⟩
      simp only [Poller.attempts, he]
      let tried : Moment := { poller := p, timeline := t, deadline := deadline }
      cases outcome with
      | finished result =>
          have hreply : tried.reply (.wait volume goal) s.provider = (some result, m) := by
            simp only [tried, Moment.reply, he]
          exact ⟨[⟨i, tried⟩], by simp, take_answered (t := ⟨i, tried⟩) hwork hreply⟩
      | asleep wake =>
          have hreply : tried.reply (.wait volume goal) s.provider = (none, m) := by
            simp only [tried, Moment.reply, he]
          have htake : s.take ⟨i, tried⟩ = ⟨s.work, m⟩ := take_pending hwork hreply
          dsimp only
          split
          · -- The request does not wake up for another attempt.
            let broken : Moment := { broken := some (Poller.cancellation goal.action volume) }
            refine ⟨[⟨i, tried⟩, ⟨i, broken⟩], by simp, ?_⟩
            rw [after_cons, htake]
            exact take_answered (s := ⟨s.work, m⟩) (t := ⟨i, broken⟩) hwork rfl
          · obtain ⟨turns, hwho, hafter⟩ := ih (s := ⟨s.work, m⟩) hwork _ _ _
            refine ⟨⟨i, tried⟩ :: turns, by simpa using hwho, ?_⟩
            rw [after_cons, htake]
            exact hafter
          · obtain ⟨turns, hwho, hafter⟩ := ih (s := ⟨s.work, m⟩) hwork _ _ _
            refine ⟨⟨i, tried⟩ :: turns, by simpa using hwho, ?_⟩
            rw [after_cons, htake]
            exact hafter

/-- A run without interruptions is one of the ways to take turns. -/
theorem exists_run (p : Poller) {work : Prog Query.Answer (β i)} {s : Session β}
    (hwork : s.work i = work) (t : Timeline) :
    ∃ turns : List (Turn ι), (∀ u ∈ turns, u.who = i) ∧
      s.after turns =
        let reply := work.run (answerQuery p Memory.answer) (t, s.provider)
        ⟨Function.update s.work i (.done reply.1), reply.2.2⟩ := by
  induction work generalizing s t with
  | done result =>
      have hsame : Function.update s.work i (.done result) = s.work := by
        rw [← hwork, Function.update_eq_self]
      exact ⟨[], by simp, by simp only [Prog.run_done, hsame, after_nil]⟩
  | ask q next ih =>
      have hanswer : ∃ turns : List (Turn ι), (∀ u ∈ turns, u.who = i) ∧
          s.after turns =
            let reply := answerQuery p Memory.answer q (t, s.provider)
            ⟨Function.update s.work i (next reply.1), reply.2.2⟩ := by
        cases q with
        | call call => exact ⟨[⟨i, {}⟩], by simp, take_answered (t := ⟨i, {}⟩) hwork rfl⟩
        | wait volume goal => exact exists_attempts hwork p _ _ _ _ t
      obtain ⟨turns, hwho, hafter⟩ := hanswer
      dsimp only at hafter
      have hnext : (s.after turns).work i =
          next (answerQuery p Memory.answer q (t, s.provider)).1 := by
        rw [hafter]
        exact Function.update_self ..
      obtain ⟨rest, hrest, hafter'⟩ :=
        ih _ hnext (answerQuery p Memory.answer q (t, s.provider)).2.1
      refine ⟨turns ++ rest, ?_, ?_⟩
      · intro u hu
        exact (List.mem_append.mp hu).elim (hwho u) (hrest u)
      · rw [after_append, hafter', hafter]
        simp only [Function.update_idem]
        rfl

end Alone

end Session

end VolumePlugin.Controller
