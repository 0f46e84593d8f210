import VolumePlugin.Proofs.Controller.Interleaving

/-! # What requests can rely on

A request among others cannot know what the others do before its next turn. If every turn from one
state of the provider that meets an invariant to another one does only what may be relied on, it is
enough to look at one request: what it ensures among others that keep to this, it ensures in every
session throughout which the provider meets the invariant. -/

namespace VolumePlugin.Controller

open Cloud (Memory)
open Prog (Asks Delivers Ensures)

/-- What turns do, if only questions of a kind are asked and the provider meets an invariant. -/
structure Discipline (kind : Query → Prop) (inv : Memory → Prop) (rely : Memory → Memory → Prop) :
    Prop where
  refl : ∀ m, rely m m
  trans : ∀ {a b c}, rely a b → rely b c → rely a c
  turn : ∀ {q m} (now : Moment), kind q → inv m → inv (now.reply q m).2 →
    rely m (now.reply q m).2

/-- The answers that a question can have when others have their turns before it is answered. -/
def Amid (inv : Memory → Prop) (rely : Memory → Memory → Prop) (q : Query) (m : Memory)
    (a : q.Answer) (m' : Memory) : Prop :=
  ∃ m₁ now, rely m m₁ ∧ inv m₁ ∧ inv m' ∧ Moment.reply now q m₁ = (some a, m')

namespace Discipline

variable {kind : Query → Prop} {inv : Memory → Prop} {rely : Memory → Memory → Prop}

/-! ## One request -/

section Work

variable {α : Type} {m : Memory}

/-- What is ensured is still ensured after the turns of others, if they cannot undo it. -/
theorem later (h : Discipline kind inv rely) {work : Prog Query.Answer α}
    {post : α → Memory → Prop} (hpost : ∀ a m m', rely m m' → post a m → post a m') {m' : Memory}
    (hm : rely m m') (hwork : Ensures (Amid inv rely) work m post) :
    Ensures (Amid inv rely) work m' post := by
  cases work with
  | done a => exact hpost a m m' hm hwork
  | ask q next =>
      rintro a m'' ⟨m₁, now, hm₁, hinv, hinv', hreply⟩
      exact hwork a m'' ⟨m₁, now, h.trans hm hm₁, hinv, hinv', hreply⟩

variable {β : Type} {ok : β → Memory → Prop} {bad : CsiError → Memory → Prop}

theorem delivers_attempt {c : Cloud.Call} {f : c.Answer → Job β}
    (hf : ∀ m₁, rely m m₁ → inv m₁ → inv (Memory.answer c m₁).2 →
      Delivers (Amid inv rely) (f (Memory.answer c m₁).1) (Memory.answer c m₁).2 ok bad) :
    Delivers (Amid inv rely) (Job.attempt c >>= f) m ok bad := by
  rw [Prog.delivers_bind]
  rintro a m' ⟨m₁, now, hm₁, hinv, hinv', hreply⟩
  obtain ⟨ha, rfl⟩ := Prod.mk.inj hreply
  obtain rfl := Option.some.inj ha
  exact hf m₁ hm₁ hinv hinv'

theorem delivers_wait (h : Discipline kind inv rely) {volume : Nat} {goal : Goal}
    (hkind : kind (.wait volume goal)) :
    Delivers (Amid inv rely) (Job.wait volume goal) m (fun _ m' => rely m m')
      (fun _ m' => rely m m') := by
  rintro a m' ⟨m₁, now, hm₁, hinv, hinv', hreply⟩
  have hturn := h.turn now hkind hinv
  rw [hreply] at hturn
  have hall := h.trans hm₁ (hturn hinv')
  cases a with
  | error e => exact hall
  | ok v => exact hall

end Work

/-! ## Many requests -/

section Sessions

variable {ι : Type} [DecidableEq ι] {β : ι → Type} {s : Session β}

theorem take (h : Discipline kind inv rely) (hasks : ∀ i, Asks kind (s.work i)) {t : Turn ι}
    (hinv : inv s.provider) (hinv' : inv (s.take t).provider) :
    rely s.provider (s.take t).provider := by
  rcases s.take_provider t with heq | ⟨q, next, hwork, heq⟩
  · rw [heq]
    exact h.refl _
  · have hwho := hasks t.who
    rw [hwork] at hwho
    rw [heq] at hinv' ⊢
    exact h.turn t.moment hwho.1 hinv hinv'

theorem after (h : Discipline kind inv rely) (hasks : ∀ i, Asks kind (s.work i))
    {turns : List (Turn ι)} (hinv : s.Throughout inv turns) :
    rely s.provider (s.after turns).provider := by
  induction turns generalizing s with
  | nil => exact h.refl _
  | cons t turns ih =>
      have hasks' : ∀ i, Asks kind ((s.take t).work i) := fun i => Session.after_asks (hasks i) [t]
      exact h.trans (h.take hasks hinv.before hinv.first) (ih hasks' hinv.rest)

theorem ensures_take (h : Discipline kind inv rely) (hasks : ∀ i, Asks kind (s.work i)) {t : Turn ι}
    (hinv : inv s.provider) (hinv' : inv (s.take t).provider) {i : ι} {post : β i → Memory → Prop}
    (hpost : ∀ a m m', rely m m' → post a m → post a m')
    (hwork : Ensures (Amid inv rely) (s.work i) s.provider post) :
    Ensures (Amid inv rely) ((s.take t).work i) (s.take t).provider post := by
  have hrely := h.take hasks hinv hinv'
  by_cases hi : i = t.who
  · subst hi
    have htaken := s.taken t
    generalize s.take t = s' at htaken hinv' hrely ⊢
    cases htaken with
    | idle => exact hwork
    | answered heq hreply =>
        rw [heq] at hwork
        dsimp only
        rw [Function.update_self]
        exact hwork _ _ ⟨s.provider, t.moment, h.refl _, hinv, hinv', hreply⟩
    | pending => exact h.later hpost hrely hwork
  · rw [Session.take_work_of_ne s hi]
    exact h.later hpost hrely hwork

/-- What a request ensures among others that keep to the discipline, it ensures in every session of
such requests. -/
theorem ensures_after (h : Discipline kind inv rely) (hasks : ∀ i, Asks kind (s.work i)) {i : ι}
    {post : β i → Memory → Prop} (hpost : ∀ a m m', rely m m' → post a m → post a m')
    (hwork : Ensures (Amid inv rely) (s.work i) s.provider post) {turns : List (Turn ι)}
    (hinv : s.Throughout inv turns) :
    Ensures (Amid inv rely) ((s.after turns).work i) (s.after turns).provider post := by
  induction turns generalizing s with
  | nil => exact hwork
  | cons t turns ih =>
      have hasks' : ∀ i, Asks kind ((s.take t).work i) := fun i => Session.after_asks (hasks i) [t]
      exact ih hasks' (h.ensures_take hasks hinv.before hinv.first hpost hwork) hinv.rest

end Sessions

end Discipline

end VolumePlugin.Controller
