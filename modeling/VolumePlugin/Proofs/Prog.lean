import VolumePlugin.Prog

/-! What programs ensure in surroundings of which only the possible answers are known. A condition
on the end of a program becomes a condition on its start, one question after the other. -/

namespace VolumePlugin.Prog

variable {Q : Type} {A : Q → Type} {α β ε σ τ : Type}

/-! ## Conditions on results and states -/

section Conditions

variable (answers : (q : Q) → σ → A q → σ → Prop)

/-- However the questions of a program are answered, the condition holds of its result and of the
state after it. -/
def Ensures : Prog A α → σ → (α → σ → Prop) → Prop
  | done a, s, post => post a s
  | ask q next, s, post => ∀ a s', answers q s a s' → Ensures (next a) s' post

/-- One condition on what succeeds, and another one on what fails. -/
def Either (ok : α → σ → Prop) (bad : ε → σ → Prop) : Except ε α → σ → Prop
  | .ok a => ok a
  | .error e => bad e

/-- However the questions of a program are answered, one condition holds when it succeeds and the
other one when it fails. -/
def Delivers (job : ExceptT ε (Prog A) α) (s : σ) (ok : α → σ → Prop) (bad : ε → σ → Prop) :
    Prop :=
  Ensures answers job.run s (Either ok bad)

variable {answers}

@[simp] theorem either_ok (ok : α → σ → Prop) (bad : ε → σ → Prop) (a : α) (s : σ) :
    Either ok bad (.ok a) s ↔ ok a s := Iff.rfl

@[simp] theorem either_error (ok : α → σ → Prop) (bad : ε → σ → Prop) (e : ε) (s : σ) :
    Either ok bad (.error e) s ↔ bad e s := Iff.rfl

theorem Either.imp {ok : α → σ → Prop} {bad : ε → σ → Prop} {ok' : α → τ → Prop}
    {bad' : ε → τ → Prop} {result : Except ε α} {s : σ} {t : τ} (h : Either ok bad result s)
    (hok : ∀ a, ok a s → ok' a t) (hbad : ∀ e, bad e s → bad' e t) : Either ok' bad' result t := by
  cases result with
  | ok a => exact hok a h
  | error e => exact hbad e h

theorem Either.elim {ok : α → σ → Prop} {bad : ε → σ → Prop} {result : Except ε α} {s : σ}
    {p : Prop} (h : Either ok bad result s) (hok : ∀ a, ok a s → p) (hbad : ∀ e, bad e s → p) :
    p := by
  cases result with
  | ok a => exact hok a h
  | error e => exact hbad e h

@[simp] theorem ensures_done (a : α) (s : σ) (post : α → σ → Prop) :
    Ensures answers (done a : Prog A α) s post ↔ post a s := Iff.rfl

theorem ensures_bind (p : Prog A α) (f : α → Prog A β) (s : σ) (post : β → σ → Prop) :
    Ensures answers (p.bind f) s post ↔
      Ensures answers p s fun a s' => Ensures answers (f a) s' post := by
  induction p generalizing s with
  | done a => rfl
  | ask q next ih =>
      simp only [ask_bind, Ensures]
      exact forall_congr' fun a => forall_congr' fun s' => imp_congr_right fun _ => ih a s'

theorem Ensures.mono {p : Prog A α} {s : σ} {post post' : α → σ → Prop}
    (h : Ensures answers p s post) (hpost : ∀ a s', post a s' → post' a s') :
    Ensures answers p s post' := by
  induction p generalizing s with
  | done a => exact hpost a s h
  | ask q next ih =>
      intro a s' ha
      exact ih a (h a s' ha)

theorem Ensures.and {p : Prog A α} {s : σ} {post post' : α → σ → Prop}
    (h : Ensures answers p s post) (h' : Ensures answers p s post') :
    Ensures answers p s fun a s' => post a s' ∧ post' a s' := by
  induction p generalizing s with
  | done a => exact ⟨h, h'⟩
  | ask q next ih =>
      intro a s' ha
      exact ih a (h a s' ha) (h' a s' ha)

theorem Delivers.mono {job : ExceptT ε (Prog A) α} {s : σ} {ok ok' : α → σ → Prop}
    {bad bad' : ε → σ → Prop} (h : Delivers answers job s ok bad)
    (hok : ∀ a s', ok a s' → ok' a s') (hbad : ∀ e s', bad e s' → bad' e s') :
    Delivers answers job s ok' bad' :=
  Ensures.mono h fun _ s' hr => hr.imp (fun a => hok a s') (fun e => hbad e s')

theorem Delivers.and {job : ExceptT ε (Prog A) α} {s : σ} {ok ok' : α → σ → Prop}
    {bad bad' : ε → σ → Prop} (h : Delivers answers job s ok bad)
    (h' : Delivers answers job s ok' bad') :
    Delivers answers job s (fun a s' => ok a s' ∧ ok' a s') (fun e s' => bad e s' ∧ bad' e s') := by
  refine Ensures.mono (Ensures.and h h') fun result s' hboth => ?_
  cases result <;> exact hboth

@[simp] theorem delivers_pure (a : α) (s : σ) (ok : α → σ → Prop) (bad : ε → σ → Prop) :
    Delivers answers (pure a : ExceptT ε (Prog A) α) s ok bad ↔ ok a s := Iff.rfl

@[simp] theorem delivers_throw (e : ε) (s : σ) (ok : α → σ → Prop) (bad : ε → σ → Prop) :
    Delivers answers (throw e : ExceptT ε (Prog A) α) s ok bad ↔ bad e s := Iff.rfl

/-- A sequence fails where its first part fails. -/
theorem delivers_bind (job : ExceptT ε (Prog A) α) (f : α → ExceptT ε (Prog A) β) (s : σ)
    (ok : β → σ → Prop) (bad : ε → σ → Prop) :
    Delivers answers (job >>= f) s ok bad ↔
      Delivers answers job s (fun a s' => Delivers answers (f a) s' ok bad) bad := by
  unfold Delivers
  rw [ExceptT.run_bind, bind_eq, ensures_bind]
  constructor <;> intro h <;> apply h.mono <;> intro result s' hr <;> cases result <;> exact hr

/-- Work that does not fail meets every condition on failures. -/
theorem Delivers.sure {job : ExceptT ε (Prog A) α} {s : σ} {ok ok' : α → σ → Prop}
    {bad : ε → σ → Prop} (h : Delivers answers job s ok fun _ _ => False)
    (hok : ∀ a s', ok a s' → ok' a s') : Delivers answers job s ok' bad :=
  h.mono hok fun _ _ hfalse => hfalse.elim

/-- After work that does not fail, what is left to be looked at is the rest. -/
theorem Delivers.followed {job : ExceptT ε (Prog A) α} {f : α → ExceptT ε (Prog A) β} {s : σ}
    {ok : α → σ → Prop} {ok' : β → σ → Prop} {bad : ε → σ → Prop}
    (h : Delivers answers job s ok fun _ _ => False)
    (hf : ∀ a s', ok a s' → Delivers answers (f a) s' ok' bad) :
    Delivers answers (job >>= f) s ok' bad :=
  (delivers_bind ..).mpr (h.sure hf)

/-- Where any failure will do, work goes on from what its first part delivers. -/
theorem Delivers.seq {job : ExceptT ε (Prog A) α} {f : α → ExceptT ε (Prog A) β} {s : σ}
    {ok : α → σ → Prop} {ok' : β → σ → Prop} (h : Delivers answers job s ok fun _ _ => True)
    (hf : ∀ a s', ok a s' → Delivers answers (f a) s' ok' fun _ _ => True) :
    Delivers answers (job >>= f) s ok' fun _ _ => True :=
  (delivers_bind ..).mpr (h.mono hf fun _ _ _ => trivial)

/-- Work that cannot fail, among work that may. -/
theorem delivers_lift (p : Prog A α) (s : σ) (ok : α → σ → Prop) (bad : ε → σ → Prop) :
    Delivers answers (liftM p : ExceptT ε (Prog A) α) s ok bad ↔ Ensures answers p s ok := by
  unfold Delivers
  rw [ExceptT.run_liftM, map_eq_pure_bind, bind_eq, ensures_bind]
  rfl

/-- A run meets every condition that the program ensures, if only a part of the state counts. -/
theorem Ensures.run {answer : (q : Q) → τ → A q × τ} {view : τ → σ}
    (sound : ∀ q t, answers q (view t) (answer q t).1 (view (answer q t).2))
    {p : Prog A α} {t : τ} {post : α → σ → Prop} (h : Ensures answers p (view t) post) :
    post (p.run answer t).1 (view (p.run answer t).2) := by
  induction p generalizing t with
  | done a => exact h
  | ask q next ih => exact ih _ (h _ _ (sound q t))

end Conditions

/-- What no answer changes is the same after a run. -/
theorem run_keeps {answer : (q : Q) → σ → A q × σ} (view : σ → τ)
    (h : ∀ q s, view (answer q s).2 = view s) (p : Prog A α) (s : σ) :
    view (p.run answer s).2 = view s := by
  induction p generalizing s with
  | done a => rfl
  | ask q next ih => exact (ih _ _).trans (h q s)

/-! ## The questions of a program -/

/-- Whether a program asks only questions of a kind, whatever the answers are. -/
def Asks (kind : Q → Prop) : Prog A α → Prop
  | done _ => True
  | ask q next => kind q ∧ ∀ a, Asks kind (next a)

section Asking

variable {kind : Q → Prop}

theorem Asks.mono {kind' : Q → Prop} {p : Prog A α} (hp : Asks kind p)
    (hkind : ∀ q, kind q → kind' q) : Asks kind' p := by
  induction p with
  | done a => trivial
  | ask q next ih => exact ⟨hkind q hp.1, fun a => ih a (hp.2 a)⟩

theorem Asks.bind {p : Prog A α} {f : α → Prog A β} (hp : Asks kind p)
    (hf : ∀ a, Asks kind (f a)) : Asks kind (p >>= f) := by
  rw [bind_eq]
  induction p with
  | done a => exact hf a
  | ask q next ih => exact ⟨hp.1, fun a => ih a (hp.2 a)⟩

/-- A sequence that may fail asks what its parts ask. -/
theorem Asks.bind_run {job : ExceptT ε (Prog A) α} {f : α → ExceptT ε (Prog A) β}
    (hjob : Asks kind job.run) (hf : ∀ a, Asks kind (f a).run) : Asks kind (job >>= f).run := by
  rw [ExceptT.run_bind]
  apply hjob.bind
  intro result
  cases result with
  | ok a => exact hf a
  | error e => trivial

/-- What every question of a kind keeps holds after a program that asks only such questions. -/
theorem Asks.keeps {answers : (q : Q) → σ → A q → σ → Prop} (inv : σ → Prop)
    (hkind : ∀ q s a s', kind q → answers q s a s' → inv s → inv s') {p : Prog A α}
    (hp : Asks kind p) {s : σ} (hs : inv s) : Ensures answers p s fun _ s' => inv s' := by
  induction p generalizing s with
  | done a => exact hs
  | ask q next ih =>
      intro a s' ha
      exact ih a (hp.2 a) (hkind q s a s' hp.1 ha hs)

/-- What no question of a kind changes is the same after a program that asks only such questions. -/
theorem Asks.ensures {answers : (q : Q) → σ → A q → σ → Prop} {view : σ → τ}
    (hkind : ∀ q s a s', kind q → answers q s a s' → view s' = view s) {p : Prog A α}
    (hp : Asks kind p) (s : σ) : Ensures answers p s fun _ s' => view s' = view s :=
  hp.keeps (fun s' => view s' = view s)
    (fun q s a s' hq ha h => (hkind q s a s' hq ha).trans h) rfl

/-- What no question of a kind changes is the same after a run that asks only such questions. -/
theorem Asks.run_keeps {answer : (q : Q) → σ → A q × σ} {view : σ → τ}
    (hkind : ∀ q s, kind q → view (answer q s).2 = view s) {p : Prog A α} (hp : Asks kind p)
    (s : σ) : view (p.run answer s).2 = view s := by
  induction p generalizing s with
  | done a => rfl
  | ask q next ih => exact (ih _ (hp.2 _) _).trans (hkind q s hp.1)

theorem asks_any (p : Prog A α) : Asks (fun _ => True) p := by
  induction p with
  | done a => trivial
  | ask q next ih => exact ⟨trivial, ih⟩

end Asking

/-- The result of a program that has no more questions. -/
def result? : Prog A α → Option α
  | done a => some a
  | ask .. => none

theorem result?_eq_some_iff {p : Prog A α} {a : α} : p.result? = some a ↔ p = done a := by
  cases p <;> simp [result?]

/-- The questions that a run asks, in order. -/
def asked (answer : (q : Q) → σ → A q × σ) : Prog A α → σ → List Q
  | done _, _ => []
  | ask q next, s => q :: asked answer (next (answer q s).1) (answer q s).2

theorem asked_bind (answer : (q : Q) → σ → A q × σ) (p : Prog A α) (f : α → Prog A β) (s : σ) :
    (p.bind f).asked answer s =
      p.asked answer s ++ (f (p.run answer s).1).asked answer (p.run answer s).2 := by
  induction p generalizing s with
  | done a => rfl
  | ask q next ih => simp [asked, Prog.run, ih]

theorem Asks.of_mem_asked {kind : Q → Prop} {answer : (q : Q) → σ → A q × σ} {p : Prog A α}
    (hp : Asks kind p) {s : σ} {q : Q} (hq : q ∈ p.asked answer s) : kind q := by
  induction p generalizing s with
  | done a => simp [asked] at hq
  | ask q' next ih =>
      rcases List.mem_cons.mp hq with rfl | hq
      · exact hp.1
      · exact ih _ (hp.2 _) hq

/-- Answers to questions that are recorded as they are asked. -/
def Recorded (answers : (q : Q) → σ → A q → σ → Prop) (q : Q) (s : List Q × σ) (a : A q)
    (s' : List Q × σ) : Prop :=
  s'.1 = s.1 ++ [q] ∧ answers q s.2 a s'.2

section Recording

variable {answers : (q : Q) → σ → A q → σ → Prop}

/-- A program that asks one question leaves it on record. -/
theorem ensures_recorded_one (q : Q) (f : A q → α) (record : List Q) (s : σ)
    (post : α → List Q × σ → Prop) :
    Ensures (Recorded answers) (ask q fun a => done (f a)) (record, s) post ↔
      Ensures answers (ask q fun a => done (f a)) s fun a s' => post a (record ++ [q], s') := by
  constructor
  · intro h a s' ha
    exact h a (record ++ [q], s') ⟨rfl, ha⟩
  · rintro h a ⟨record', s'⟩ ⟨rfl, ha⟩
    exact h a s' ha

theorem delivers_recorded_one (q : Q) (f : A q → Except ε α) (record : List Q) (s : σ)
    (ok : α → List Q × σ → Prop) (bad : ε → List Q × σ → Prop) :
    Delivers (Recorded answers) (ExceptT.mk (ask q fun a => done (f a))) (record, s) ok bad ↔
      Delivers answers (ExceptT.mk (ask q fun a => done (f a))) s
        (fun a s' => ok a (record ++ [q], s')) (fun e s' => bad e (record ++ [q], s')) := by
  refine (ensures_recorded_one q f record s _).trans ?_
  unfold Delivers
  constructor <;> intro h <;> apply h.mono <;> intro result s' hr <;> cases result <;> exact hr

/-- The record of a run is what the run asks. -/
theorem Ensures.run_asked {answer : (q : Q) → τ → A q × τ} {view : τ → σ}
    (sound : ∀ q t, answers q (view t) (answer q t).1 (view (answer q t).2))
    {p : Prog A α} {record : List Q} {t : τ} {post : α → List Q × σ → Prop}
    (h : Ensures (Recorded answers) p (record, view t) post) :
    post (p.run answer t).1 (record ++ p.asked answer t, view (p.run answer t).2) := by
  induction p generalizing record t with
  | done a => simpa [asked] using h
  | ask q next ih =>
      have hnext := h (answer q t).1 (record ++ [q], view (answer q t).2) ⟨rfl, sound q t⟩
      simpa [asked, Prog.run] using ih (answer q t).1 hnext

end Recording

end Prog

end VolumePlugin
