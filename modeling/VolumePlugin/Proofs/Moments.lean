import VolumePlugin.Proofs.Prog

/-! # The moments of a run

A run passes through one state for each question that it asks. What holds of all of these states, or
of one of them, is built up from the parts of a program. -/

namespace VolumePlugin.Prog

variable {Q : Type} {A : Q → Type} {α β ε σ τ : Type}

/-- The questions that a run asks, in order, each with the state in which it is asked. -/
def moments (answer : (q : Q) → σ → A q × σ) : Prog A α → σ → List (Q × σ)
  | done _, _ => []
  | ask q next, s => (q, s) :: moments answer (next (answer q s).1) (answer q s).2

section Conditions

variable (answers : (q : Q) → σ → A q → σ → Prop) (holds : Q → σ → Prop)

/-- However the questions of a program are answered, the condition holds of each of them in the
state in which it is asked. -/
def Throughout : Prog A α → σ → Prop
  | done _, _ => True
  | ask q next, s => holds q s ∧ ∀ a s', answers q s a s' → Throughout (next a) s'

/-- However the questions of a program are answered, the condition holds of one of them in the state
in which it is asked. -/
def Sometime : Prog A α → σ → Prop
  | done _, _ => False
  | ask q next, s => holds q s ∨ ∀ a s', answers q s a s' → Sometime (next a) s'

variable {answers holds}

theorem ensures_of_forall {post : α → σ → Prop} (h : ∀ a s, post a s) (p : Prog A α) (s : σ) :
    Ensures answers p s post := by
  induction p generalizing s with
  | done a => exact h a s
  | ask q next ih => exact fun a s' _ => ih a s'

/-! ## Conditions on all moments -/

theorem throughout_bind (p : Prog A α) (f : α → Prog A β) (s : σ) :
    Throughout answers holds (p.bind f) s ↔ Throughout answers holds p s ∧
      Ensures answers p s fun a s' => Throughout answers holds (f a) s' := by
  induction p generalizing s with
  | done a => simp [Throughout]
  | ask q next ih =>
      simp only [ask_bind, Throughout, Ensures, ih]
      grind

/-- Of a sequence that may fail, the second part counts where the first one succeeds. -/
theorem throughout_bind_run (job : ExceptT ε (Prog A) α) (f : α → ExceptT ε (Prog A) β) (s : σ) :
    Throughout answers holds (job >>= f).run s ↔ Throughout answers holds job.run s ∧
      Delivers answers job s (fun a s' => Throughout answers holds (f a).run s')
        (fun _ _ => True) := by
  rw [ExceptT.run_bind, bind_eq, throughout_bind]
  refine and_congr_right fun _ => ?_
  unfold Delivers
  constructor <;> intro h <;> apply h.mono <;> intro result s' hr <;> cases result <;> exact hr

theorem Asks.and {kind kind' : Q → Prop} {p : Prog A α} (hp : Asks kind p) (hp' : Asks kind' p) :
    Asks (fun q => kind q ∧ kind' q) p := by
  induction p with
  | done a => trivial
  | ask q next ih => exact ⟨⟨hp.1, hp'.1⟩, fun a => ih a (hp.2 a) (hp'.2 a)⟩

/-- A condition holds of all questions of a kind that keep what it depends on. -/
theorem Asks.throughout {kind : Q → Prop} (inv : σ → Prop)
    (hkeeps : ∀ q s a s', kind q → answers q s a s' → inv s → inv s')
    (hholds : ∀ q s, kind q → inv s → holds q s) {p : Prog A α} (hp : Asks kind p) {s : σ}
    (hs : inv s) : Throughout answers holds p s := by
  induction p generalizing s with
  | done a => trivial
  | ask q next ih =>
      refine ⟨hholds q s hp.1 hs, fun a s' ha => ?_⟩
      exact ih a (hp.2 a) (hkeeps q s a s' hp.1 ha hs)

/-- What holds throughout a program holds of all moments of a run. -/
theorem Throughout.run {answer : (q : Q) → τ → A q × τ} {view : τ → σ}
    (sound : ∀ q t, answers q (view t) (answer q t).1 (view (answer q t).2))
    {p : Prog A α} {t : τ} (h : Throughout answers holds p (view t)) :
    ∀ moment ∈ p.moments answer t, holds moment.1 (view moment.2) := by
  induction p generalizing t with
  | done a => exact fun _ hmem => absurd hmem List.not_mem_nil
  | ask q next ih =>
      intro moment hmem
      rcases List.mem_cons.mp hmem with rfl | hrest
      · exact h.1
      · exact ih _ (h.2 _ _ (sound q t)) moment hrest

/-! ## Conditions on one moment -/

theorem Sometime.mono {holds' : Q → σ → Prop} {p : Prog A α} {s : σ}
    (h : Sometime answers holds p s) (hholds : ∀ q s, holds q s → holds' q s) :
    Sometime answers holds' p s := by
  induction p generalizing s with
  | done a => exact h.elim
  | ask q next ih => exact h.imp (hholds q s) fun hrest a s' ha => ih a (hrest a s' ha)

theorem Sometime.bind {p : Prog A α} {f : α → Prog A β} {s : σ}
    (h : Ensures answers p s fun a s' => Sometime answers holds (f a) s') :
    Sometime answers holds (p.bind f) s := by
  induction p generalizing s with
  | done a => exact h
  | ask q next ih => exact .inr fun a s' ha => ih a (h a s' ha)

theorem Sometime.bind_run {job : ExceptT ε (Prog A) α} {f : α → ExceptT ε (Prog A) β} {s : σ}
    (h : Delivers answers job s (fun a s' => Sometime answers holds (f a).run s')
      (fun _ _ => False)) :
    Sometime answers holds (job >>= f).run s := by
  rw [ExceptT.run_bind, bind_eq]
  refine .bind (Ensures.mono h fun result s' hr => ?_)
  cases result with
  | ok a => exact hr
  | error e => exact False.elim hr

/-- What comes about in the first part of a sequence comes about in the sequence. -/
theorem Sometime.first {p : Prog A α} {f : α → Prog A β} {s : σ}
    (h : Sometime answers holds p s) : Sometime answers holds (p.bind f) s := by
  induction p generalizing s with
  | done a => exact h.elim
  | ask q next ih => exact h.imp_right fun hrest a s' ha => ih a (hrest a s' ha)

theorem Sometime.first_run {job : ExceptT ε (Prog A) α} {f : α → ExceptT ε (Prog A) β} {s : σ}
    (h : Sometime answers holds job.run s) : Sometime answers holds (job >>= f).run s := by
  rw [ExceptT.run_bind, bind_eq]
  exact h.first

theorem Sometime.lift {p : Prog A α} {s : σ} (h : Sometime answers holds p s) :
    Sometime answers holds (liftM p : ExceptT ε (Prog A) α).run s := by
  rw [ExceptT.run_liftM, map_eq_pure_bind, bind_eq]
  exact h.first

/-- What comes about in a program comes about at a moment of every run. -/
theorem Sometime.run {answer : (q : Q) → τ → A q × τ} {view : τ → σ}
    (sound : ∀ q t, answers q (view t) (answer q t).1 (view (answer q t).2))
    {p : Prog A α} {t : τ} (h : Sometime answers holds p (view t)) :
    ∃ moment ∈ p.moments answer t, holds moment.1 (view moment.2) := by
  induction p generalizing t with
  | done a => exact h.elim
  | ask q next ih =>
      rcases h with hfirst | hrest
      · exact ⟨(q, t), List.mem_cons_self, hfirst⟩
      · obtain ⟨moment, hmem, hholds⟩ := ih _ (hrest _ _ (sound q t))
        exact ⟨moment, List.mem_cons_of_mem _ hmem, hholds⟩

end Conditions

/-! ## Questions with their answers -/

/-- The questions that a run asks, in order, each with its answer. -/
def transcript (answer : (q : Q) → σ → A q × σ) : Prog A α → σ → List (Σ q, A q)
  | done _, _ => []
  | ask q next, s => ⟨q, (answer q s).1⟩ :: transcript answer (next (answer q s).1) (answer q s).2

/-- Any answer at all, which is taken down. -/
def TakenDown (q : Q) (record : List (Σ q, A q)) (a : A q) (record' : List (Σ q, A q)) : Prop :=
  record' = record ++ [⟨q, a⟩]

section Records

variable {record : List (Σ q, A q)}

theorem ensures_takenDown (q : Q) (next : A q → Prog A α) (post : α → List (Σ q, A q) → Prop) :
    Ensures TakenDown (ask q next) record post ↔
      ∀ a, Ensures TakenDown (next a) (record ++ [⟨q, a⟩]) post := by
  constructor
  · exact fun h a => h a _ rfl
  · rintro h a record' rfl
    exact h a

/-- The record of a run is its transcript. -/
theorem Ensures.run_transcript {p : Prog A α} {post : α → List (Σ q, A q) → Prop}
    (h : Ensures TakenDown p record post) (answer : (q : Q) → σ → A q × σ) (s : σ) :
    post (p.run answer s).1 (record ++ p.transcript answer s) := by
  induction p generalizing record s with
  | done a => simpa [transcript] using h
  | ask q next ih =>
      have hnext := (ensures_takenDown ..).mp h (answer q s).1
      simpa [transcript, Prog.run] using ih (answer q s).1 hnext (answer q s).2

end Records

end VolumePlugin.Prog
