/-! Programs that ask their surroundings questions. A program is a tree: it is finished with a
result, or it asks one question and goes on with the answer. What the answers are is no part of the
program, so one program can be run, interleaved with others and replayed. -/

namespace VolumePlugin

/-- A program with results of type `α` that asks questions `q` and gets answers of type `A q`. -/
inductive Prog {Q : Type} (A : Q → Type) (α : Type) where
  | done (result : α)
  | ask (question : Q) (next : A question → Prog A α)

namespace Prog

variable {Q R : Type} {A : Q → Type} {B : R → Type} {α β σ : Type}

/-- Goes on with the result of a program. -/
def bind : Prog A α → (α → Prog A β) → Prog A β
  | done a, f => f a
  | ask q next, f => ask q fun answer => (next answer).bind f

instance : Monad (Prog A) where
  pure := done
  bind := bind

/-- The program that asks one question. -/
def question (q : Q) : Prog A (A q) :=
  ask q done

/-- Runs a program in surroundings with a state. -/
def run (answer : (q : Q) → σ → A q × σ) : Prog A α → σ → α × σ
  | done a, s => (a, s)
  | ask q next, s => run answer (next (answer q s).1) (answer q s).2

/-- Puts every question of a program to other surroundings by a program of its own. -/
def through (f : (q : Q) → Prog B (A q)) : Prog A α → Prog B α
  | done a => done a
  | ask q next => (f q).bind fun answer => (next answer).through f

@[simp] theorem pure_eq_done (a : α) : (pure a : Prog A α) = done a := rfl

@[simp] theorem bind_eq (m : Prog A α) (f : α → Prog A β) : m >>= f = m.bind f := rfl

@[simp] theorem done_bind (a : α) (f : α → Prog A β) : (done a).bind f = f a := rfl

@[simp] theorem ask_bind (q : Q) (next : A q → Prog A α) (f : α → Prog A β) :
    (ask q next).bind f = ask q fun answer => (next answer).bind f := rfl

@[simp] theorem bind_done (m : Prog A α) : m.bind done = m := by
  induction m with
  | done a => rfl
  | ask q next ih => simp [ih]

theorem bind_bind {γ : Type} (m : Prog A α) (f : α → Prog A β) (g : β → Prog A γ) :
    (m.bind f).bind g = m.bind fun a => (f a).bind g := by
  induction m with
  | done a => rfl
  | ask q next ih => simp [ih]

@[simp] theorem run_done (answer : (q : Q) → σ → A q × σ) (a : α) (s : σ) :
    (done a).run answer s = (a, s) := rfl

instance : LawfulMonad (Prog A) :=
  LawfulMonad.mk' _ bind_done (fun _ _ => rfl) bind_bind

/-- A program and what follows it run one after the other. -/
theorem run_bind (answer : (q : Q) → σ → A q × σ) (m : Prog A α) (f : α → Prog A β) (s : σ) :
    (m.bind f).run answer s = (f (m.run answer s).1).run answer (m.run answer s).2 := by
  induction m generalizing s with
  | done a => rfl
  | ask q next ih => simp [run, ih]

end Prog

end VolumePlugin
