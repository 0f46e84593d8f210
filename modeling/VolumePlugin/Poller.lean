import VolumePlugin.Error
import VolumePlugin.Timeline

/-! Waiting until the provider has done what it was asked for. A wait probes at a fixed interval,
gives up at a deadline, and ends early when the process shuts down. -/

namespace VolumePlugin

/-- How to wait, in milliseconds. -/
structure Poller where
  /-- The time between the end of a probe and the next probe. -/
  interval : Nat
  /-- The time after whose end no probe starts. -/
  timeout : Nat
  /-- Whether waits take no notice of the shutdown signal. -/
  detached : Bool := false
  /-- How many probes without a result there may be at one moment, where the interval is nothing.
  A wait that needs more of them would not end. -/
  patience : Nat := 0
  deriving DecidableEq, Repr, Inhabited

namespace Poller

/-- What ends a sleep. -/
inductive Wake where
  | elapsed
  | signalled
  | cancelled
  deriving DecidableEq, Repr

/-- What one attempt of a wait leads to. -/
inductive Attempt (α : Type) where
  | finished (result : Except CsiError α)
  | asleep (wake : Nat)

/-- What a wait ends with that the shutdown cancels. -/
def cancellation (action : String) (volume : Nat) : CsiError :=
  .unavailable s!"wait for {action} on volume {volume} cancelled by shutdown"

/-- Whether the signal forbids a probe. -/
def forbids (p : Poller) (signal : Signal) : Bool :=
  !p.detached && signal.value

/-- What the signal says to a sleeper that has seen some of the sends. A send that it has not seen
comes before the end of the signal. -/
def disturbance? (p : Poller) (seen : Nat) (signal : Signal) : Option Wake :=
  if p.detached then none
  else if seen < signal.sends then some (if signal.value then .cancelled else .signalled)
  else if signal.closed then some .cancelled
  else none

/-- Lets time pass until the given moment or until the signal disturbs the sleeper. Events of one
moment happen together, and the sleeper wakes before those of the last moment. -/
def sleepThrough (p : Poller) (seen wake now : Nat) (signal : Signal) :
    List (Nat × SignalEvent) → Wake × Timeline
  | [] =>
    match p.disturbance? seen signal with
    | some w => (w, ⟨now, signal, []⟩)
    | none => (.elapsed, ⟨wake, signal, []⟩)
  | e :: rest =>
    if e.1 ≤ now then p.sleepThrough seen wake now (signal.apply e.2) rest
    else match p.disturbance? seen signal with
      | some w => (w, ⟨now, signal, e :: rest⟩)
      | none =>
        if e.1 < wake then p.sleepThrough seen wake e.1 (signal.apply e.2) rest
        else (.elapsed, ⟨wake, signal, e :: rest⟩)

/-- Sleeps until the given moment or until the signal disturbs the sleeper. Who has not seen the
last send does not fall asleep, and who wants no sleep lets nothing happen. -/
def sleep (p : Poller) (seen wake : Nat) (t : Timeline) : Wake × Timeline :=
  match p.disturbance? seen t.signal with
  | some w => (w, t)
  | none =>
    if wake ≤ t.now then (.elapsed, t) else p.sleepThrough seen wake t.now t.signal t.pending

variable {σ α : Type}

/-- One attempt: a probe that takes some time, unless the signal forbids it, and then the decision
whether there is time for another one. -/
def attempt (p : Poller) (action : String) (volume duration : Nat)
    (probe : Nat → σ → Except CsiError (Option α) × σ) (deadline : Nat) (t : Timeline) (s : σ) :
    Attempt α × Timeline × σ :=
  if p.forbids t.signal then (.finished (.error (cancellation action volume)), t, s)
  else
    let (outcome, s) := probe t.now s
    let t := t.advance duration
    match outcome with
    | .error e => (.finished (.error e), t, s)
    | .ok (some a) => (.finished (.ok a), t, s)
    | .ok none =>
      if deadline < t.now + p.interval then
        (.finished (.error (.timeout action volume)), t, s)
      else (.asleep (t.now + Timeline.sleepLength p.interval), t, s)

/-- How many sleeps of no time follow one another before others get their turn. -/
def turnLength : Nat := 128

/-- At most `fuel` attempts of a wait that has seen some of the sends. The wait goes on for some
more sleeps of no time before what is due happens. -/
def attempts (p : Poller) (action : String) (volume duration : Nat)
    (probe : Nat → σ → Except CsiError (Option α) × σ) (deadline : Nat) :
    Nat → Nat → Nat → Timeline → σ → Except CsiError α × Timeline × σ
  | 0, _, _, t, s => (.error (.timeout action volume), t, s)
  | fuel + 1, turn, seen, t, s =>
    match p.attempt action volume duration probe deadline t s with
    | (.finished result, t, s) => (result, t, s)
    | (.asleep wake, t, s) =>
      let (turn, t) := if t.now < wake then (turnLength, t)
        else if turn = 0 then (turnLength, t.settle)
        else (turn - 1, t)
      match p.sleep seen wake t with
      | (.cancelled, t) => (.error (cancellation action volume), t, s)
      | (.signalled, t) =>
        p.attempts action volume duration probe deadline fuel turn t.signal.sends t s
      | (.elapsed, t) => p.attempts action volume duration probe deadline fuel turn seen t s

/-- Every attempt but the first follows a sleep of a whole interval, an event, or the sends before
the wait began, so there are no more than these. -/
def attemptBound (p : Poller) (t : Timeline) : Nat :=
  p.timeout / max 1 (Timeline.sleepLength p.interval) + t.pending.length + 3 + p.patience

/-- Probes until a probe has a value or fails, the time is over, or the process shuts down. Every
probe takes the given duration, and gets to know the moment it starts at. -/
def wait (p : Poller) (action : String) (volume duration : Nat)
    (probe : Nat → σ → Except CsiError (Option α) × σ) (t : Timeline) (s : σ) :
    Except CsiError α × Timeline × σ :=
  p.attempts action volume duration probe (t.now + p.timeout) (p.attemptBound t) turnLength 0 t s

end Poller

end VolumePlugin
