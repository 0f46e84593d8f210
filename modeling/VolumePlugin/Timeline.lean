/-! The passing of time, and the shutdown signal that changes while it passes. Moments and durations
are in milliseconds. -/

namespace VolumePlugin

/-- The shutdown signal of a process. -/
structure Signal where
  /-- Whether the process is to shut down. -/
  value : Bool := false
  /-- Whether nobody is left who could change the signal. -/
  closed : Bool := false
  /-- How often a value was sent. -/
  sends : Nat := 0
  deriving DecidableEq, Repr, Inhabited

inductive SignalEvent where
  | send (value : Bool)
  | close
  deriving DecidableEq, Repr

/-- The signal after an event; a closed signal stays as it is. -/
def Signal.apply (s : Signal) : SignalEvent → Signal
  | .send value => if s.closed then s else { s with value := value, sends := s.sends + 1 }
  | .close => { s with closed := true }

/-- The present moment, the signal as it is now, and what will happen to it, in order of time. -/
structure Timeline where
  now : Nat := 0
  signal : Signal := {}
  pending : List (Nat × SignalEvent) := []
  deriving DecidableEq, Repr, Inhabited

namespace Timeline

/-- The longest time that anybody sleeps: thirty years of 365 days. -/
def longestSleep : Nat := 30 * 365 * 86400 * 1000

/-- How long somebody sleeps who wants to sleep for the given time. -/
def sleepLength (duration : Nat) : Nat :=
  min duration longestSleep

/-- Applies the events that happen before a limit, with which the given moment is reached. -/
def applyBefore (limit moment : Nat) : Signal → List (Nat × SignalEvent) → Timeline
  | signal, [] => ⟨moment, signal, []⟩
  | signal, e :: rest =>
    if e.1 < limit then applyBefore limit moment (signal.apply e.2) rest
    else ⟨moment, signal, e :: rest⟩

/-- The timeline at a later moment, with everything that is due by then. -/
def advanceTo (t : Timeline) (moment : Nat) : Timeline :=
  applyBefore (max t.now moment + 1) (max t.now moment) t.signal t.pending

/-- The timeline with everything that is due. -/
def settle (t : Timeline) : Timeline :=
  t.advanceTo t.now

/-- The timeline after a sleep. The sleeper wakes before anything else happens at the moment that
the sleep ends at, and a sleep of no time lets nothing happen. -/
def advance (t : Timeline) (duration : Nat) : Timeline :=
  if duration = 0 then t
  else
    let moment := t.now + sleepLength duration
    applyBefore moment moment t.signal t.pending

/-- Puts an event behind those that happen no later. -/
def place (e : Nat × SignalEvent) : List (Nat × SignalEvent) → List (Nat × SignalEvent)
  | [] => [e]
  | p :: ps => if e.1 < p.1 then e :: p :: ps else p :: place e ps

/-- The timeline on which an event will happen after a sleep. -/
def schedule (t : Timeline) (delay : Nat) (e : SignalEvent) : Timeline :=
  { t with pending := place (t.now + sleepLength delay, e) t.pending }

/-- The timeline on which several events will happen. -/
def scheduleAll (t : Timeline) (events : List (Nat × SignalEvent)) : Timeline :=
  events.foldl (fun t e => t.schedule e.1 e.2) t

/-- The timeline on which nothing more will happen. -/
def cancelPending (t : Timeline) : Timeline :=
  { t with pending := [] }

end Timeline

end VolumePlugin
