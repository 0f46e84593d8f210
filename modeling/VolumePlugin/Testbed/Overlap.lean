import VolumePlugin.Testbed.World

/-! Two requests that overlap in time. Mounts are held up until the second request has had its
chance, so the second one meets the first one in the middle of its work. -/

namespace VolumePlugin.Testbed

/-- What the work on a request ends with. -/
abbrev Outcome := Except CsiError Message.Packed

/-- What a request is answered with, if it is answered at all. -/
abbrev Answer := Option Outcome

/-- How far the work on a request has come. -/
inductive Thread where
  | unstarted (work : Work Message.Packed)
  | finished (answer : Answer)
  /-- Waits until the other request gives the lock back. -/
  | atLock (next : Host.Work Outcome)
  /-- Waits until mounts are let through. -/
  | parked (m : Host.Mount) (next : Except CsiError Unit → Host.Work Outcome)
  /-- Waits for the provider: when the wait ends, what it has seen of the signal, and when it
  wakes. -/
  | asleep (volume : Nat) (goal : Controller.Goal) (deadline seen wake : Nat)
      (next : Except CsiError RemoteVolume → Prog Controller.Query.Answer Outcome)

def Thread.isFinished : Thread → Bool
  | finished _ => true
  | _ => false

/-- What two requests share. -/
structure Shared where
  world : World
  lockTaken : Bool := false
  /-- Whether mounts are held up. -/
  gateClosed : Bool := true

namespace Shared

/-- Holds up a mount. -/
def park (s : Shared) (w : World) : Shared :=
  { s with world := { w with parkedUnnoticed := true } }

/-- Goes on with work of the node service until it is over or has to wait. -/
def goNode : Host.Work Outcome → Shared → Thread × Shared
  | .done outcome, s => (.finished (some outcome), s)
  | .ask .lock next, s =>
    if s.lockTaken then (.atLock (next ()), s) else goNode (next ()) { s with lockTaken := true }
  | .ask .unlock next, s => goNode (next ()) { s with lockTaken := false }
  | .ask (.newDisks disks) next, s =>
    let fresh := Host.freshDisks s.world.nodeDisks disks
    goNode (next fresh)
      { s with world := { s.world with nodeDisks := s.world.nodeDisks ++ fresh } }
  | .ask (.call (.mount m)) next, s =>
    let (effect, w) := s.world.note "mount" (.host (.mount m))
    match effect.bind fun e => e.hostAnswer? (.mount m) with
    | some answer => goNode (next answer) { s with world := w }
    | none =>
      if s.gateClosed then (.parked m next, s.park w)
      else goNode (next (.ok ())) { s with world := { w with host := w.host.mount m } }
  | .ask (.call (.formatAndMount m)) next, s =>
    let (effect, w) := s.world.note "format_and_mount" (.host (.formatAndMount m))
    match effect.bind fun e => e.hostAnswer? (.formatAndMount m) with
    | some answer => goNode (next answer) { s with world := w }
    | none =>
      let host := { w.host with formatted := w.host.formatted ++ [(m.source, m.fsType)] }
      if s.gateClosed then (.parked m next, s.park { w with host := host })
      else goNode (next (.ok ())) { s with world := { w with host := host.mount m } }
  | .ask (.call c) next, s =>
    let (answer, w) := s.world.askHost c
    goNode (next answer) { s with world := w }

/-- One attempt of a wait for the provider. -/
def attempt (s : Shared) (volume : Nat) (goal : Controller.Goal) (deadline : Nat) :
    Poller.Attempt RemoteVolume × Shared :=
  let (result, t, w) := s.world.poller.attempt goal.action volume 0
    (Controller.probe World.askCloud volume goal) deadline s.world.timeline s.world
  (result, { s with world := { w with timeline := t } })

/-- Goes on with work of the controller service until it is over or has to wait. -/
def goController : Prog Controller.Query.Answer Outcome → Shared → Thread × Shared
  | .done outcome, s => (.finished (some outcome), s)
  | .ask (.call c) next, s =>
    let (answer, w) := s.world.askCloud c
    goController (next answer) { s with world := w }
  | .ask (.wait volume goal) next, s =>
    let deadline := s.world.timeline.now + s.world.poller.timeout
    match s.attempt volume goal deadline with
    | (.finished result, s) => goController (next result) s
    | (.asleep wake, s) => (.asleep volume goal deadline 0 wake next, s)

/-- Tries once more what a wait waits for. -/
def retry (s : Shared) (volume : Nat) (goal : Controller.Goal) (deadline seen : Nat)
    (next : Except CsiError RemoteVolume → Prog Controller.Query.Answer Outcome) :
    Thread × Shared :=
  match s.attempt volume goal deadline with
  | (.finished result, s) => goController (next result) s
  | (.asleep wake, s) => (.asleep volume goal deadline seen wake next, s)

/-- Begins work. -/
def start (s : Shared) : Work Message.Packed → Thread × Shared
  | .done outcome => (.finished (some outcome), s)
  | .signal see => (.finished (some (.ok (see s.world.timeline.signal))), s)
  | .controller job => goController job.run s
  | .node job => goNode job.run s

/-- Goes on with a thread that can go on at this moment. -/
def goOn? (s : Shared) : Thread → Option (Thread × Shared)
  | .unstarted work => some (s.start work)
  | .finished _ => none
  | .atLock next => if s.lockTaken then none else some (goNode next { s with lockTaken := true })
  | .parked m next =>
    if s.gateClosed then none
    else
      let w := s.world
      some (goNode (next (.ok ())) { s with world := { w with host := w.host.mount m } })
  | .asleep volume goal deadline seen wake next =>
    let t := s.world.timeline
    match s.world.poller.disturbance? seen t.signal with
    | some .cancelled =>
      some (goController (next (.error (Poller.cancellation goal.action volume))) s)
    | some _ => some (s.retry volume goal deadline t.signal.sends next)
    | none => if wake ≤ t.now then some (s.retry volume goal deadline seen next) else none

end Shared

/-- A request on which work goes on. -/
structure Runner where
  rpc : Rpc
  /-- When the work began. -/
  start : Nat
  thread : Thread

namespace Runner

def of (rpc : Rpc) (work : Work Message.Packed) (now : Nat) : Runner :=
  ⟨rpc, now, .unstarted work⟩

/-- When the work goes on if nothing happens. -/
def wake? (r : Runner) : Option Nat :=
  match r.thread with
  | .asleep _ _ _ _ wake _ => some wake
  | _ => none

/-- Goes on with the work, if that is possible at this moment. When it is over it is counted and
answered. -/
def goOn? (r : Runner) (s : Shared) : Option (Runner × Shared) := do
  let start := match r.thread with
    | .unstarted _ => s.world.timeline.now
    | _ => r.start
  let (thread, s) ← s.goOn? r.thread
  match thread with
  | .finished (some outcome) =>
    let (answer, world) := s.world.finish r.rpc start outcome
    return ({ r with start := start, thread := .finished answer }, { s with world := world })
  | thread => return ({ r with start := start, thread := thread }, s)

end Runner

/-- Two requests, and what they share. -/
structure Race where
  shared : Shared
  first : Runner
  second : Runner

namespace Race

def now (r : Race) : Nat := r.shared.world.timeline.now

/-- Goes on with the first request that can go on, or else with the second one. -/
def goOn? (secondToo : Bool) (r : Race) : Option Race :=
  match r.first.goOn? r.shared with
  | some (first, shared) => some { r with first := first, shared := shared }
  | none =>
    if secondToo then
      (r.second.goOn? r.shared).map fun (second, shared) =>
        { r with second := second, shared := shared }
    else none

/-- The next moment at which something happens by itself. -/
def nextMoment? (r : Race) : Option Nat :=
  (r.first.wake?.toList ++ r.second.wake?.toList ++
    r.shared.world.timeline.pending.map (·.1)).min?

/-- Lets time pass up to a moment. -/
def advanceTo (moment : Nat) (r : Race) : Race :=
  let w := r.shared.world
  { r with shared := { r.shared with
      world := { w with timeline := w.timeline.advanceTo moment } } }

/-- Lets requests work, at most `fuel` times, until something holds or a moment is reached. -/
def drift (secondToo : Bool) (isOver : Race → Bool) (limit : Option Nat) : Nat → Race → Race
  | 0, r => r
  | fuel + 1, r =>
    if isOver r then r
    else match r.goOn? secondToo with
      | some r => r.drift secondToo isOver limit fuel
      | none =>
        match r.nextMoment?, limit with
        | some moment, none => (r.advanceTo moment).drift secondToo isOver limit fuel
        | some moment, some last =>
          if moment < last then (r.advanceTo moment).drift secondToo isOver limit fuel
          else r.advanceTo last
        | none, some last => r.advanceTo last
        | none, none => r

/-- A number of turns that suffices for both requests. Each of them waits a few times at most. -/
def patience (r : Race) : Nat :=
  let w := r.shared.world
  64 + 16 * (w.poller.attemptBound w.timeline + w.patience + 10)

/-- Whether a mount is parked that nobody has noticed. -/
def hasParked (r : Race) : Bool :=
  r.shared.world.parkedUnnoticed

def notice (r : Race) : Race :=
  { r with shared := { r.shared with
      world := { r.shared.world with parkedUnnoticed := false } } }

def isOver (r : Race) : Bool :=
  r.first.thread.isFinished && r.second.thread.isFinished

/-- How long the first request is given until it parks, in milliseconds. -/
def parkingTime : Nat := 10000

/-- How long the second request is given while mounts are held up, in milliseconds. -/
def meetingTime : Nat := 100

/-- Lets the first request work until a mount is parked, which may be one of an earlier request. -/
def untilParked (r : Race) : Bool × Race :=
  let r := if r.hasParked then r
    else r.drift false hasParked (some (r.now + parkingTime)) r.patience
  (r.hasParked, r.notice)

/-- Lets both requests work for a while. -/
def meet (r : Race) : Race :=
  r.drift true (fun _ => false) (some (r.now + meetingTime)) r.patience

/-- Lets mounts through and both requests finish. -/
def release (r : Race) : Race :=
  let r := { r with shared := { r.shared with gateClosed := false } }
  r.drift true isOver none r.patience

end Race

/-- What is said about two requests that overlapped. -/
structure OverlapReport where
  firstParked : Bool
  /-- Whether the second request was answered while mounts were held up. -/
  secondFinishedEarly : Bool
  first : Thread
  second : Thread

/-- Has two requests overlap. What is due at the beginning happens before them. -/
def World.overlap (w : World) (first second : Rpc × Work Message.Packed) :
    OverlapReport × World :=
  let w := { w with timeline := w.timeline.settle }
  let now := w.timeline.now
  let race : Race :=
    { shared := { world := w }, first := .of first.1 first.2 now
      second := .of second.1 second.2 now }
  let (firstParked, race) := race.untilParked
  let race := race.meet
  let early := race.second.thread.isFinished
  let race := race.release
  (⟨firstParked, early, race.first.thread, race.second.thread⟩, race.shared.world)

end VolumePlugin.Testbed
