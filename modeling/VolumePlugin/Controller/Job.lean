import VolumePlugin.Cloud.Lookup
import VolumePlugin.Poller

/-! What the controller service asks for while it works on a request: calls to the provider, and
waits until the provider is done with a volume. -/

namespace VolumePlugin.Controller

/-- What a wait for a volume waits for. -/
inductive Goal where
  | status (wanted : VolumeStatus)
  /-- The volume is attached to the given instance, or to none. -/
  | attachment (wanted : Option Nat)
  deriving DecidableEq, Repr

namespace Goal

/-- What the messages about a wait call it. -/
def action : Goal → String
  | status wanted => s!"status {wanted.title}"
  | attachment (some target) => s!"attachment to instance {target}"
  | attachment none => "detachment"

def isMet (v : RemoteVolume) : Goal → Bool
  | status wanted => v.status = wanted
  | attachment wanted => v.attachment = wanted

end Goal

/-- What the service asks for. -/
inductive Query where
  | call (c : Cloud.Call)
  | wait (volume : Nat) (goal : Goal)
  deriving DecidableEq, Repr

abbrev Query.Answer : Query → Type
  | call c => c.Answer
  | wait .. => Except CsiError RemoteVolume

/-- Work of the service that may fail. -/
abbrev Job := ExceptT CsiError (Prog Query.Answer)

namespace Job

variable {α : Type}

/-- Work that is already done. -/
def ofExcept (result : Except CsiError α) : Job α :=
  ExceptT.mk (.done result)

/-- Makes a call and goes on with its outcome. -/
def attempt (c : Cloud.Call) : Job c.Answer :=
  ExceptT.mk ((Prog.question (A := Query.Answer) (.call c)).bind fun answer => .done (.ok answer))

def call (c : Cloud.Call) : Job c.Result :=
  ExceptT.mk ((Prog.question (A := Query.Answer) (.call c)).bind fun answer =>
    .done (answer.mapError .cloud))

def calls (program : Cloud.Calls CloudError α) : Job α :=
  ExceptT.mk ((program.run.through fun c => Prog.question (A := Query.Answer) (.call c)).bind
    fun result => .done (result.mapError .cloud))

/-- Waits until the provider is done with a volume. -/
def wait (volume : Nat) (goal : Goal) : Job RemoteVolume :=
  ExceptT.mk (Prog.question (A := Query.Answer) (.wait volume goal))

def waitActive (volume : Nat) : Job RemoteVolume :=
  wait volume (.status .active)

end Job

variable {σ : Type}

/-- A probe of a wait: it reads the volume, and yields it if the volume is as wanted. -/
def probe (answer : (c : Cloud.Call) → σ → c.Answer × σ) (volume : Nat) (goal : Goal) (_now : Nat)
    (s : σ) : Except CsiError (Option RemoteVolume) × σ :=
  match answer (.getVolume volume) s with
  | (.error e, s) => (.error (.cloud e), s)
  | (.ok v, s) => (.ok (if goal.isMet v then some v else none), s)

/-- Answers queries by means of a provider. Calls take no time, waits take as long as the poller
has to wait. -/
def answerQuery (poller : Poller) (answer : (c : Cloud.Call) → σ → c.Answer × σ) :
    (q : Query) → Timeline × σ → q.Answer × (Timeline × σ)
  | .call c, (t, s) =>
    let (result, s) := answer c s
    (result, (t, s))
  | .wait volume goal, (t, s) =>
    let (result, t, s) := poller.wait goal.action volume 0 (probe answer volume goal) t s
    (result, (t, s))

end VolumePlugin.Controller
