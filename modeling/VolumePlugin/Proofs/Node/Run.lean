import VolumePlugin.Node.Service
import VolumePlugin.Proofs.Host.Answers

/-! Runs of the node service: requests of any kind, one after the other, on the host in memory. -/

namespace VolumePlugin.Node

open Host (Job Memory answerQuery)

/-- A request that the service works on with the help of the host. -/
inductive Request where
  | stage (req : NodeStageVolumeRequest)
  | unstage (req : NodeUnstageVolumeRequest)
  | publish (req : NodePublishVolumeRequest)
  | unpublish (req : NodeUnpublishVolumeRequest)
  | expand (req : NodeExpandVolumeRequest)
  | stats (req : NodeGetVolumeStatsRequest)

namespace Request

/-- What a request is answered with when it succeeds. -/
abbrev Response : Request → Type
  | stage _ => NodeStageVolumeResponse
  | unstage _ => NodeUnstageVolumeResponse
  | publish _ => NodePublishVolumeResponse
  | unpublish _ => NodeUnpublishVolumeResponse
  | expand _ => NodeExpandVolumeResponse
  | stats _ => NodeGetVolumeStatsResponse

def job : (r : Request) → Job r.Response
  | stage req => Node.stage req
  | unstage req => Node.unstage req
  | publish req => Node.publish req
  | unpublish req => Node.unpublish req
  | expand req => Node.expand req
  | stats req => volumeStats req

end Request

/-- The disks that the service has met, and the host. -/
abbrev State := List String × Memory

/-- A request, and what else happens on the host before it arrives: devices come and go, commands
answer otherwise. Nobody but the service mounts anything. -/
structure Arrival where
  request : Request
  change : Memory → Memory

namespace Arrival

def meet (a : Arrival) (s : State) : State :=
  (s.1, { a.change s.2 with mounts := s.2.mounts })

/-- The answer to a request, and the state after it. -/
def outcome (a : Arrival) (s : State) : Except CsiError a.request.Response × State :=
  a.request.job.run.run (answerQuery Memory.answer) (a.meet s)

@[simp] theorem mounts_meet (a : Arrival) (s : State) : (a.meet s).2.mounts = s.2.mounts := rfl

/-- What the work on a request delivers holds of the answer to it. -/
theorem outcome_of_delivers {a : Arrival} {s : State} {ok : a.request.Response → Memory → Prop}
    {bad : CsiError → Memory → Prop}
    (h : Prog.Delivers Host.Answers a.request.job (a.meet s).2 ok bad) :
    Prog.Either ok bad (a.outcome s).1 (a.outcome s).2.2 :=
  Prog.Ensures.run Host.answers_sound (t := a.meet s) h

end Arrival

def after (s : State) (arrivals : List Arrival) : State :=
  arrivals.foldl (fun s a => (a.outcome s).2) s

@[simp] theorem after_nil (s : State) : after s [] = s := rfl

@[simp] theorem after_append (s : State) (past future : List Arrival) :
    after s (past ++ future) = after (after s past) future :=
  List.foldl_append

@[simp] theorem after_cons (s : State) (a : Arrival) (rest : List Arrival) :
    after s (a :: rest) = after (a.outcome s).2 rest := rfl

end VolumePlugin.Node
