import VolumePlugin.Proofs.Controller.Answers

/-! Runs of the controller service: requests of any kind, one after the other, at the provider in
memory. -/

namespace VolumePlugin.Controller

open Cloud (Memory)

/-- A request that the service works on with the help of the provider. -/
inductive Request where
  | create (req : CreateVolumeRequest)
  | delete (req : DeleteVolumeRequest)
  | publish (req : ControllerPublishVolumeRequest)
  | unpublish (req : ControllerUnpublishVolumeRequest)
  | expand (req : ControllerExpandVolumeRequest)
  | list (req : ListVolumesRequest)
  | validate (req : ValidateVolumeCapabilitiesRequest)

namespace Request

/-- What a request is answered with when it succeeds. -/
abbrev Response : Request → Type
  | create _ => CreateVolumeResponse
  | delete _ => DeleteVolumeResponse
  | publish _ => ControllerPublishVolumeResponse
  | unpublish _ => ControllerUnpublishVolumeResponse
  | expand _ => ControllerExpandVolumeResponse
  | list _ => ListVolumesResponse
  | validate _ => ValidateVolumeCapabilitiesResponse

def job (c : Controller) : (r : Request) → Job r.Response
  | create req => c.createVolume req
  | delete req => deleteVolume req
  | publish req => publishVolume req
  | unpublish req => unpublishVolume req
  | expand req => expandVolume req
  | list req => listVolumes req
  | validate req => validateCapabilities req

end Request

/-- How the provider behaves while it is asked, its volumes and instances apart. -/
structure Conditions where
  pageSize : Nat
  initialStatus : VolumeStatus
  attachError : Option CloudError
  hiddenReads : Nat

/-- A request, how long the service waits for the provider on its behalf, what happens to the
shutdown signal meanwhile, and how the provider behaves when the request arrives. -/
structure Arrival where
  request : Request
  poller : Poller
  timeline : Timeline
  conditions : Conditions

namespace Arrival

def meet (a : Arrival) (m : Memory) : Memory :=
  { m with
    pageSize := a.conditions.pageSize
    initialStatus := a.conditions.initialStatus
    attachError := a.conditions.attachError
    hiddenReads := a.conditions.hiddenReads }

/-- The answer to a request, and the provider after it. -/
def outcome (a : Arrival) (c : Controller) (m : Memory) :
    Except CsiError a.request.Response × Memory :=
  let reply := (a.request.job c).run.run (answerQuery a.poller Memory.answer)
    (a.timeline, a.meet m)
  (reply.1, reply.2.2)

/-- What the service asks for while it works on a request. -/
def asked (a : Arrival) (c : Controller) (m : Memory) : List Query :=
  (a.request.job c).run.asked (answerQuery a.poller Memory.answer) (a.timeline, a.meet m)

end Arrival

def after (c : Controller) (m : Memory) (arrivals : List Arrival) : Memory :=
  arrivals.foldl (fun m a => (a.outcome c m).2) m

@[simp] theorem after_nil (c : Controller) (m : Memory) : after c m [] = m := rfl

@[simp] theorem after_append (c : Controller) (m : Memory) (past future : List Arrival) :
    after c m (past ++ future) = after c (after c m past) future :=
  List.foldl_append

@[simp] theorem after_cons (c : Controller) (m : Memory) (a : Arrival) (rest : List Arrival) :
    after c m (a :: rest) = after c (a.outcome c m).2 rest := rfl

/-- What the work on a request delivers holds of the answer to it. -/
theorem Arrival.outcome_of_delivers {a : Arrival} {c : Controller} {m : Memory}
    {ok : a.request.Response → Memory → Prop} {bad : CsiError → Memory → Prop}
    (h : Prog.Delivers Answers (a.request.job c) (a.meet m) ok bad) :
    Prog.Either ok bad (a.outcome c m).1 (a.outcome c m).2 :=
  Prog.Ensures.run (answers_sound a.poller) (t := (a.timeline, a.meet m)) h

theorem Arrival.outcome_of_recorded {a : Arrival} {c : Controller} {m : Memory}
    {ok : a.request.Response → List Query × Memory → Prop}
    {bad : CsiError → List Query × Memory → Prop}
    (h : Prog.Delivers (Prog.Recorded Answers) (a.request.job c) ([], a.meet m) ok bad) :
    Prog.Either ok bad (a.outcome c m).1 (a.asked c m, (a.outcome c m).2) :=
  Prog.Ensures.run_asked (answers_sound a.poller) (t := (a.timeline, a.meet m)) h

end VolumePlugin.Controller
