import VolumePlugin.Proofs.Controller.Run

/-! # What requests ask the provider for

Which calls a request can lead to can be read off the text of its work. Everyone may look at
everything, but who changes a volume has to be asked for this volume, and a volume is attached to
the instance that the request names. -/

namespace VolumePlugin.Controller

open Prog (Asks)

/-- The calls that the work on a request may make. -/
def Request.mayCall : Request → Cloud.Call → Prop
  | .create _, .createVolume _ | .create _, .cloneVolume .. | .create _, .resizeVolume .. => True
  | .delete req, .deleteVolume id => id = volumeNumber req.volumeId
  | .publish req, .attachVolume id target =>
    id = volumeNumber req.volumeId ∧ target = instanceNumber req.nodeId
  | .unpublish req, .detachVolume id => id = volumeNumber req.volumeId
  | .expand req, .resizeVolume id _ => id = volumeNumber req.volumeId
  | _, .listVolumes _ | _, .getVolume _ | _, .listInstances _ | _, .getInstance _ => True
  | _, _ => False

theorem Request.mayCall_attachVolume_iff {r : Request} {id target : Nat} :
    r.mayCall (.attachVolume id target) ↔
      ∃ req, r = .publish req ∧ id = volumeNumber req.volumeId ∧
        target = instanceNumber req.nodeId := by
  cases r <;> simp [mayCall]

theorem Request.mayCall_detachVolume_iff {r : Request} {id : Nat} :
    r.mayCall (.detachVolume id) ↔
      ∃ req, r = .unpublish req ∧ id = volumeNumber req.volumeId := by
  cases r <;> simp [mayCall]

/-- Only requests for volumes make any. -/
theorem Request.exists_create_of_makes {r : Request} {c : Cloud.Call} (h : r.mayCall c)
    (hc : c.makes) : ∃ req, r = .create req := by
  cases r with
  | create req => exact ⟨req, rfl⟩
  | _ => cases c <;> simp_all [mayCall, Cloud.Call.makes]

def Request.mayAsk (r : Request) : Query → Prop
  | .call c => r.mayCall c
  | .wait .. => True

/-! ## Single questions -/

section Parts

variable {kind : Query → Prop} {α : Type}

theorem asks_ofExcept (result : Except CsiError α) : Asks kind (Job.ofExcept result).run :=
  trivial

theorem asks_attempt {c : Cloud.Call} (h : kind (.call c)) : Asks kind (Job.attempt c).run :=
  ⟨h, fun _ => trivial⟩

theorem attempt_bind_run {β : Type} (c : Cloud.Call) (f : c.Answer → Job β) :
    (Job.attempt c >>= f).run = .ask (A := Query.Answer) (.call c) fun a => (f a).run :=
  rfl

theorem asks_call {c : Cloud.Call} (h : kind (.call c)) : Asks kind (Job.call c).run :=
  ⟨h, fun _ => trivial⟩

theorem asks_wait {volume : Nat} {goal : Goal} (h : kind (.wait volume goal)) :
    Asks kind (Job.wait volume goal).run :=
  ⟨h, fun _ => trivial⟩

theorem asks_findVolume {label : String} (h : kind (.call (.listVolumes (.ofLabel label)))) :
    Asks kind (Job.calls (Cloud.findVolume label)).run := by
  refine ⟨h, fun answer => ?_⟩
  cases answer <;> trivial

end Parts

/-! ## The work on each kind of request -/

theorem asks_reuse (req : CreateVolumeRequest) (w : Wanted) (v : RemoteVolume) :
    Asks (Request.create req).mayAsk (reuse w v).run := by
  apply (asks_ofExcept _).bind_run
  intro _
  split
  · trivial
  · exact asks_wait trivial

theorem asks_createBlank (req : CreateVolumeRequest) (w : Wanted) :
    Asks (Request.create req).mayAsk (createBlank w req.parameters).run :=
  (asks_call trivial).bind_run fun _ => asks_wait trivial

theorem asks_cloneFrom (req : CreateVolumeRequest) (w : Wanted) (handle : String) :
    Asks (Request.create req).mayAsk (cloneFrom w handle).run := by
  apply (asks_ofExcept _).bind_run
  intro key
  apply (asks_attempt trivial).bind_run
  intro answer
  cases answer with
  | error e => trivial
  | ok source =>
      apply (asks_ofExcept _).bind_run
      intro _
      apply (asks_call trivial).bind_run
      intro clone
      apply (asks_wait trivial).bind_run
      intro volume
      split
      · trivial
      · exact (asks_call trivial).bind_run fun _ => asks_wait trivial

theorem asks_create (c : Controller) (req : CreateVolumeRequest) :
    Asks (Request.create req).mayAsk (c.createVolume req).run := by
  apply (asks_ofExcept _).bind_run
  intro w
  apply Asks.bind_run
  · apply (asks_findVolume trivial).bind_run
    intro found
    split
    · exact asks_reuse req w _
    · split
      · trivial
      · exact asks_cloneFrom req w _
      · exact asks_createBlank req w
  · exact fun _ => trivial

theorem asks_delete (req : DeleteVolumeRequest) :
    Asks (Request.delete req).mayAsk (deleteVolume req).run := by
  apply (asks_ofExcept _).bind_run
  intro _
  apply (asks_attempt trivial).bind_run
  intro answer
  cases answer with
  | error e => dsimp only; split <;> trivial
  | ok v =>
      dsimp only
      split
      · trivial
      · have hmay : (Request.delete req).mayAsk
            (.call (.deleteVolume (volumeNumber req.volumeId))) := rfl
        apply (asks_attempt hmay).bind_run
        intro answer
        cases answer with
        | error e => dsimp only; split <;> trivial
        | ok _ => trivial

theorem asks_existingVolume {kind : Query → Prop} (handle : String)
    (h : kind (.call (.getVolume (volumeNumber handle)))) :
    Asks kind (existingVolume handle).run := by
  apply (asks_attempt h).bind_run
  intro answer
  cases answer <;> trivial

theorem asks_attach (req : ControllerPublishVolumeRequest) :
    Asks (Request.publish req).mayAsk
      (attach (volumeNumber req.volumeId) (instanceNumber req.nodeId)).run := by
  apply (asks_attempt trivial).bind_run
  intro answer
  split
  · trivial
  · apply (asks_attempt ⟨rfl, rfl⟩).bind_run
    intro answer
    split
    · trivial
    · trivial
    · exact (asks_wait trivial).bind_run fun _ => trivial

theorem asks_publish (req : ControllerPublishVolumeRequest) :
    Asks (Request.publish req).mayAsk (publishVolume req).run := by
  apply (asks_ofExcept _).bind_run
  intro _
  apply (asks_ofExcept _).bind_run
  intro _
  apply (asks_ofExcept _).bind_run
  intro _
  apply (asks_existingVolume _ trivial).bind_run
  intro v
  split
  · split <;> trivial
  · exact asks_attach req

theorem asks_detach (req : ControllerUnpublishVolumeRequest) :
    Asks (Request.unpublish req).mayAsk (detach (volumeNumber req.volumeId)).run := by
  have hmay : (Request.unpublish req).mayAsk (.call (.detachVolume (volumeNumber req.volumeId))) :=
    rfl
  apply (asks_attempt hmay).bind_run
  intro answer
  cases answer with
  | error e => dsimp only; split <;> trivial
  | ok _ => exact (asks_wait trivial).bind_run fun _ => trivial

theorem asks_unpublish (req : ControllerUnpublishVolumeRequest) :
    Asks (Request.unpublish req).mayAsk (unpublishVolume req).run := by
  apply (asks_ofExcept _).bind_run
  intro _
  apply (asks_attempt trivial).bind_run
  intro answer
  cases answer with
  | error e => dsimp only; split <;> trivial
  | ok v =>
      dsimp only
      split
      · trivial
      · split
        · exact asks_detach req
        · trivial

theorem asks_expand (req : ControllerExpandVolumeRequest) :
    Asks (Request.expand req).mayAsk (expandVolume req).run := by
  apply (asks_ofExcept _).bind_run
  intro size
  apply (asks_existingVolume _ trivial).bind_run
  intro v
  have hmay : (Request.expand req).mayAsk
      (.call (.resizeVolume (volumeNumber req.volumeId) size)) := rfl
  by_cases hsmaller : size < v.size
  · rw [if_pos hsmaller]
    trivial
  · rw [if_neg hsmaller]
    dsimp only
    split
    · apply (asks_call hmay).bind_run
      intro _
      exact (asks_wait trivial).bind_run fun _ => trivial
    · trivial

theorem asks_list (req : ListVolumesRequest) :
    Asks (Request.list req).mayAsk (listVolumes req).run := by
  apply (asks_ofExcept _).bind_run
  intro options
  apply (asks_call trivial).bind_run
  intro page
  exact (asks_ofExcept _).bind_run fun _ => trivial

theorem asks_validate (req : ValidateVolumeCapabilitiesRequest) :
    Asks (Request.validate req).mayAsk (validateCapabilities req).run := by
  apply (asks_ofExcept _).bind_run
  intro _
  apply (asks_ofExcept _).bind_run
  intro _
  apply (asks_existingVolume _ trivial).bind_run
  intro v
  split <;> trivial

/-- The work on a request asks what it may ask, whatever the answers are. -/
theorem asks_job (c : Controller) (r : Request) : Asks r.mayAsk (r.job c).run := by
  cases r with
  | create req => exact asks_create c req
  | delete req => exact asks_delete req
  | publish req => exact asks_publish req
  | unpublish req => exact asks_unpublish req
  | expand req => exact asks_expand req
  | list req => exact asks_list req
  | validate req => exact asks_validate req

end VolumePlugin.Controller
