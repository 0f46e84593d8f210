import VolumePlugin.Proofs.Controller.Store
import VolumePlugin.Rpc

/-! # Requests that are refused for good

Some codes tell the one who asked that the request cannot be granted as it is, so nobody asks again
and nobody comes back to what the request has begun. These codes are given before anything is
changed. What fails after that is a failure of the provider or of a wait, which have other codes. -/

namespace VolumePlugin.Controller

open Cloud (Memory)
open Cloud.Memory (Observed settle)
open Prog (Delivers)

/-- The codes that a request is refused with for good. -/
def definiteCodes : List StatusCode :=
  [.invalidArgument, .notFound, .alreadyExists, .failedPrecondition, .aborted, .unimplemented]

def Definite (e : CsiError) : Prop :=
  e.code ∈ definiteCodes

theorem not_definite_internal {e : CsiError} (h : e.code = .internal) : ¬ Definite e := by
  unfold Definite
  rw [h]
  decide

theorem not_definite_unavailable {e : CsiError} (h : e.code = .unavailable) : ¬ Definite e := by
  unfold Definite
  rw [h]
  decide

/-! ## Providers with the same volumes -/

/-- The provider has the same volumes, which differ at most in how far the provider is with what was
going on with them, and it has given out no identifiers. -/
structure Untouched (m m' : Memory) : Prop where
  volumes : m'.volumes.map settle = m.volumes.map settle
  counter : m'.nextId = m.nextId

namespace Untouched

variable {m m' m'' : Memory}

theorem refl (m : Memory) : Untouched m m := ⟨rfl, rfl⟩

theorem trans (h : Untouched m m') (h' : Untouched m' m'') : Untouched m m'' :=
  ⟨h'.volumes.trans h.volumes, h'.counter.trans h.counter⟩

theorem observed (h : Observed m m') : Untouched m m' := by
  obtain ⟨read, n, rfl⟩ := h
  exact ⟨by simp [Function.comp_def], rfl⟩

theorem getVolume (h : m.Ordered) (id : Nat) : Untouched m (m.getVolume id).2 :=
  .observed (.getVolume h id)

/-- Whatever keeps the provider from attaching a volume, it attaches none. -/
theorem attachVolume {id target : Nat} {e : CloudError}
    (h : (m.attachVolume id target).1 = .error e) :
    Untouched m (m.attachVolume id target).2 := by
  unfold Memory.attachVolume at h ⊢
  cases hpending : m.attachError with
  | some pending => exact ⟨rfl, rfl⟩
  | none =>
      rw [hpending] at h
      dsimp only at h ⊢
      split
      · exact .refl m
      · next hinstance =>
          rw [if_neg hinstance] at h
          cases hv : m.volume? id with
          | none => exact .refl m
          | some v =>
              rw [hv] at h
              dsimp only at h ⊢
              split
              · exact .refl m
              · next hfree => simp [hfree] at h

end Untouched

/-! ## Work -/

/-- Work that has changed nothing since the start if it is refused for good. -/
def Traceless (start : Memory) {α : Type} (job : Job α) (m : Memory) : Prop :=
  Delivers Answers job m (fun _ _ => True) (fun e m' => Definite e → Untouched start m')

namespace Traceless

variable {α β : Type} {start m : Memory}

theorem done (a : α) : Traceless start (pure a) m := trivial

theorem failed {e : CsiError} (h : Untouched start m) : Traceless start (throw e : Job α) m :=
  fun _ => h

/-- What is no reason to refuse a request for good may come up at any time. -/
theorem indefinite {e : CsiError} (h : ¬ Definite e) : Traceless start (throw e : Job α) m :=
  fun hdefinite => absurd hdefinite h

theorem ofExcept {result : Except CsiError α} {f : α → Job β} (h : Untouched start m)
    (hf : ∀ a, Traceless start (f a) m) : Traceless start (Job.ofExcept result >>= f) m :=
  delivers_ofExcept_bind (fun _ _ _ => h) fun a _ => hf a

theorem attempt {c : Cloud.Call} {f : c.Answer → Job β}
    (hf : Traceless start (f (Memory.answer c m).1) (Memory.answer c m).2) :
    Traceless start (Job.attempt c >>= f) m := by
  unfold Traceless
  rw [Prog.delivers_bind, delivers_attempt]
  exact hf

/-- A call that must succeed fails as the provider does, which is never for good. -/
theorem call {c : Cloud.Call} {f : c.Result → Job β}
    (hf : ∀ a, (Memory.answer c m).1 = .ok a → Traceless start (f a) (Memory.answer c m).2) :
    Traceless start (Job.call c >>= f) m := by
  unfold Traceless
  rw [Prog.delivers_bind, delivers_call]
  cases hresult : (Memory.answer c m).1 with
  | error e => exact fun hdefinite => absurd hdefinite (not_definite_internal rfl)
  | ok a => exact hf a hresult

/-- Waits end for want of time, for the shutdown, or as their reads fail. -/
theorem wait (volume : Nat) (goal : Goal) : Traceless start (Job.wait volume goal) m := by
  rintro result m' ⟨p, t, t', hwait⟩
  cases result with
  | ok v => trivial
  | error e =>
      have hspec : Poller.FailureSpec goal.action volume (probe Memory.answer volume goal)
          fun e => ¬ Definite e := by
        refine ⟨fun now s e he => ?_, not_definite_internal rfl, not_definite_unavailable rfl⟩
        obtain ⟨cause, rfl⟩ := probe_error he
        exact not_definite_internal rfl
      exact fun hdefinite => absurd hdefinite (Poller.wait_error hspec (congrArg Prod.fst hwait))

theorem wait_bind {volume : Nat} {goal : Goal} {f : RemoteVolume → Job β}
    (hf : ∀ v m', Traceless start (f v) m') : Traceless start (Job.wait volume goal >>= f) m :=
  (Prog.delivers_bind ..).mpr ((Traceless.wait volume goal).mono (fun v m' _ => hf v m')
    fun _ _ h => h)

theorem existing (h : start.Ordered) {handle : String} {f : RemoteVolume → Job β}
    (hf : ∀ v, Traceless start (f v) (start.getVolume (volumeNumber handle)).2) :
    Traceless start (existingVolume handle >>= f) start := by
  unfold existingVolume
  rw [bind_assoc]
  apply Traceless.attempt
  simp only [Memory.answer]
  split
  · exact .failed (.getVolume h _)
  · exact hf _

end Traceless

/-! ## The work on each kind of request -/

section Jobs

variable {m : Memory}

theorem traceless_reuse (w : Wanted) (v : RemoteVolume) : Traceless m (reuse w v) m := by
  apply Traceless.ofExcept (.refl m)
  intro _
  split
  · exact .done v
  · exact .wait _ _

theorem traceless_cloneFrom (h : m.Ordered) (w : Wanted) (handle : String) :
    Traceless m (cloneFrom w handle) m := by
  apply Traceless.ofExcept (.refl m)
  intro key
  apply Traceless.attempt
  have hread := Untouched.getVolume h key.volume
  simp only [Memory.answer]
  split
  · exact .failed hread
  · apply Traceless.ofExcept hread
    intro _
    apply Traceless.call
    intro clone _
    apply Traceless.wait_bind
    intro volume m'
    split
    · exact .done volume
    · exact Traceless.call fun _ _ => .wait _ _

theorem traceless_obtain (h : m.Ordered) (w : Wanted) (req : CreateVolumeRequest) :
    Traceless m (obtain w req) m := by
  unfold obtain Traceless
  rw [Prog.delivers_bind, delivers_search]
  split
  · exact traceless_reuse w _
  · split
    · exact Traceless.failed (.refl m)
    · exact traceless_cloneFrom h w _
    · exact Traceless.call fun _ _ => .wait _ _

theorem traceless_create (h : m.Ordered) (c : Controller) (req : CreateVolumeRequest) :
    Traceless m (c.createVolume req) m := by
  apply Traceless.ofExcept (.refl m)
  intro w
  exact (Prog.delivers_bind ..).mpr ((traceless_obtain h w req).mono (fun _ _ _ => trivial)
    fun _ _ h => h)

theorem traceless_delete (h : m.Ordered) (req : DeleteVolumeRequest) :
    Traceless m (deleteVolume req) m := by
  apply Traceless.ofExcept (.refl m)
  intro _
  apply Traceless.attempt
  have hread := Untouched.getVolume h (volumeNumber req.volumeId)
  simp only [Memory.answer]
  split
  · split
    · exact .done _
    · exact .failed hread
  · split
    · exact .failed hread
    · apply Traceless.attempt
      split
      · split
        · exact .done _
        · exact .indefinite (not_definite_internal rfl)
      · exact .done _

theorem traceless_attach {start : Memory} (h : Untouched start m) (id target : Nat) :
    Traceless start (attach id target) m := by
  apply Traceless.attempt
  simp only [Memory.answer]
  split
  · exact .failed h
  · apply Traceless.attempt
    simp only [Memory.answer]
    split
    · exact .indefinite (not_definite_unavailable rfl)
    · next e he => exact .failed (h.trans (.attachVolume he))
    · exact .wait_bind fun _ _ => .done _

theorem traceless_publish (h : m.Ordered) (req : ControllerPublishVolumeRequest) :
    Traceless m (publishVolume req) m := by
  apply Traceless.ofExcept (.refl m)
  intro _
  apply Traceless.ofExcept (.refl m)
  intro _
  apply Traceless.ofExcept (.refl m)
  intro _
  apply Traceless.existing h
  intro v
  have hread := Untouched.getVolume h (volumeNumber req.volumeId)
  split
  · split
    · exact .done _
    · exact .failed hread
  · exact traceless_attach hread (volumeNumber req.volumeId) (instanceNumber req.nodeId)

theorem traceless_detach (start : Memory) (id : Nat) : Traceless start (detach id) m := by
  apply Traceless.attempt
  split
  · split
    · exact .done _
    · exact .indefinite (not_definite_internal rfl)
  · exact .wait_bind fun _ _ => .done _

theorem traceless_unpublish (h : m.Ordered) (req : ControllerUnpublishVolumeRequest) :
    Traceless m (unpublishVolume req) m := by
  apply Traceless.ofExcept (.refl m)
  intro _
  apply Traceless.attempt
  have hread := Untouched.getVolume h (volumeNumber req.volumeId)
  simp only [Memory.answer]
  split
  · split
    · exact .done _
    · exact .failed hread
  · split
    · exact .done _
    · split
      · exact traceless_detach m (volumeNumber req.volumeId)
      · exact .done _

theorem traceless_expand (h : m.Ordered) (req : ControllerExpandVolumeRequest) :
    Traceless m (expandVolume req) m := by
  apply Traceless.ofExcept (.refl m)
  intro size
  apply Traceless.existing h
  intro v
  by_cases hsmaller : size < v.size
  · rw [if_pos hsmaller]
    exact Traceless.indefinite (not_definite_internal rfl)
  · rw [if_neg hsmaller]
    dsimp only
    split
    · exact Traceless.call fun _ _ => .wait_bind fun _ _ => .done _
    · exact .done _

theorem traceless_list (req : ListVolumesRequest) : Traceless m (listVolumes req) m := by
  apply Traceless.ofExcept (.refl m)
  intro options
  apply Traceless.call
  intro page _
  exact Traceless.ofExcept (.refl m) fun _ => .done _

theorem traceless_validate (h : m.Ordered) (req : ValidateVolumeCapabilitiesRequest) :
    Traceless m (validateCapabilities req) m := by
  apply Traceless.ofExcept (.refl m)
  intro _
  apply Traceless.ofExcept (.refl m)
  intro _
  apply Traceless.existing h
  intro v
  split
  · exact .done _
  · exact .done _

end Jobs

/-! ## Procedures -/

section Procedures

open Message (Packed)

/-- A procedure takes up work when it gets a request, in either form. -/
def TakesUp (rpc : Rpc) (p : Plugin) (work : Work Packed) : Prop :=
  (∃ bytes, rpc.ofBytes p bytes = some work) ∨ ∃ v, rpc.ofJson p v = some work

/-- What work ends with at the provider in memory, and the provider after it. -/
def answerWork {α : Type} (poller : Poller) (t : Timeline) (m : Memory) :
    Work α → Option (Except CsiError α × Memory)
  | .done result => some (result, m)
  | .signal see => some (.ok (see t.signal), m)
  | .controller job =>
    let reply := job.run.run (answerQuery poller Memory.answer) (t, m)
    some (reply.1, reply.2.2)
  | .node _ => none

theorem takesUp_of {σ τ : Type} [Message σ] [Message τ] {name : String} {service : ServiceKind}
    {f : Plugin → σ → Work τ} {p : Plugin} {work : Work Packed}
    (h : TakesUp (.of name service f) p work) : ∃ req, work = (f p req).map Message.pack := by
  rcases h with ⟨bytes, h⟩ | ⟨v, h⟩
  · obtain ⟨req, -, rfl⟩ := Option.map_eq_some_iff.mp h
    exact ⟨req, rfl⟩
  · obtain ⟨req, -, rfl⟩ := Option.map_eq_some_iff.mp h
    exact ⟨req, rfl⟩

theorem takesUp_refused {σ : Type} [Message σ] {name : String} {p : Plugin} {work : Work Packed}
    (h : TakesUp (.refused σ name) p work) : work = .done (.error (.unimplemented name)) := by
  rcases h with ⟨bytes, h⟩ | ⟨v, h⟩
  · obtain ⟨req, -, rfl⟩ := Option.map_eq_some_iff.mp h
    rfl
  · obtain ⟨req, -, rfl⟩ := Option.map_eq_some_iff.mp h
    rfl

/-- Work for the provider alone that leaves no trace when it is refused for good. -/
def TracelessWork (m : Memory) {α : Type} : Work α → Prop
  | .done _ | .signal _ => True
  | .controller job => Traceless m job m
  | .node _ => False

theorem Traceless.work {m : Memory} {α β : Type} {job : Job α} (h : Traceless m job m)
    (f : α → β) : TracelessWork m ((Work.controller job).map f) := by
  change Traceless m (f <$> job) m
  rw [map_eq_pure_bind]
  exact (Prog.delivers_bind ..).mpr (h.mono (fun _ _ _ => trivial) fun _ _ h => h)

theorem TracelessWork.answer {m : Memory} {α : Type} {work : Work α} (h : TracelessWork m work)
    (poller : Poller) (t : Timeline) :
    ∃ result m', answerWork poller t m work = some (result, m') ∧
      (statusOf result ∈ definiteCodes → Untouched m m') := by
  cases work with
  | done result => exact ⟨result, m, rfl, fun _ => .refl m⟩
  | signal see => exact ⟨_, m, rfl, fun _ => .refl m⟩
  | controller job =>
      refine ⟨_, _, rfl, ?_⟩
      have hrun := Prog.Ensures.run (answers_sound poller) (t := (t, m)) h
      generalize job.run.run (answerQuery poller Memory.answer) (t, m) = reply at hrun ⊢
      obtain ⟨result, t', m'⟩ := reply
      cases result with
      | ok a => exact fun hcode => absurd hcode (by decide : StatusCode.ok ∉ definiteCodes)
      | error e => exact hrun
  | node job => exact h.elim

theorem tracelessWork_of_takesUp {m : Memory} (h : m.Ordered) {rpc : Rpc}
    (hrpc : rpc ∈ Rpc.controllerCatalog) {p : Plugin} {work : Work Packed}
    (hwork : TakesUp rpc p work) : TracelessWork m work := by
  simp only [Rpc.controllerCatalog, List.mem_cons, List.not_mem_nil, or_false] at hrpc
  rcases hrpc with rfl | rfl | rfl | rfl | rfl | rfl | rfl | rfl | rfl | rfl | rfl | rfl | rfl
  · obtain ⟨req, rfl⟩ := takesUp_of hwork
    exact (traceless_create h p.controller req).work _
  · obtain ⟨req, rfl⟩ := takesUp_of hwork
    exact (traceless_delete h req).work _
  · obtain ⟨req, rfl⟩ := takesUp_of hwork
    exact (traceless_publish h req).work _
  · obtain ⟨req, rfl⟩ := takesUp_of hwork
    exact (traceless_unpublish h req).work _
  · obtain ⟨req, rfl⟩ := takesUp_of hwork
    exact (traceless_validate h req).work _
  · obtain ⟨req, rfl⟩ := takesUp_of hwork
    exact (traceless_list req).work _
  · exact takesUp_refused hwork ▸ trivial
  · obtain ⟨req, rfl⟩ := takesUp_of hwork
    trivial
  · exact takesUp_refused hwork ▸ trivial
  · exact takesUp_refused hwork ▸ trivial
  · exact takesUp_refused hwork ▸ trivial
  · obtain ⟨req, rfl⟩ := takesUp_of hwork
    exact (traceless_expand h req).work _
  · exact takesUp_refused hwork ▸ trivial

/-- Every request to a procedure of the controller service is answered, at any provider in memory.
If it is answered with a code that refuses it for good, the provider has the same volumes as
before. -/
theorem refusals_leave_no_trace {rpc : Rpc} (hrpc : rpc ∈ Rpc.controllerCatalog) {p : Plugin}
    {work : Work Packed} (hwork : TakesUp rpc p work) {m : Memory} (h : m.Ordered)
    (poller : Poller) (t : Timeline) :
    ∃ result m', answerWork poller t m work = some (result, m') ∧
      (statusOf result ∈ definiteCodes → Untouched m m') :=
  (tracelessWork_of_takesUp h hrpc hwork).answer poller t

end Procedures

/-- A plugin in the region of the two volumes. -/
def easternPlugin : Plugin where
  controller := ⟨"us-east", none⟩
  node := ⟨7, "worker", "us-east", 1⟩

/-- A volume that is attached is not deleted. -/
theorem refused_deletion_leaves_no_trace :
    ∃ work result m',
      TakesUp (.of "DeleteVolume" .controller fun _ req => .controller (deleteVolume req))
        easternPlugin work ∧
      answerWork ⟨10, 100, false, 0⟩ {} twoVolumes work = some (result, m') ∧
      statusOf result = .failedPrecondition ∧ Untouched twoVolumes m' := by
  let request : DeleteVolumeRequest := { volumeId := "100-data" }
  let work : Work Message.Packed := (Work.controller (deleteVolume request)).map Message.pack
  have hrequest : (Message.ofJson (.object [("volume_id", .text "100-data")]) :
      Option DeleteVolumeRequest) = some request := by decide +kernel
  have htakes : TakesUp (.of "DeleteVolume" .controller fun _ req => .controller (deleteVolume req))
      easternPlugin work := .inr ⟨.object [("volume_id", .text "100-data")],
    congrArg (Option.map fun req => (Work.controller (deleteVolume req)).map Message.pack) hrequest⟩
  have hstatus : (answerWork ⟨10, 100, false, 0⟩ {} twoVolumes work).map (fun r => statusOf r.1) =
      some .failedPrecondition := by decide +kernel
  obtain ⟨result, m', hanswer, huntouched⟩ := refusals_leave_no_trace
    (.tail _ (.head _)) htakes twoVolumes_sound.ordered ⟨10, 100, false, 0⟩ {}
  rw [hanswer] at hstatus
  have hcode : statusOf result = .failedPrecondition := Option.some.inj hstatus
  exact ⟨work, result, m', htakes, hanswer, hcode, huntouched (by rw [hcode]; decide)⟩

end VolumePlugin.Controller
