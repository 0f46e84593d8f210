import VolumePlugin.Proofs.Controller.Effect

/-! # The work on a request does what the request may do

Jobs are taken apart as they are written, one question after the other. At each place where a job
can end, in success or in failure, the provider has come as far as the effects up to there lead. -/

namespace VolumePlugin.Controller

open Cloud (Memory)
open Cloud.Memory (settle)
open Prog (Delivers)

/-- Whether the rest of some work, like the work before it, does only what the request may do. -/
def Allowed (r : Request) (start : Memory) {α : Type} (job : Job α) (m : Memory) : Prop :=
  Delivers Answers job m (fun _ m' => Evolves r start m') (fun _ m' => Evolves r start m')

namespace Allowed

variable {α β : Type} {r : Request} {start m : Memory}

theorem done (he : Evolves r start m) (a : α) : Allowed r start (pure a) m := he

theorem failed (he : Evolves r start m) (e : CsiError) :
    Allowed r start (throw e : Job α) m := he

theorem ofExcept (he : Evolves r start m) {result : Except CsiError α} {f : α → Job β}
    (hf : ∀ a, result = .ok a → Allowed r start (f a) m) :
    Allowed r start (Job.ofExcept result >>= f) m :=
  delivers_ofExcept_bind (fun _ _ => he) hf

theorem attempt {c : Cloud.Call} {f : c.Answer → Job β}
    (hf : Allowed r start (f (Memory.answer c m).1) (Memory.answer c m).2) :
    Allowed r start (Job.attempt c >>= f) m := by
  unfold Allowed
  rw [Prog.delivers_bind, delivers_attempt]
  exact hf

theorem call {c : Cloud.Call} {f : c.Result → Job β}
    (he : Evolves r start (Memory.answer c m).2)
    (hf : ∀ a, (Memory.answer c m).1 = .ok a → Allowed r start (f a) (Memory.answer c m).2) :
    Allowed r start (Job.call c >>= f) m := by
  unfold Allowed
  rw [Prog.delivers_bind, delivers_call]
  cases hresult : (Memory.answer c m).1 with
  | error e => exact he
  | ok a => exact hf a hresult

theorem wait (he : Evolves r start m) (h : start.Sound) (id : Nat) (goal : Goal) :
    Allowed r start (Job.wait id goal) m :=
  (delivers_wait (he.sound h).ordered id goal).mono
    (fun _ _ hw => he.tail (.read hw.1)) (fun _ _ hw => he.tail (.read hw))

theorem wait_bind (he : Evolves r start m) (h : start.Sound) (id : Nat) (goal : Goal)
    {f : RemoteVolume → Job β} (hf : ∀ v m', Evolves r start m' → Allowed r start (f v) m') :
    Allowed r start (Job.wait id goal >>= f) m :=
  (Prog.delivers_bind ..).mpr ((Allowed.wait he h id goal).mono (fun v m' => hf v m')
    (fun _ _ he => he))

end Allowed

/-! ## The work on each kind of request -/

section Jobs

variable {start m : Memory}

theorem allowed_reuse {req : CreateVolumeRequest} (he : Evolves (.create req) start m)
    (h : start.Sound) (w : Wanted) (v : RemoteVolume) :
    Allowed (.create req) start (reuse w v) m := by
  apply Allowed.ofExcept he
  intro _ _
  split
  · exact .done he v
  · exact .wait he h v.id _

theorem allowed_createBlank {req : CreateVolumeRequest} (he : Evolves (.create req) start m)
    (h : start.Sound) {w : Wanted} (hnew : m.labelled? w.label = none) :
    Allowed (.create req) start (createBlank w req.parameters) m := by
  let o : CreateOptions := ⟨w.label, w.region, w.size, volumeTags req.parameters⟩
  have hmade : Evolves (.create req) start (m.createVolume o).2 :=
    he.tail (.createVolume req hnew)
  apply Allowed.call hmade
  intro created _
  exact .wait hmade h created.id _

theorem allowed_cloneFrom {req : CreateVolumeRequest} (he : Evolves (.create req) start m)
    (h : start.Sound) {w : Wanted} (hnew : m.labelled? w.label = none) (handle : String) :
    Allowed (.create req) start (cloneFrom w handle) m := by
  apply Allowed.ofExcept he
  intro key _
  apply Allowed.attempt
  have hread := Memory.Observed.getVolume (he.sound h).ordered key.volume
  have he' := he.tail (.read hread)
  -- Between the search for the label and the clone there is only a read.
  have hnew' := hread.labelled?_eq_none hnew
  simp only [Memory.answer]
  split
  · exact .failed he' _
  · next source hsource =>
      apply Allowed.ofExcept he'
      intro _ _
      have hmade := he'.tail (.cloneVolume req source.id hnew')
      apply Allowed.call hmade
      intro clone _
      apply Allowed.wait_bind hmade h
      intro v m' hactive
      split
      · exact .done hactive v
      · have hlarger := hactive.tail (.resizeVolume (hactive.sound h) v.id w.size)
        apply Allowed.call hlarger
        intro _ _
        exact .wait hlarger h v.id _

theorem allowed_obtain {req : CreateVolumeRequest} (h : start.Sound) (w : Wanted) :
    Allowed (.create req) start (obtain w req) start := by
  unfold obtain Allowed
  rw [Prog.delivers_bind, delivers_findVolume h.regards]
  cases hfind : start.labelled? w.label with
  | some existing => exact allowed_reuse .refl h w existing
  | none =>
      dsimp only
      split
      · exact Allowed.failed .refl _
      · exact allowed_cloneFrom .refl h hfind _
      · exact allowed_createBlank .refl h hfind

theorem allowed_create (c : Controller) (req : CreateVolumeRequest) (h : start.Sound) :
    Allowed (.create req) start (c.createVolume req) start := by
  apply Allowed.ofExcept .refl
  intro w _
  exact (Prog.delivers_bind ..).mpr
    ((allowed_obtain h w).mono (fun _ _ he => he) (fun _ _ he => he))

theorem allowed_delete (req : DeleteVolumeRequest) (h : start.Sound) :
    Allowed (.delete req) start (deleteVolume req) start := by
  apply Allowed.ofExcept .refl
  intro _ _
  apply Allowed.attempt
  have hread := Evolves.getVolume (.delete req) h (volumeNumber req.volumeId)
  simp only [Memory.answer]
  split
  · split
    · exact .done hread _
    · exact .failed hread _
  · split
    · exact .failed hread _
    · apply Allowed.attempt
      have hdeleted := hread.tail (.deleteVolume req)
      simp only [Memory.answer]
      split
      · split
        · exact .done hdeleted _
        · exact .failed hdeleted _
      · exact .done hdeleted _

/-- A read of a volume that must be there, and what is done with it. -/
theorem Allowed.existing {α : Type} {r : Request} (h : start.Sound) (handle : String)
    {f : RemoteVolume → Job α}
    (hf : ∀ v, Allowed r start (f v) (start.getVolume (volumeNumber handle)).2) :
    Allowed r start (existingVolume handle >>= f) start := by
  have hread := Evolves.getVolume r h (volumeNumber handle)
  unfold existingVolume
  rw [bind_assoc]
  apply Allowed.attempt
  simp only [Memory.answer]
  split
  · exact .failed hread _
  · exact hf _

theorem allowed_attach (req : ControllerPublishVolumeRequest)
    (he : Evolves (.publish req) start m) (h : start.Sound) :
    Allowed (.publish req) start
      (attach (volumeNumber req.volumeId) (instanceNumber req.nodeId)) m := by
  have hattached := he.tail (.attachVolume req)
  apply Allowed.attempt
  simp only [Memory.answer]
  split
  · exact .failed he _
  · apply Allowed.attempt
    simp only [Memory.answer]
    split
    · exact .failed hattached _
    · exact .failed hattached _
    · apply Allowed.wait_bind hattached h
      exact fun v m' hw => .done hw _

theorem allowed_publish (req : ControllerPublishVolumeRequest) (h : start.Sound) :
    Allowed (.publish req) start (publishVolume req) start := by
  apply Allowed.ofExcept .refl
  intro _ _
  apply Allowed.ofExcept .refl
  intro _ _
  apply Allowed.ofExcept .refl
  intro _ _
  apply Allowed.existing h
  intro v
  have hread := Evolves.getVolume (.publish req) h (volumeNumber req.volumeId)
  split
  · split
    · exact .done hread _
    · exact .failed hread _
  · exact allowed_attach req hread h

theorem allowed_unpublish (req : ControllerUnpublishVolumeRequest) (h : start.Sound) :
    Allowed (.unpublish req) start (unpublishVolume req) start := by
  have hread := Evolves.getVolume (.unpublish req) h (volumeNumber req.volumeId)
  apply Allowed.ofExcept .refl
  intro _ _
  apply Allowed.attempt
  simp only [Memory.answer]
  split
  · split
    · exact .done hread _
    · exact .failed hread _
  · next v hv =>
      split
      · exact .done hread _
      · next n hn =>
          split
          · next hnode =>
              obtain ⟨w, -, hshown, hafter⟩ := Memory.getVolume_eq_ok hv
              -- Reads may hide an attachment, but they make none up.
              have hattachment : (settle w).attachment = some n := by
                rcases hshown with rfl | rfl
                · exact hn
                · simp at hn
              have hdetached := hread.tail (.detachVolume req hafter hattachment hnode)
              apply Allowed.attempt
              simp only [Memory.answer]
              split
              · split
                · exact .done hdetached _
                · exact .failed hdetached _
              · exact .wait_bind hdetached h _ _ fun v m' hw => .done hw _
          · exact .done hread _

theorem allowed_expand (req : ControllerExpandVolumeRequest) (h : start.Sound) :
    Allowed (.expand req) start (expandVolume req) start := by
  apply Allowed.ofExcept .refl
  intro size _
  apply Allowed.existing h
  intro v
  have hread := Evolves.getVolume (.expand req) h (volumeNumber req.volumeId)
  by_cases hsmaller : size < v.size
  · rw [if_pos hsmaller]
    exact hread
  · rw [if_neg hsmaller]
    dsimp only
    split
    · have hlarger := hread.tail (.resizeVolume (hread.sound h) (volumeNumber req.volumeId) size)
      apply Allowed.call hlarger
      intro _ _
      exact .wait_bind hlarger h _ _ fun v m' hw => .done hw _
    · exact .done hread _

theorem allowed_list (req : ListVolumesRequest) :
    Allowed (.list req) start (listVolumes req) start := by
  apply Allowed.ofExcept .refl
  intro options _
  apply Allowed.call .refl
  intro page _
  exact Allowed.ofExcept .refl fun next _ => .done .refl _

theorem allowed_validate (req : ValidateVolumeCapabilitiesRequest) (h : start.Sound) :
    Allowed (.validate req) start (validateCapabilities req) start := by
  apply Allowed.ofExcept .refl
  intro _ _
  apply Allowed.ofExcept .refl
  intro _ _
  apply Allowed.existing h
  intro v
  have hread := Evolves.getVolume (.validate req) h (volumeNumber req.volumeId)
  split
  · exact .done hread _
  · exact .done hread _

end Jobs

/-- Whatever the answers are, and wherever the work ends, it has done what the request may do. -/
theorem allowed_job (c : Controller) (r : Request) {start : Memory} (h : start.Sound) :
    Allowed r start (r.job c) start := by
  cases r with
  | create req => exact allowed_create c req h
  | delete req => exact allowed_delete req h
  | publish req => exact allowed_publish req h
  | unpublish req => exact allowed_unpublish req h
  | expand req => exact allowed_expand req h
  | list req => exact allowed_list req
  | validate req => exact allowed_validate req h

end VolumePlugin.Controller
