import Mathlib.Logic.Relation
import VolumePlugin.Proofs.Cloud.Sound
import VolumePlugin.Proofs.Controller.Run

/-! # What a request may do at the provider

The work on a request is a series of reads and of changes that the kind of the request allows. The
series may end early, so every part of it has to be harmless by itself. -/

namespace VolumePlugin.Controller

open Cloud (Memory)
open Cloud.Memory (Observed)

/-! ## Single effects -/

/-- How a request may change the attachment of a volume. -/
inductive Reattached : Request → Nat → Option Nat → Option Nat → Prop where
  | same (r : Request) (id : Nat) (a : Option Nat) : Reattached r id a a
  /-- To attach a volume is to attach the volume that is named to the instance that is named. -/
  | attached (req : ControllerPublishVolumeRequest) :
      Reattached (.publish req) (volumeNumber req.volumeId) none
        (some (instanceNumber req.nodeId))
  /-- Whoever detaches a volume has to name the instance that it is attached to, or none. -/
  | detached (req : ControllerUnpublishVolumeRequest) (n : Nat)
      (h : req.nodeId = "" ∨ instanceNumber req.nodeId = n) :
      Reattached (.unpublish req) (volumeNumber req.volumeId) (some n) none

/-- What one call on behalf of a request may do. -/
inductive Effect : Request → Memory → Memory → Prop where
  | read {r : Request} {m m' : Memory} (h : Observed m m') : Effect r m m'
  /-- The error that is due to the next attachment has come up. -/
  | failed {r : Request} {m : Memory} : Effect r m { m with attachError := none }
  | added {req : CreateVolumeRequest} {m : Memory} (make : Nat → RemoteVolume)
      (hid : (make m.newId).id = m.newId) (hnew : m.labelled? (make m.newId).label = none)
      (hfree : (make m.newId).attachment = none) :
      Effect (.create req) m (m.addVolume make).2
  | changed {r : Request} {m : Memory} {v w : RemoteVolume} (hw : m.volume? v.id = some w)
      (hsize : w.size ≤ v.size) (hregion : v.region = w.region) (hlabel : v.label = w.label)
      (hattachment : Reattached r v.id w.attachment v.attachment)
      (hattached : ∀ n, v.attachment = some n → (m.instance? n).isSome) :
      Effect r m (m.putVolume v)
  | dropped {req : DeleteVolumeRequest} {m : Memory} {v : RemoteVolume}
      (hv : m.volume? (volumeNumber req.volumeId) = some v) (hfree : v.attachment = none) :
      Effect (.delete req) m (m.dropVolume (volumeNumber req.volumeId))

namespace Effect

variable {r : Request} {m m' : Memory}

theorem idle (r : Request) (m : Memory) : Effect r m m :=
  .read (.refl m)

theorem getVolume (h : m.Sound) (id : Nat) : Effect r m (m.getVolume id).2 :=
  .read (.getVolume h.ordered id)

theorem createVolume (req : CreateVolumeRequest) {o : CreateOptions}
    (h : m.labelled? o.label = none) : Effect (.create req) m (m.createVolume o).2 :=
  .added (m.blank o) rfl h rfl

theorem cloneVolume (req : CreateVolumeRequest) (id : Nat) {label : String}
    (h : m.labelled? label = none) : Effect (.create req) m (m.cloneVolume id label).2 := by
  cases hsource : m.volume? id with
  | none => simpa [Memory.cloneVolume, hsource] using idle _ m
  | some source =>
      rw [Memory.cloneVolume_eq hsource]
      exact .added (m.copy source label) rfl h rfl

theorem deleteVolume (req : DeleteVolumeRequest) :
    Effect (.delete req) m (m.deleteVolume (volumeNumber req.volumeId)).2 := by
  unfold Memory.deleteVolume
  split
  · exact idle _ m
  · next v hv =>
      split
      · exact idle _ m
      · next hfree => exact .dropped hv (by simpa using hfree)

theorem attachVolume (req : ControllerPublishVolumeRequest) :
    Effect (.publish req) m
      (m.attachVolume (volumeNumber req.volumeId) (instanceNumber req.nodeId)).2 := by
  unfold Memory.attachVolume
  split
  · exact .failed
  · split
    · exact idle _ m
    · next hinstance =>
        split
        · exact idle _ m
        · next v hv =>
            split
            · exact idle _ m
            · next hfree =>
                have hid := Memory.id_of_volume? hv
                have hnone : v.attachment = none := by simpa using hfree
                refine .changed (w := v) (hid ▸ hv) (Nat.le_refl _) rfl rfl ?_ ?_
                · rw [hnone]
                  exact hid ▸ .attached req
                · rintro n ⟨⟩
                  simpa [Option.isSome_iff_ne_none] using hinstance

theorem detachVolume (req : ControllerUnpublishVolumeRequest) {v : RemoteVolume} {n : Nat}
    (hv : m.volume? (volumeNumber req.volumeId) = some v) (hn : v.attachment = some n)
    (hnode : concerns req.nodeId n) :
    Effect (.unpublish req) m (m.detachVolume (volumeNumber req.volumeId)).2 := by
  have hid := Memory.id_of_volume? hv
  unfold Memory.detachVolume
  rw [hv]
  refine .changed (w := v) (hid ▸ hv) (Nat.le_refl _) rfl rfl ?_ (by simp)
  rw [hn]
  have hnamed : req.nodeId = "" ∨ instanceNumber req.nodeId = n := by
    simp only [concerns, Bool.or_eq_true, decide_eq_true_eq] at hnode
    exact hnode.imp_right Eq.symm
  exact hid ▸ .detached req n hnamed

theorem resizeVolume (h : m.Sound) (id size : Nat) : Effect r m (m.resizeVolume id size).2 := by
  unfold Memory.resizeVolume
  split
  · exact idle _ m
  · next v hv =>
      split
      · exact idle _ m
      · next hsize =>
          obtain ⟨hmem, hid⟩ := (Memory.volume?_eq_some_iff h.ordered).mp hv
          exact .changed (w := v) (hid ▸ hv) (Nat.le_of_not_lt hsize) rfl rfl (.same r v.id _)
            (h.attached v hmem)

theorem sound (he : Effect r m m') (h : m.Sound) : m'.Sound := by
  cases he with
  | read ho => exact h.observed ho
  | failed => exact ⟨h.ordered, h.fresh, h.labels, h.attached, h.regards⟩
  | added make hid hnew hfree => exact h.addVolume hid hnew hfree
  | changed hw hsize hregion hlabel hattachment hattached => exact h.putVolume hw hlabel hattached
  | dropped hv hfree => exact h.dropVolume _

theorem counter (he : Effect r m m') : m.nextId ≤ m'.nextId := by
  cases he with
  | read ho =>
      obtain ⟨read, hidden, rfl⟩ := ho
      exact Nat.le_refl _
  | failed => exact Nat.le_refl _
  | added make hid hnew hfree => exact Nat.le_succ _
  | changed hw hsize hregion hlabel hattachment hattached => exact Nat.le_refl _
  | dropped hv hfree => exact Nat.le_refl _

end Effect

/-! ## Series of effects -/

/-- What the work on a request may do, one call after the other. -/
abbrev Evolves (r : Request) : Memory → Memory → Prop :=
  Relation.ReflTransGen (Effect r)

theorem Evolves.getVolume (r : Request) {m : Memory} (h : m.Sound) (id : Nat) :
    Evolves r m (m.getVolume id).2 :=
  .single (.getVolume h id)

theorem Evolves.sound {r : Request} {m m' : Memory} (he : Evolves r m m') (h : m.Sound) :
    m'.Sound := by
  induction he with
  | refl => exact h
  | tail _ he ih => exact he.sound ih

theorem Evolves.counter {r : Request} {m m' : Memory} (he : Evolves r m m') :
    m.nextId ≤ m'.nextId := by
  induction he with
  | refl => exact Nat.le_refl _
  | tail _ he ih => exact Nat.le_trans ih he.counter

end VolumePlugin.Controller
