import VolumePlugin.Proofs.Cloud.Memory

/-! # What calls do to volumes

A call makes, changes or removes one volume at most, whoever makes the call and whatever other calls
there are. Identifiers are given out once, until none is left and they begin anew. -/

namespace VolumePlugin.Cloud

/-- Whether a call makes a volume if it succeeds. -/
def Call.makes : Call → Bool
  | .createVolume _ | .cloneVolume .. => true
  | _ => false

namespace Memory

/-! ## Identifiers -/

/-- Volumes are in the order of their identifiers, which were given out by the provider. -/
structure Numbered (m : Memory) : Prop where
  ordered : m.Ordered
  fresh : ∀ v ∈ m.volumes, v.id < m.nextId

namespace Numbered

variable {m m' : Memory}

theorem of_empty (h : m.volumes = []) : m.Numbered := by
  constructor <;> simp [Ordered, h]

theorem lt_nextId (h : m.Numbered) {id : Nat} {v : RemoteVolume} (hv : m.volume? id = some v) :
    id < m.nextId := by
  obtain ⟨hmem, rfl⟩ := (volume?_eq_some_iff h.ordered).mp hv
  exact h.fresh v hmem

theorem volume?_of_le (h : m.Numbered) {id : Nat} (hid : m.nextId ≤ id) : m.volume? id = none := by
  cases hv : m.volume? id with
  | none => rfl
  | some v => exact absurd (h.lt_nextId hv) (Nat.not_lt_of_le hid)

theorem observed (h : m.Numbered) (ho : Observed m m') : m'.Numbered := by
  refine ⟨ho.ordered h.ordered, ?_⟩
  obtain ⟨read, n, rfl⟩ := ho
  simpa using h.fresh

theorem putVolume (h : m.Numbered) {v w : RemoteVolume} (hw : m.volume? v.id = some w) :
    (m.putVolume v).Numbered := by
  refine ⟨h.ordered.putVolume v, ?_⟩
  intro u hu
  rcases (h.ordered.mem_putVolume v u).mp hu with rfl | ⟨hu, -⟩
  · exact h.lt_nextId hw
  · exact h.fresh u hu

theorem addVolume (h : m.Numbered) {make : Nat → RemoteVolume}
    (hid : (make m.newId).id = m.newId) : (m.addVolume make).2.Numbered := by
  refine ⟨h.ordered.putVolume _, ?_⟩
  intro u hu
  change u.id < m.nextId + 1
  rcases (h.ordered.mem_putVolume _ u).mp hu with rfl | ⟨hu, -⟩
  · rw [hid]
    exact Nat.lt_succ_of_le m.newId_le
  · exact Nat.lt_succ_of_lt (h.fresh u hu)

theorem dropVolume (h : m.Numbered) (id : Nat) : (m.dropVolume id).Numbered where
  ordered := List.Pairwise.filter _ h.ordered
  fresh v hv := h.fresh v (List.mem_filter.mp hv).1

end Numbered

/-- A provider that numbers its volumes. If it has given out identifiers since it had come to a
certain one, it has given out none twice. -/
structure Unrepeated (since : Nat) (m : Memory) : Prop where
  numbered : m.Numbered
  counter : since ≤ m.nextId
  words : since < m.nextId → m.nextId ≤ Text.wordBound

/-! ## One call -/

/-- What a call can make of what the provider has under an identifier. -/
inductive Becomes (c : Call) (next id : Nat) :
    Option RemoteVolume → Option RemoteVolume → Prop where
  | absent : Becomes c next id none none
  | kept {v w : RemoteVolume} (hlabel : w.label = v.label) (hregion : w.region = v.region)
      (hsize : v.size ≤ w.size) (hattachment : w.attachment = v.attachment) :
      Becomes c next id (some v) (some w)
  | attached {v : RemoteVolume} (target : Nat) (hc : c = .attachVolume id target)
      (hfree : v.attachment = none) :
      Becomes c next id (some v) (some { v with attachment := some target })
  /-- To detach a volume is not to say from which instance. -/
  | detached {v : RemoteVolume} (hc : c = .detachVolume id) :
      Becomes c next id (some v) (some { v with attachment := none })
  | appeared {v : RemoteVolume} (hid : id = next) (hfree : v.attachment = none) :
      Becomes c next id none (some v)
  | gone {v : RemoteVolume} (hc : c = .deleteVolume id) (hfree : v.attachment = none) :
      Becomes c next id (some v) none

/-- How the provider may be different after a call. If the call makes a volume, what is said of
volumes holds as long as no identifier is given out twice. -/
structure Answered (c : Call) (m m' : Memory) : Prop where
  numbered : m'.Numbered
  becomes : (m.nextId < m'.nextId → m'.nextId ≤ Text.wordBound) →
    ∀ id, Becomes c m.nextId id (m.volume? id) (m'.volume? id)
  counter : m.nextId ≤ m'.nextId
  makes : m.nextId < m'.nextId → c.makes
  regards : m'.ignoresLabels = m.ignoresLabels

section Calls

variable {c : Call} {m : Memory}

theorem Becomes.refl (c : Call) (next id : Nat) (a : Option RemoteVolume) :
    Becomes c next id a a := by
  cases a with
  | none => exact .absent
  | some v => exact .kept rfl rfl (Nat.le_refl _) rfl

/-- A call that gives out no identifier. -/
theorem Answered.of_nextId_eq {m' : Memory} (h : m'.Numbered)
    (hbecomes : ∀ id, Becomes c m.nextId id (m.volume? id) (m'.volume? id))
    (hnext : m'.nextId = m.nextId) (hregards : m'.ignoresLabels = m.ignoresLabels) :
    Answered c m m' where
  numbered := h
  becomes _ := hbecomes
  counter := Nat.le_of_eq hnext.symm
  makes hlt := absurd hnext (Nat.ne_of_gt hlt)
  regards := hregards

theorem Answered.refl (h : m.Numbered) : Answered c m m :=
  .of_nextId_eq h (fun id => .refl c m.nextId id _) rfl rfl

theorem Answered.observed {m' : Memory} (h : m.Numbered) (ho : Observed m m') :
    Answered c m m' := by
  have hnumbered := h.observed ho
  have hbecomes (id : Nat) : Becomes c m.nextId id (m.volume? id) (m'.volume? id) := by
    obtain ⟨read, hread⟩ := ho.volume? id
    rw [hread]
    cases m.volume? id with
    | none => exact .absent
    | some v => exact .kept (by simp) (by simp) (by simp) (by simp)
  obtain ⟨read, n, rfl⟩ := ho
  exact .of_nextId_eq hnumbered hbecomes rfl rfl

/-- Only what happens to the volume that the call names has to be looked at. -/
theorem Answered.putVolume (h : m.Numbered) {v w : RemoteVolume} (hw : m.volume? v.id = some w)
    (hv : Becomes c m.nextId v.id (some w) (some v)) : Answered c m (m.putVolume v) := by
  refine .of_nextId_eq (h.putVolume hw) (fun id => ?_) rfl rfl
  rw [volume?_putVolume]
  split
  · next heq =>
      subst heq
      rw [hw]
      exact hv
  · exact .refl _ _ _ _

theorem Answered.addVolume (h : m.Numbered) (hc : c.makes) {make : Nat → RemoteVolume}
    (hid : (make m.newId).id = m.newId) (hfree : (make m.newId).attachment = none) :
    Answered c m (m.addVolume make).2 := by
  refine ⟨h.addVolume hid, fun hwords id => ?_, Nat.le_succ _, fun _ => hc, rfl⟩
  change Becomes _ _ _ _ ((m.putVolume (make m.newId)).volume? id)
  rw [volume?_putVolume, hid]
  split
  · next heq =>
      have hnew : m.newId = m.nextId := newId_of_lt (hwords (Nat.lt_succ_self _))
      rw [h.volume?_of_le (by omega)]
      exact .appeared (heq.symm.trans hnew) hfree
  · exact .refl _ _ _ _

theorem Answered.dropVolume (h : m.Numbered) {id : Nat} {v : RemoteVolume}
    (hv : m.volume? id = some v) (hfree : v.attachment = none) :
    Answered (.deleteVolume id) m (m.dropVolume id) := by
  refine .of_nextId_eq (h.dropVolume id) (fun i => ?_) rfl rfl
  rw [volume?_dropVolume]
  split
  · next heq =>
      subst heq
      rw [hv]
      exact .gone rfl hfree
  · exact .refl _ _ _ _

/-- Everything that a call can do, one case per call. -/
theorem answered (h : m.Numbered) (c : Call) : Answered c m (answer c m).2 := by
  cases c with
  | listVolumes o => exact .refl h
  | getVolume id => exact .observed h (.getVolume h.ordered id)
  | createVolume o =>
      have hmade : Answered (.createVolume o) m (m.addVolume (m.blank o)).2 :=
        .addVolume h rfl rfl rfl
      exact hmade
  | deleteVolume id =>
      simp only [answer, Memory.deleteVolume]
      split
      · exact .refl h
      · next v hv =>
          split
          · exact .refl h
          · next hfree => exact .dropVolume h hv (by simpa using hfree)
  | attachVolume id target =>
      simp only [answer, Memory.attachVolume]
      split
      · exact .of_nextId_eq ⟨h.ordered, h.fresh⟩ (fun id => .refl _ _ _ _) rfl rfl
      · split
        · exact .refl h
        · split
          · exact .refl h
          · next v hv =>
              split
              · exact .refl h
              · next hfree =>
                  have hid := id_of_volume? hv
                  exact .putVolume (w := v) h (hid ▸ hv)
                    (.attached target (hid ▸ rfl) (by simpa using hfree))
  | detachVolume id =>
      simp only [answer, Memory.detachVolume]
      split
      · exact .refl h
      · next v hv =>
          have hid := id_of_volume? hv
          exact .putVolume (w := v) h (hid ▸ hv) (.detached (hid ▸ rfl))
  | resizeVolume id size =>
      simp only [answer, Memory.resizeVolume]
      split
      · exact .refl h
      · next v hv =>
          split
          · exact .refl h
          · next hsize =>
              have hid := id_of_volume? hv
              exact .putVolume (w := v) h (hid ▸ hv)
                (.kept rfl rfl (Nat.le_of_not_lt hsize) rfl)
  | cloneVolume id label =>
      cases hsource : m.volume? id with
      | none => simpa [answer, Memory.cloneVolume, hsource] using .refl h
      | some source =>
          rw [answer, cloneVolume_eq hsource]
          have hmade : Answered (.cloneVolume id label) m (m.addVolume (m.copy source label)).2 :=
            .addVolume h rfl rfl rfl
          exact hmade
  | listInstances o => exact .refl h
  | getInstance id => exact .refl h

end Calls

/-! ## The attachment under an identifier -/

def attachmentOf? (m : Memory) (id : Nat) : Option Nat :=
  (m.volume? id).bind (·.attachment)

theorem Observed.attachmentOf? {m m' : Memory} (h : Observed m m') :
    m'.attachmentOf? = m.attachmentOf? := by
  funext id
  obtain ⟨read, hread⟩ := h.volume? id
  unfold Memory.attachmentOf?
  rw [hread]
  cases m.volume? id with
  | none => rfl
  | some v => simp

/-- What a call does to an attachment: nothing, unless it attaches or detaches the volume. -/
theorem Becomes.attachment {c : Call} {next id : Nat} {a b : Option RemoteVolume}
    (h : Becomes c next id a b) :
    b.bind (·.attachment) = a.bind (·.attachment) ∨
      (∃ target, c = .attachVolume id target ∧ a.bind (·.attachment) = none ∧
        b.bind (·.attachment) = some target) ∨
      c = .detachVolume id ∧ b.bind (·.attachment) = none := by
  cases h with
  | absent => exact .inl rfl
  | kept hlabel hregion hsize hattachment => exact .inl hattachment
  | attached target hc hfree => exact .inr (.inl ⟨target, hc, hfree, rfl⟩)
  | detached hc => exact .inr (.inr ⟨hc, rfl⟩)
  | appeared hid hfree => exact .inl hfree
  | gone hc hfree => exact .inl hfree.symm

theorem Answered.attachment {c : Call} {m m' : Memory} (h : Answered c m m')
    (hwords : m.nextId < m'.nextId → m'.nextId ≤ Text.wordBound) (id : Nat) :
    m'.attachmentOf? id = m.attachmentOf? id ∨
      (∃ target, c = .attachVolume id target ∧ m.attachmentOf? id = none ∧
        m'.attachmentOf? id = some target) ∨
      c = .detachVolume id ∧ m'.attachmentOf? id = none :=
  (h.becomes hwords id).attachment

/-- Reads may hide an attachment, but they make none up. -/
theorem attachmentOf?_of_getVolume {m : Memory} {id n : Nat} {v : RemoteVolume}
    (h : (m.getVolume id).1 = .ok v) (hn : v.attachment = some n) :
    m.attachmentOf? id = some n := by
  obtain ⟨w, hw, hshown, -⟩ := getVolume_eq_ok h
  unfold attachmentOf?
  rw [hw]
  rcases hshown with rfl | rfl
  · exact hn
  · cases hn

theorem attachmentOf?_of_attachVolume {m : Memory} {id target : Nat} {v : RemoteVolume}
    (h : (m.attachVolume id target).1 = .ok v) :
    (m.attachVolume id target).2.attachmentOf? id = some target := by
  unfold attachVolume at h ⊢
  cases herror : m.attachError with
  | some e => simp [herror] at h
  | none =>
      by_cases hinstance : (m.instance? target).isNone
      · simp [herror, hinstance] at h
      · cases hu : m.volume? id with
        | none => simp [herror, hinstance, hu] at h
        | some u =>
            by_cases hfree : u.attachment.isSome
            · simp [herror, hinstance, hu, hfree] at h
            · rw [if_neg hinstance]
              dsimp only
              rw [if_neg hfree, attachmentOf?, volume?_putVolume, if_pos (id_of_volume? hu)]
              rfl

end Memory

end VolumePlugin.Cloud
