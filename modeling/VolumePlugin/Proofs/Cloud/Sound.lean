import VolumePlugin.Proofs.Cloud.Calls

/-! # What the provider in memory can rely on

The provider itself takes two volumes of one label. That there are none is due to the service, which
looks for the label before it makes a volume, so calls that make volumes come with a hypothesis. -/

namespace VolumePlugin.Cloud.Memory

/-- Identifiers are in order and were given out by the provider, labels are distinct, attachments
name instances that exist, and listings regard labels. -/
structure Sound (m : Memory) : Prop where
  ordered : m.Ordered
  fresh : ∀ v ∈ m.volumes, v.id < m.nextId
  labels : (m.volumes.map (·.label)).Nodup
  attached : ∀ v ∈ m.volumes, ∀ n, v.attachment = some n → (m.instance? n).isSome
  regards : m.ignoresLabels = false

theorem Sound.numbered {m : Memory} (h : m.Sound) : m.Numbered :=
  ⟨h.ordered, h.fresh⟩

theorem Sound.volume?_nextId {m : Memory} (h : m.Sound) {id : Nat} (hid : m.nextId ≤ id) :
    m.volume? id = none :=
  h.numbered.volume?_of_le hid

theorem Sound.lt_nextId {m : Memory} (h : m.Sound) {id : Nat} {v : RemoteVolume}
    (hv : m.volume? id = some v) : id < m.nextId :=
  h.numbered.lt_nextId hv

theorem Sound.observed {m m' : Memory} (h : m.Sound) (ho : Observed m m') : m'.Sound := by
  obtain ⟨read, n, rfl⟩ := ho
  refine ⟨Observed.ordered ⟨read, n, rfl⟩ h.ordered, ?_, ?_, ?_, h.regards⟩
  · simpa using h.fresh
  · simpa [Function.comp_def] using h.labels
  · intro v hv k hk
    obtain ⟨u, hu, rfl⟩ := List.mem_map.mp hv
    exact h.attached u hu k (by simpa using hk)

/-- A volume may change in place if it keeps its label and is attached only to what exists. -/
theorem Sound.putVolume {m : Memory} (h : m.Sound) {v w : RemoteVolume}
    (hw : m.volume? v.id = some w) (hlabel : v.label = w.label)
    (hattached : ∀ n, v.attachment = some n → (m.instance? n).isSome) : (m.putVolume v).Sound := by
  obtain ⟨hmem, hid⟩ := (volume?_eq_some_iff h.ordered).mp hw
  have hplace : ∀ u ∈ (m.putVolume v).volumes, u = v ∨ u ∈ m.volumes := by
    intro u hu
    exact ((h.ordered.mem_putVolume v u).mp hu).imp_right And.left
  refine ⟨h.ordered.putVolume v, ?_, ?_, ?_, h.regards⟩
  · intro u hu
    rcases hplace u hu with rfl | hu
    · exact h.lt_nextId hw
    · exact h.fresh u hu
  · have hlabels : (m.putVolume v).volumes.map (·.label) = m.volumes.map (·.label) := by
      rw [h.ordered.putVolume_eq_map hw, List.map_map]
      apply List.map_congr_left
      intro u hu
      by_cases hu' : u.id = v.id
      · obtain rfl : u = w := h.ordered.eq_of_id hu hmem (hu'.trans hid.symm)
        simp [hu', hlabel]
      · simp [hu']
    rw [hlabels]
    exact h.labels
  · intro u hu n hn
    rcases hplace u hu with rfl | hu
    · exact hattached n hn
    · exact h.attached u hu n hn

/-- A volume may be added if its label is new. -/
theorem Sound.addVolume {m : Memory} (h : m.Sound) {make : Nat → RemoteVolume}
    (hid : (make m.newId).id = m.newId) (hlabel : m.labelled? (make m.newId).label = none)
    (hattached : (make m.newId).attachment = none) : (m.addVolume make).2.Sound := by
  have hnumbered := h.numbered.addVolume hid
  have hplace : ∀ v ∈ (m.addVolume make).2.volumes, v = make m.newId ∨ v ∈ m.volumes := by
    intro v hv
    exact ((h.ordered.mem_putVolume _ v).mp hv).imp_right And.left
  have hother := labelled?_eq_none_iff.mp hlabel
  refine ⟨hnumbered.ordered, hnumbered.fresh, ?_, ?_, h.regards⟩
  · refine List.Nodup.map_on ?_ (hnumbered.ordered.imp fun hlt heq => ?_)
    · intro v hv w hw heq
      rcases hplace v hv with rfl | hv <;> rcases hplace w hw with rfl | hw
      · rfl
      · exact absurd heq.symm (hother w hw)
      · exact absurd heq (hother v hv)
      · exact List.inj_on_of_nodup_map h.labels hv hw heq
    · exact Nat.lt_irrefl _ (heq ▸ hlt)
  · intro v hv n hn
    rcases hplace v hv with rfl | hv
    · simp [hattached] at hn
    · exact h.attached v hv n hn

theorem Sound.dropVolume {m : Memory} (h : m.Sound) (id : Nat) : (m.dropVolume id).Sound where
  ordered := List.Pairwise.filter _ h.ordered
  fresh v hv := h.fresh v (List.mem_filter.mp hv).1
  labels := h.labels.sublist (List.Sublist.map _ List.filter_sublist)
  attached v hv := h.attached v (List.mem_filter.mp hv).1
  regards := h.regards

end VolumePlugin.Cloud.Memory
