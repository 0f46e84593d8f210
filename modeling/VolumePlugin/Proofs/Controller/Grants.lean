import VolumePlugin.Proofs.Capacity
import VolumePlugin.Proofs.Controller.Creation
import VolumePlugin.Proofs.Controller.Expansion

/-! # The capacity that is granted

Whoever asks for a volume, or for a larger one, is told the bytes of the size that the provider has
for it in the end, however the volume came to that size. -/

namespace VolumePlugin.Controller

open Cloud (Memory)
open Cloud.Memory (Observed Shown reread settle)
open Prog (Delivers)

theorem expandedSize_eq_ok {req : ControllerExpandVolumeRequest} {size : Nat}
    (h : expandedSize req = .ok size) : Capacity.resolve req.capacityRange = .ok size := by
  unfold expandedSize at h
  rw [except_bind_eq_ok] at h
  obtain ⟨-, -, h⟩ := h
  cases hrange : req.capacityRange with
  | none => simp [hrange, throw, throwThe, MonadExceptOf.throw] at h
  | some range =>
      rw [hrange] at h
      exact except_mapError_eq_ok.mp h

/-! ## Volumes and their sizes -/

/-- The provider has the volume that it showed, at the size that it showed. -/
structure Stored (v : RemoteVolume) (m : Memory) : Prop where
  ordered : m.Ordered
  there : ∃ u, m.volume? v.id = some u ∧ u.label = v.label ∧ u.size = v.size

theorem stored_of_mem {m : Memory} (h : m.Ordered) {v : RemoteVolume} (hv : v ∈ m.volumes) :
    Stored v m :=
  ⟨h, v, (Memory.volume?_eq_some_iff h).mpr ⟨hv, rfl⟩, rfl, rfl⟩

theorem shown_same {v w : RemoteVolume} (h : Shown v w) :
    v.id = w.id ∧ v.label = w.label ∧ v.size = w.size :=
  ⟨h.congr fun _ => rfl, h.congr fun _ => rfl, h.congr fun _ => rfl⟩

/-- A read of a volume shows the size that the provider has for it, and goes on to have. -/
theorem delivers_existingVolume {m : Memory} (h : m.Ordered) (handle : String) :
    Delivers Answers (existingVolume handle) m
      (fun v m' => Stored v m' ∧ v.id = volumeNumber handle) (fun _ _ => True) := by
  unfold existingVolume
  rw [Prog.delivers_bind, delivers_attempt, Memory.answer]
  cases hget : (m.getVolume (volumeNumber handle)).1 with
  | error e => trivial
  | ok v =>
      obtain ⟨w, hw, hshown, hafter⟩ := Memory.getVolume_eq_ok hget
      obtain ⟨hid, hlabel, hsize⟩ := shown_same hshown
      have hnumber : v.id = volumeNumber handle := hid.trans (Memory.id_of_volume? hw)
      have hordered := (Observed.getVolume h (volumeNumber handle)).ordered h
      exact ⟨⟨hordered, settle w, hnumber ▸ hafter, hlabel.symm, hsize.symm⟩, hnumber⟩

theorem delivers_waitStored {m : Memory} (h : m.Ordered) {id : Nat} {u : RemoteVolume}
    (hu : m.volume? id = some u) :
    Delivers Answers (Job.waitActive id) m
      (fun v m' => Stored v m' ∧ v.id = id ∧ v.size = u.size) (fun _ _ => True) := by
  refine (delivers_waitActive h id).mono ?_ fun _ _ _ => trivial
  rintro v m' ⟨hread, w, hshown, -, hw⟩
  obtain ⟨read, hafter⟩ := hread.volume? id
  rw [hu] at hafter
  obtain rfl : w = reread read u := Option.some.inj (hw.symm.trans hafter)
  obtain ⟨hid, hlabel, hsize⟩ := shown_same hshown
  have hnumber : v.id = id := hid.trans (Memory.id_of_volume? hw)
  have hstored : Stored v m' :=
    ⟨hread.ordered h, reread read u, hnumber ▸ hw, hlabel.symm, hsize.symm⟩
  exact ⟨hstored, hnumber, hsize.trans (Memory.reread_size read u)⟩

/-- A resize that is granted leaves the volume at the new size. -/
theorem delivers_resizeVolume {m : Memory} (h : m.Ordered) (id size : Nat) :
    Delivers Answers (Job.call (.resizeVolume id size)) m
      (fun _ m' => m'.Ordered ∧ ∃ u, m'.volume? id = some u ∧ u.size = size)
      (fun _ _ => True) := by
  rw [delivers_call, Memory.answer]
  unfold Memory.resizeVolume
  cases hv : m.volume? id with
  | none => trivial
  | some v =>
      by_cases hlarge : size < v.size
      · simp [hlarge]
      · let larger : RemoteVolume := { v with size := size, status := .resizing }
        have hput : (m.putVolume larger).volume? id = some larger := by
          simp [larger, Memory.id_of_volume? hv]
        simp only [hlarge, if_false, Prog.either_ok]
        exact ⟨h.putVolume larger, larger, hput, rfl⟩

/-! ## New volumes -/

theorem delivers_reuse {m : Memory} (h : m.Ordered) (w : Wanted) {v : RemoteVolume}
    (hv : v ∈ m.volumes) :
    Delivers Answers (reuse w v) m
      (fun u m' => Stored u m' ∧ u.id = v.id ∧ u.size = w.size) (fun _ _ => True) := by
  unfold reuse
  refine delivers_ofExcept_bind (fun _ _ => trivial) fun a hcheck => ?_
  have hsize := (checkExisting_eq_ok hcheck).2
  split
  · exact ⟨stored_of_mem h hv, rfl, hsize⟩
  · rw [← hsize]
    exact delivers_waitStored h ((Memory.volume?_eq_some_iff h).mpr ⟨hv, rfl⟩)

theorem volume?_addVolume (m : Memory) (make : Nat → RemoteVolume) :
    (m.addVolume make).2.volume? (make m.newId).id = some (make m.newId) :=
  (Memory.volume?_putVolume m _ _).trans (if_pos rfl)

theorem ordered_addVolume {m : Memory} (h : m.Ordered) (make : Nat → RemoteVolume) :
    (m.addVolume make).2.Ordered :=
  h.putVolume (make m.newId)

theorem delivers_createBlank {m : Memory} (h : m.Ordered) (w : Wanted) (parameters : Attributes) :
    Delivers Answers (createBlank w parameters) m
      (fun u m' => Stored u m' ∧ u.id = m.newId ∧ u.size = w.size) (fun _ _ => True) := by
  unfold createBlank
  let o : CreateOptions := ⟨w.label, w.region, w.size, volumeTags parameters⟩
  rw [Prog.delivers_bind, delivers_call, Memory.answer, Memory.createVolume_eq m o]
  exact delivers_waitStored (ordered_addVolume h _) (volume?_addVolume m (m.blank o))

theorem delivers_cloneFrom {m : Memory} (h : m.Ordered) (w : Wanted) (handle : String) :
    Delivers Answers (cloneFrom w handle) m
      (fun u m' => Stored u m' ∧ u.id = m.newId ∧ u.size = w.size) (fun _ _ => True) := by
  unfold cloneFrom
  refine delivers_ofExcept_bind (fun _ _ => trivial) fun key _ => ?_
  rw [Prog.delivers_bind, delivers_attempt, Memory.answer]
  cases hget : (m.getVolume key.volume).1 with
  | error e => trivial
  | ok origin =>
      obtain ⟨s, hs, hshown, hafter⟩ := Memory.getVolume_eq_ok hget
      have hid : origin.id = key.volume := (shown_same hshown).1.trans (Memory.id_of_volume? hs)
      obtain ⟨read, n, hread⟩ := Observed.getVolume h key.volume
      have hordered := Observed.ordered ⟨read, n, hread⟩ h
      have hnext : (m.getVolume key.volume).2.newId = m.newId := by rw [hread]; rfl
      dsimp only
      generalize (m.getVolume key.volume).2 = m₁ at hafter hordered hnext ⊢
      refine delivers_ofExcept_bind (fun _ _ => trivial) fun _ _ => ?_
      rw [Prog.delivers_bind, delivers_call, Memory.answer, hid, Memory.cloneVolume_eq hafter]
      let make := m₁.copy (settle s) w.label
      refine (delivers_waitStored (ordered_addVolume hordered make)
        (volume?_addVolume m₁ make)).seq fun v m₂ hv => ?_
      obtain ⟨hstored, hclone, -⟩ := hv
      have hnumber : v.id = m.newId := hclone.trans hnext
      split
      next hsize => exact ⟨hstored, hnumber, hsize⟩
      · refine (delivers_resizeVolume hstored.ordered v.id w.size).seq fun _ m₃ hresized => ?_
        obtain ⟨hordered₃, larger, hlarger, hsize⟩ := hresized
        rw [← hsize, ← hnumber]
        exact delivers_waitStored hordered₃ hlarger

theorem delivers_obtain {m : Memory} (h : m.Ordered)
    (hwords : ∀ v ∈ m.volumes, v.id < Text.wordBound) (w : Wanted) (req : CreateVolumeRequest) :
    Delivers Answers (obtain w req) m
      (fun u m' => Stored u m' ∧ u.id < Text.wordBound ∧ u.size = w.size) (fun _ _ => True) := by
  unfold obtain
  rw [Prog.delivers_bind, delivers_search]
  split
  next existing hfound =>
    have hmem : existing ∈ m.volumes := Memory.mem_of_mem_page (List.mem_of_find?_eq_some hfound)
    refine (delivers_reuse h w hmem).mono ?_ fun _ _ _ => trivial
    rintro u m' ⟨hstored, hid, hsize⟩
    exact ⟨hstored, hid ▸ hwords existing hmem, hsize⟩
  next =>
    have hnew : ∀ u m', Stored u m' ∧ u.id = m.newId ∧ u.size = w.size →
        Stored u m' ∧ u.id < Text.wordBound ∧ u.size = w.size := by
      rintro u m' ⟨hstored, hid, hsize⟩
      exact ⟨hstored, hid ▸ m.newId_lt, hsize⟩
    split
    · trivial
    · exact (delivers_cloneFrom h w _).mono hnew fun _ _ _ => trivial
    · exact (delivers_createBlank h w req.parameters).mono hnew fun _ _ _ => trivial

theorem delivers_created (c : Controller) (req : CreateVolumeRequest) {m : Memory}
    (h : m.Ordered) (hwords : ∀ v ∈ m.volumes, v.id < Text.wordBound) :
    Delivers Answers (c.createVolume req) m
      (fun response m' => ∃ v, Stored v m' ∧ v.id < Text.wordBound ∧
        Capacity.resolve req.capacityRange = .ok v.size ∧ response = described req v)
      (fun _ _ => True) := by
  unfold createVolume
  refine delivers_ofExcept_bind (fun _ _ => trivial) fun w hw => ?_
  refine (delivers_obtain h hwords w req).seq ?_
  rintro v m' ⟨hstored, hword, hsize⟩
  exact ⟨v, hstored, hword, hsize ▸ (wanted_eq_ok hw).2.2, rfl⟩

theorem delivers_expandVolume (req : ControllerExpandVolumeRequest) {m : Memory} (h : m.Ordered) :
    Delivers Answers (expandVolume req) m
      (fun response m' => ∃ v, m'.volume? (volumeNumber req.volumeId) = some v ∧
        Capacity.resolve req.capacityRange = .ok v.size ∧
        response.capacityBytes = Capacity.reported v.size) (fun _ _ => True) := by
  unfold expandVolume
  refine delivers_ofExcept_bind (fun _ _ => trivial) fun size hsize => ?_
  have hrange := expandedSize_eq_ok hsize
  dsimp only
  refine (delivers_existingVolume h req.volumeId).seq ?_
  rintro v m' ⟨⟨hordered, u, hu, -, hshown⟩, hid⟩
  rw [hid] at hu
  by_cases hshrink : size < v.size
  · rw [if_pos hshrink]
    trivial
  · rw [if_neg hshrink]
    by_cases hgrow : v.size < size
    · rw [if_pos hgrow]
      refine (delivers_resizeVolume hordered _ size).seq ?_
      rintro _ m₁ ⟨hordered₁, larger, hlarger, hresized⟩
      refine (delivers_waitStored hordered₁ hlarger).seq ?_
      rintro shown m₂ ⟨⟨-, w, hw, -, hsame⟩, hid₂, hsize₂⟩
      obtain rfl : w.size = size := by omega
      exact ⟨w, hid₂ ▸ hw, hrange, rfl⟩
    · rw [if_neg hgrow]
      obtain rfl : u.size = size := by omega
      exact ⟨u, hu, hrange, rfl⟩

/-- However a volume comes to be as large as a request wants it, the answer reports the bytes of the
size that the provider has for it afterwards, and this size is one that the request admits. -/
theorem capacity_granted (c : Controller) {m m' : Memory} (hordered : m.Ordered)
    (hwords : ∀ v ∈ m.volumes, v.id < Text.wordBound) (p : Poller) (t t' : Timeline) :
    (∀ req response,
      (c.createVolume req).run.run (answerQuery p Memory.answer) (t, m) =
        (.ok response, (t', m')) →
      ∃ v d, response.volume = some d ∧ VolumeKey.parse d.volumeId = .ok ⟨v.id, v.label⟩ ∧
        m'.volume? v.id = some v ∧
        Capacity.Honours req.capacityRange v.size d.capacityBytes) ∧
    ∀ req response,
      (expandVolume req).run.run (answerQuery p Memory.answer) (t, m) =
        (.ok response, (t', m')) →
      ∃ v, m'.volume? (volumeNumber req.volumeId) = some v ∧
        Capacity.Honours req.capacityRange v.size response.capacityBytes := by
  constructor
  · intro req response hrun
    have houtcome :=
      (delivers_created c req hordered hwords).run (answers_sound p) (t := (t, m))
    rw [hrun] at houtcome
    obtain ⟨shown, ⟨-, v, hv, hlabel, hsame⟩, hword, hsize, rfl⟩ := houtcome
    have hid := Memory.id_of_volume? hv
    have hparse := @VolumeKey.parse_handle ⟨shown.id, shown.label⟩ hword
    refine ⟨v, _, rfl, ?_, hid ▸ hv, ?_⟩
    · rw [hid, hlabel]
      exact hparse
    · rw [hsame]
      exact Capacity.honours_of_resolve hsize
  · intro req response hrun
    have houtcome := (delivers_expandVolume req hordered).run (answers_sound p) (t := (t, m))
    rw [hrun] at houtcome
    obtain ⟨v, hv, hsize, hreported⟩ := houtcome
    exact ⟨v, hv, hreported ▸ Capacity.honours_of_resolve hsize⟩

/-- The provider when its volume has been made twice as large. -/
def providerWithDoubled : Memory :=
  { slowProvider with
    volumes := [⟨100, "data", 20, "us-east", .active, none, Memory.devicePath "data", []⟩] }

theorem doubling_run :
    (expandVolume doubling).run.run (answerQuery ⟨10, 100, false, 0⟩ Memory.answer)
        ({}, slowProvider) = (.ok ⟨21474836480, true⟩, ({ now := 10 }, providerWithDoubled)) := by
  decide +kernel

theorem capacity_granted_twice :
    (∃ v d, copyResponse.volume = some d ∧ VolumeKey.parse d.volumeId = .ok ⟨v.id, v.label⟩ ∧
      providerWithCopy.volume? v.id = some v ∧
      Capacity.Honours copyRequest.capacityRange v.size d.capacityBytes) ∧
    ∃ v, providerWithDoubled.volume? (volumeNumber doubling.volumeId) = some v ∧
      Capacity.Honours doubling.capacityRange v.size 21474836480 :=
  ⟨(capacity_granted ⟨"us-east", none⟩ slowProvider_regular.ordered slowProvider_regular.words
      ⟨10, 100, false, 0⟩ {} { now := 20 }).1 copyRequest copyResponse copyRequest_run,
    (capacity_granted ⟨"us-east", none⟩ slowProvider_regular.ordered slowProvider_regular.words
      ⟨10, 100, false, 0⟩ {} { now := 10 }).2 doubling _ doubling_run⟩

end VolumePlugin.Controller
