import VolumePlugin.Proofs.Controller.Provenance
import VolumePlugin.Proofs.Label

/-! # Names of requests and numbers of volumes

All that ties a volume to the name that it was asked for by is its label, and a label does not keep
the whole name. Two requests get one volume exactly if the labels of their names agree and the
volume is still there when the second request comes. -/

namespace VolumePlugin.Controller

open Cloud (Memory)
open Cloud.Memory (Answered Observed)
open Prog (Delivers Ensures)

/-! ## Whatever is asked -/

section Asking

variable {m m' m'' : Memory}

/-- What lasts is not up to the service: no call takes a label from a volume, or gives an identifier
out twice before they begin anew. -/
theorem Later.of_answered {c : Cloud.Call} (h : Answered c m m')
    (hwords : m'.nextId ≤ Text.wordBound) : Later m m' where
  kept id v v' hv hv' := by
    have hbecomes := h.becomes (fun _ => hwords) id
    rw [hv, hv'] at hbecomes
    cases hbecomes with
    | kept hlabel hregion hsize hattachment => exact ⟨hsize, hregion, hlabel⟩
    | attached target hc hfree => exact ⟨Nat.le_refl _, rfl, rfl⟩
    | detached hc => exact ⟨Nat.le_refl _, rfl, rfl⟩
  spent id hid hnone := by
    have hbecomes := h.becomes (fun _ => hwords) id
    rw [hnone] at hbecomes
    cases hv' : m'.volume? id with
    | none => rfl
    | some v' =>
        rw [hv'] at hbecomes
        cases hbecomes with
        | appeared hnext hfree => omega
  counter := h.counter

/-- A later moment of a provider that numbers its volumes. -/
structure Onward (m m' : Memory) : Prop where
  numbered : m'.Numbered
  counter : m.nextId ≤ m'.nextId
  later : m'.nextId ≤ Text.wordBound → Later m m'
  regards : m'.ignoresLabels = m.ignoresLabels

theorem Onward.refl (h : m.Numbered) : Onward m m :=
  ⟨h, Nat.le_refl _, fun _ => .refl m, rfl⟩

theorem Onward.trans (h : m.Numbered) (h' : Onward m m') (h'' : Onward m' m'') : Onward m m'' where
  numbered := h''.numbered
  counter := Nat.le_trans h'.counter h''.counter
  later hwords :=
    (h'.later (Nat.le_trans h''.counter hwords)).trans (h''.later hwords) h
  regards := h''.regards.trans h'.regards

/-- The induction is on the program, with one call at each question. -/
theorem ensures_onward {α : Type} (work : Prog Query.Answer α) (h : m.Numbered) :
    Ensures Answers work m fun _ m' => Onward m m' := by
  induction work generalizing m with
  | done a => exact .refl h
  | ask q next ih =>
      intro a m' ha
      have hanswered := ha.answered h
      refine (ih a hanswered.numbered).mono fun _ _ honward => ?_
      exact .trans h ⟨hanswered.numbered, hanswered.counter, .of_answered hanswered,
        hanswered.regards⟩ honward

theorem Arrival.outcome_onward (a : Arrival) (c : Controller) (h : m.Numbered) :
    Onward m (a.outcome c m).2 := by
  have hmeet : (a.meet m).Numbered := ⟨h.ordered, h.fresh⟩
  have honward := (ensures_onward (a.request.job c).run hmeet).run (answers_sound a.poller)
    (t := (a.timeline, a.meet m))
  refine ⟨honward.numbered, honward.counter, fun hwords => ?_, honward.regards⟩
  have hlater := honward.later hwords
  exact ⟨hlater.kept, hlater.spent, hlater.counter⟩

theorem after_onward (c : Controller) (arrivals : List Arrival) (h : m.Numbered) :
    Onward m (after c m arrivals) := by
  induction arrivals generalizing m with
  | nil => exact .refl h
  | cons a rest ih =>
      have hfirst := a.outcome_onward c h
      exact .trans h hfirst (ih hfirst.numbered)

end Asking

/-! ## The first volume with a label -/

section First

variable {m m' : Memory} {label : String} {id : Nat}

/-- The volume with an identifier is the first one with a label. -/
structure FirstLabelled (m : Memory) (name : String) (id : Nat) : Prop where
  label : m.labelOf? id = some name
  first : ∀ i, m.labelOf? i = some name → id ≤ i

theorem labelOf?_eq_some_iff (h : m.Ordered) :
    m.labelOf? id = some label ↔ ∃ v ∈ m.volumes, v.id = id ∧ v.label = label := by
  simp only [Memory.labelOf?, Option.map_eq_some_iff, Memory.volume?_eq_some_iff h, and_assoc]

theorem firstLabelled_iff (h : m.Ordered) :
    FirstLabelled m label id ↔ ∃ u, m.labelled? label = some u ∧ u.id = id := by
  simp only [h.labelled?_eq_some_iff]
  constructor
  · rintro ⟨hlabel, hfirst⟩
    obtain ⟨u, hmem, rfl, hulabel⟩ := (labelOf?_eq_some_iff h).mp hlabel
    refine ⟨u, ⟨hmem, hulabel, fun v hv hvlabel => ?_⟩, rfl⟩
    exact hfirst v.id ((labelOf?_eq_some_iff h).mpr ⟨v, hv, rfl, hvlabel⟩)
  · rintro ⟨u, ⟨hmem, hulabel, hleast⟩, rfl⟩
    refine ⟨(labelOf?_eq_some_iff h).mpr ⟨u, hmem, rfl, hulabel⟩, fun i hi => ?_⟩
    obtain ⟨v, hv, rfl, hvlabel⟩ := (labelOf?_eq_some_iff h).mp hi
    exact hleast v hv hvlabel

theorem not_firstLabelled (h : m.Ordered) (hnew : m.labelled? label = none) :
    ¬ FirstLabelled m label id := by
  rw [firstLabelled_iff h, hnew]
  rintro ⟨u, hu, -⟩
  cases hu

theorem FirstLabelled.unique {i : Nat} (hid : FirstLabelled m label id)
    (hi : FirstLabelled m label i) : id = i :=
  Nat.le_antisymm (hid.first i hi.label) (hi.first id hid.label)

/-- A volume has the label that it had, for as long as it is there. -/
theorem Later.labelOf?_eq (h : Later m m') {v v' : RemoteVolume} (hv : m.volume? id = some v)
    (hv' : m'.volume? id = some v') : m'.labelOf? id = m.labelOf? id := by
  obtain ⟨-, -, hlabel⟩ := h.kept id v v' hv hv'
  simp [Memory.labelOf?, hv, hv', hlabel]

/-- The first volume with a label is the first one for as long as it is there. Volumes that come
later have greater identifiers. -/
theorem FirstLabelled.later (hfirst : FirstLabelled m label id) (h : Later m m') (hm : m.Numbered)
    (hthere : (m'.volume? id).isSome) : FirstLabelled m' label id := by
  obtain ⟨v, hv, -⟩ := Option.map_eq_some_iff.mp hfirst.label
  obtain ⟨v', hv'⟩ := Option.isSome_iff_exists.mp hthere
  refine ⟨(h.labelOf?_eq hv hv').trans hfirst.label, fun i hi => ?_⟩
  by_contra hlt
  obtain ⟨w', hw', -⟩ := Option.map_eq_some_iff.mp hi
  cases hw : m.volume? i with
  | none =>
      have hspent := h.spent i (Nat.lt_trans (Nat.lt_of_not_le hlt) (hm.lt_nextId hv)) hw
      simp [hspent] at hw'
  | some w => exact hlt (hfirst.first i ((h.labelOf?_eq hw hw').symm.trans hi))

end First

/-! ## The volume that a request gets -/

section Showing

variable {α : Type} {m : Memory}

/-- Work that shows the volume that it comes to with the label that it has. -/
def Truthful (job : Job RemoteVolume) (m : Memory) : Prop :=
  Delivers Answers job m (fun v m' => m'.labelOf? v.id = some v.label) (fun _ _ => True)

namespace Truthful

theorem failed (e : CsiError) : Truthful (throw e) m := trivial

theorem ofExcept {result : Except CsiError α} {f : α → Job RemoteVolume}
    (hf : ∀ a, Truthful (f a) m) : Truthful (Job.ofExcept result >>= f) m :=
  delivers_ofExcept_bind (fun _ _ => trivial) fun a _ => hf a

theorem attempt (hm : m.Numbered) {c : Cloud.Call} {f : c.Answer → Job RemoteVolume}
    (hf : ∀ a m', Memory.Numbered m' → Truthful (f a) m') : Truthful (Job.attempt c >>= f) m := by
  unfold Truthful
  rw [Prog.delivers_bind, delivers_attempt]
  exact hf _ _ (Memory.answered hm c).numbered

theorem call (hm : m.Numbered) {c : Cloud.Call} {f : c.Result → Job RemoteVolume}
    (hf : ∀ a m', Memory.Numbered m' → Truthful (f a) m') : Truthful (Job.call c >>= f) m := by
  have hnumbered := (Memory.answered hm c).numbered
  unfold Truthful
  rw [Prog.delivers_bind, delivers_call]
  cases (Memory.answer c m).1 with
  | error e => trivial
  | ok a => exact hf a _ hnumbered

theorem waitActive (hm : m.Numbered) (id : Nat) :
    Delivers Answers (Job.waitActive id) m
      (fun v m' => m'.Numbered ∧ m'.labelOf? v.id = some v.label) (fun _ _ => True) := by
  refine (delivers_waitActive hm.ordered id).mono ?_ fun _ _ _ => trivial
  rintro v m' ⟨hread, w, hshown, -, hw⟩
  have hid : v.id = id := (hshown.congr fun _ => rfl).trans (Memory.id_of_volume? hw)
  have hlabel : v.label = w.label := hshown.congr fun _ => rfl
  refine ⟨hm.observed hread, ?_⟩
  rw [hid, hlabel, Memory.labelOf?, hw]
  rfl

theorem wait (hm : m.Numbered) (id : Nat) : Truthful (Job.waitActive id) m :=
  (waitActive hm id).mono (fun _ _ h => h.2) fun _ _ h => h

end Truthful

theorem truthful_cloneFrom (hm : m.Numbered) (w : Wanted) (handle : String) :
    Truthful (cloneFrom w handle) m := by
  apply Truthful.ofExcept
  intro key
  apply Truthful.attempt hm
  intro answer m₁ hm₁
  split
  · exact .failed _
  · apply Truthful.ofExcept
    intro _
    apply Truthful.call hm₁
    intro clone m₂ hm₂
    refine (Prog.delivers_bind ..).mpr ((Truthful.waitActive hm₂ clone.id).mono ?_ fun _ _ h => h)
    rintro volume m₃ ⟨hm₃, hlabel⟩
    split
    · exact hlabel
    · exact Truthful.call hm₃ fun _ m₄ hm₄ => .wait hm₄ volume.id

theorem truthful_obtain (hm : m.Numbered) (w : Wanted) (req : CreateVolumeRequest) :
    Truthful (obtain w req) m := by
  unfold obtain Truthful
  rw [Prog.delivers_bind, delivers_search]
  split
  · next existing hfound =>
      have hmem := Memory.mem_of_mem_page (List.mem_of_find?_eq_some hfound)
      apply Truthful.ofExcept
      intro _
      split
      · exact (labelOf?_eq_some_iff hm.ordered).mpr ⟨existing, hmem, rfl, rfl⟩
      · exact .wait hm existing.id
  · split
    · exact Truthful.failed _
    · exact truthful_cloneFrom hm w _
    · exact Truthful.call hm fun created m' hm' => .wait hm' created.id

theorem truthful_createVolume (c : Controller) (req : CreateVolumeRequest) (hm : m.Numbered) :
    Delivers Answers (c.createVolume req) m
      (fun response m' => ∃ v, response = described req v ∧ m'.labelOf? v.id = some v.label)
      (fun _ _ => True) := by
  unfold createVolume
  rw [Prog.delivers_bind, delivers_ofExcept]
  cases c.wanted req with
  | error e => trivial
  | ok w =>
      refine (Prog.delivers_bind ..).mpr ((truthful_obtain hm w req).mono ?_ fun _ _ h => h)
      exact fun v m' hlabel => ⟨v, rfl, hlabel⟩

end Showing

/-- What a request for a volume that succeeds has come to: the first volume with the label, which is
the one that was the first before, or else one that was made. -/
structure Granted (label : String) (req : CreateVolumeRequest) (m : Memory)
    (response : CreateVolumeResponse) (m' : Memory) (id : Nat) : Prop where
  volume : ∃ v, response = described req v ∧ handleOf v = VolumeKey.handle ⟨id, label⟩
  first : FirstLabelled m' label id
  found : ∀ i, FirstLabelled m label i → id = i
  made : (∀ i, ¬ FirstLabelled m label i) → id = m.newId ∧ m'.nextId = m.nextId + 1

theorem creation_granted {c : Controller} {req : CreateVolumeRequest} {p : Poller} {t : Timeline}
    {conditions : Conditions} {m : Memory} {response : CreateVolumeResponse} (hm : m.Numbered)
    (hregards : m.ignoresLabels = false)
    (hok : ((Arrival.creation req p t conditions).outcome c m).1 = .ok response) :
    ∃ id, Granted (Label.normalized req.name c.labelPrefix) req m response
      ((Arrival.creation req p t conditions).outcome c m).2 id := by
  let a : Arrival := .creation req p t conditions
  have hmeet : (a.meet m).Numbered := ⟨hm.ordered, hm.fresh⟩
  have hrecord := Arrival.outcome_of_recorded (a := a)
    (origin_createVolume c req hmeet.ordered hregards)
  have hshown := Arrival.outcome_of_delivers (a := a) (truthful_createVolume c req hmeet)
  rw [hok] at hrecord hshown
  obtain ⟨w, v, hw, rfl, horigin⟩ := hrecord
  obtain ⟨u, hu, hulabel⟩ := hshown
  obtain ⟨hid, hvlabel⟩ := same_of_described_eq hu
  rw [← hid, ← hvlabel] at hulabel
  have hwanted : v.label = w.label → handleOf v = VolumeKey.handle ⟨v.id, w.label⟩ := fun h =>
    h ▸ rfl
  rw [← (wanted_eq_ok hw).1]
  refine ⟨v.id, ?_⟩
  generalize (a.outcome c m).2 = m' at horigin hulabel ⊢
  cases horigin with
  | found i hfound hi hregion hsize hkept =>
      have hlabels : m'.labelOf? = m.labelOf? := hkept.labels
      have hbefore : FirstLabelled m w.label v.id :=
        (firstLabelled_iff hm.ordered).mpr ⟨i, hfound, hi.symm⟩
      have hlabel : v.label = w.label :=
        Option.some.inj (hulabel.symm.trans ((congrFun hlabels v.id).trans hbefore.label))
      refine ⟨⟨v, rfl, hwanted hlabel⟩, ?_, fun j hj => hbefore.unique hj, ?_⟩
      · exact ⟨hlabels ▸ hbefore.label, hlabels ▸ hbefore.first⟩
      · exact fun hnone => absurd hbefore (hnone v.id)
  | made call hnew hcall hi hadded =>
      have hlabels : m'.labelOf? = Function.update m.labelOf? m.newId (some w.label) :=
        hadded.labels
      have hnew : m.labelled? w.label = none := hnew
      have hi : v.id = m.newId := hi
      rw [hi, hlabels, Function.update_self] at hulabel
      refine ⟨⟨v, rfl, hwanted (Option.some.inj hulabel).symm⟩, ⟨?_, fun j hj => ?_⟩, ?_,
        fun _ => ⟨hi, hadded.counter⟩⟩
      · rw [hi, hlabels, Function.update_self]
      · by_contra hlt
        rw [hlabels, Function.update_of_ne fun heq => hlt (Nat.le_of_eq (hi.trans heq.symm))] at hj
        obtain ⟨x, hx, -, hxlabel⟩ := (labelOf?_eq_some_iff hm.ordered).mp hj
        exact Memory.labelled?_eq_none_iff.mp hnew x hx hxlabel
      · exact fun j hj => absurd hj (not_firstLabelled hm.ordered hnew)

/-! ## Two requests -/

section Two

variable {label label' : String} {req req' : CreateVolumeRequest} {m m' m₁ m₂ : Memory}
  {response response' : CreateVolumeResponse} {id id' : Nat}

/-- The second request comes when the first one has been granted, at any later moment. -/
theorem Granted.id_eq_iff (h : Granted label req m response m₁ id) (hm₁ : m₁.Numbered)
    (h' : Granted label' req' m₂ response' m' id') (hbetween : Onward m₁ m₂)
    (hcounter : m₂.nextId ≤ m'.nextId) (hwords : m'.nextId ≤ Text.wordBound) :
    id = id' ↔ label = label' ∧ (m₂.volume? id).isSome := by
  have hlater := hbetween.later (Nat.le_trans hcounter hwords)
  obtain ⟨v, hv, hvlabel⟩ := Option.map_eq_some_iff.mp h.first.label
  have hlt : id < m₂.nextId := Nat.lt_of_lt_of_le (hm₁.lt_nextId hv) hlater.counter
  constructor
  · rintro rfl
    by_cases hsome : ∃ i, FirstLabelled m₂ label' i
    · obtain ⟨i, hi⟩ := hsome
      obtain rfl := h'.found i hi
      obtain ⟨v', hv', -⟩ := Option.map_eq_some_iff.mp hi.label
      have hsame := (hlater.labelOf?_eq hv hv').symm.trans hi.label
      rw [h.first.label] at hsame
      exact ⟨Option.some.inj hsame, Option.isSome_of_mem hv'⟩
    · -- A volume that is made for the second request gets an identifier of its own.
      obtain ⟨hid, hmade⟩ := h'.made (not_exists.mp hsome)
      have hnew : m₂.newId = m₂.nextId := Memory.newId_of_lt (by omega)
      omega
  · rintro ⟨rfl, hthere⟩
    exact (h'.found id (h.first.later hlater hm₁ hthere)).symm

end Two

/-- Two requests for volumes that succeed, with any other requests before them and between them, as
long as identifiers do not begin anew. Their answers carry one handle exactly if labels keep the
same part of both names and the volume of the first answer is still there when the second request
comes. -/
theorem handles_over_run (c : Controller) {m : Memory} (h : m.Numbered)
    (hregards : m.ignoresLabels = false) (past between : List Arrival)
    (req req' : CreateVolumeRequest) (p p' : Poller) (t t' : Timeline)
    (conditions conditions' : Conditions) {response response' : CreateVolumeResponse}
    (hok : ((Arrival.creation req p t conditions).outcome c (after c m past)).1 = .ok response)
    (hok' : ((Arrival.creation req' p' t' conditions').outcome c
      (after c m (past ++ .creation req p t conditions :: between))).1 = .ok response')
    (hwords : ((Arrival.creation req' p' t' conditions').outcome c
      (after c m (past ++ .creation req p t conditions :: between))).2.nextId ≤ Text.wordBound) :
    ∃ d d' id, response.volume = some d ∧ response'.volume = some d' ∧
      d.volumeId = VolumeKey.handle ⟨id, Label.normalized req.name c.labelPrefix⟩ ∧
      (d.volumeId = d'.volumeId ↔
        Label.kept req.name c.labelPrefix = Label.kept req'.name c.labelPrefix ∧
          ((after c m (past ++ .creation req p t conditions :: between)).volume? id).isSome) := by
  have hpast := after_onward c past h
  obtain ⟨id, hgranted⟩ := creation_granted hpast.numbered (hpast.regards.trans hregards) hok
  have hfirst := Arrival.outcome_onward (.creation req p t conditions) c hpast.numbered
  have hbetween := after_onward c between hfirst.numbered
  rw [after_append, after_cons] at hok' hwords ⊢
  have hregards' := (hbetween.regards.trans hfirst.regards).trans (hpast.regards.trans hregards)
  obtain ⟨id', hgranted'⟩ := creation_granted hbetween.numbered hregards' hok'
  obtain ⟨v, rfl, hhandle⟩ := hgranted.volume
  obtain ⟨v', rfl, hhandle'⟩ := hgranted'.volume
  have hsecond := Arrival.outcome_onward (.creation req' p' t' conditions') c hbetween.numbered
  have hiff := hgranted.id_eq_iff hfirst.numbered hgranted' hbetween hsecond.counter hwords
  refine ⟨_, _, id, rfl, rfl, hhandle, ?_⟩
  dsimp only
  rw [← Label.normalized_eq_iff, ← hiff, hhandle, hhandle', VolumeKey.handle_inj,
    VolumeKey.mk.injEq]
  exact and_iff_left_of_imp fun hid => (hiff.mp hid).1

def dataResponse : CreateVolumeResponse where
  volume := some {
    capacityBytes := 10737418240
    volumeId := "100-data"
    accessibleTopology :=
      [{ segments := ⟨[("topology.blockcsi.rk8s.io/region", "us-east")]⟩ }] }

def blankResponse : CreateVolumeResponse where
  volume := some {
    capacityBytes := 21474836480
    volumeId := "101-pvc1"
    accessibleTopology :=
      [{ segments := ⟨[("topology.blockcsi.rk8s.io/region", "us-east")]⟩ }] }

theorem handles_of_data_and_copy :
    ∃ d d' id, dataResponse.volume = some d ∧ blankResponse.volume = some d' ∧
      d.volumeId = VolumeKey.handle ⟨id, Label.normalized "data" none⟩ ∧
      (d.volumeId = d'.volumeId ↔ Label.kept "data" none = Label.kept "pvc-1" none ∧
        ((after eastern {} [arrive dataRequest]).volume? id).isSome) :=
  handles_over_run eastern (.of_empty rfl) rfl [] [] dataRequest blankRequest
    ⟨10, 100, false, 0⟩ ⟨10, 100, false, 0⟩ {} {} ⟨100, .active, none, 0⟩ ⟨100, .active, none, 0⟩
    (by decide +kernel) (by decide +kernel) (by decide +kernel)

/-- The request for the blank volume again, but for the hyphen in its name. -/
def hyphenlessRequest : CreateVolumeRequest :=
  { blankRequest with name := "pvc1" }

/-- Requests with different names are granted one volume. -/
theorem names_share_handle :
    blankRequest.name ≠ hyphenlessRequest.name ∧
      ∃ response, ((arrive blankRequest).outcome eastern {}).1 = .ok response ∧
        ((arrive hyphenlessRequest).outcome eastern (after eastern {} [arrive blankRequest])).1 =
          .ok response ∧
        ((after eastern {} [arrive blankRequest]).volume? 100).isSome ∧
        response.volume.map (·.volumeId) = some "100-pvc1" := by
  refine ⟨by decide, described blankRequest
    ⟨100, "pvc1", 20, "us-east", .active, none, Memory.devicePath "pvc1", []⟩, ?_⟩
  decide +kernel

end VolumePlugin.Controller
