import VolumePlugin.Proofs.Capacity
import VolumePlugin.Proofs.Cloud.Sound
import VolumePlugin.Proofs.Controller.Answers
import VolumePlugin.Proofs.Except
import VolumePlugin.Proofs.Handle

/-! # Making volumes

However a request for a volume comes to its volume, in the end the volume is ready for use and the
first one with its label. Who asks again finds it there, so asking again is a look at a list. A
request that gives up waiting leaves a volume behind too, which need not be finished. -/

namespace VolumePlugin.Controller

open Cloud (Memory)
open Cloud.Memory (Observed Shown reread settle)
open Prog (Delivers)

/-! ## The provider while a volume is made -/

/-- What holds of the provider whatever it is asked: volumes are in order, listings regard labels,
and identifiers are machine words. -/
structure Regular (m : Memory) : Prop where
  ordered : m.Ordered
  regards : m.ignoresLabels = false
  words : ∀ v ∈ m.volumes, v.id < Text.wordBound

theorem Regular.observed {m m' : Memory} (h : Regular m) (ho : Observed m m') : Regular m' := by
  refine ⟨ho.ordered h.ordered, ?_, ?_⟩
  · obtain ⟨read, n, rfl⟩ := ho
    exact h.regards
  · obtain ⟨read, n, rfl⟩ := ho
    simpa using h.words

theorem Regular.putVolume {m : Memory} (h : Regular m) {v : RemoteVolume}
    (hv : v.id < Text.wordBound) : Regular (m.putVolume v) := by
  refine ⟨h.ordered.putVolume v, h.regards, ?_⟩
  intro u hu
  rcases (h.ordered.mem_putVolume v u).mp hu with rfl | ⟨hu, -⟩
  · exact hv
  · exact h.words u hu

theorem Regular.addVolume {m : Memory} (h : Regular m) (make : Nat → RemoteVolume)
    (hid : (make m.newId).id < Text.wordBound) : Regular (m.addVolume make).2 :=
  have hput := h.putVolume hid
  ⟨hput.ordered, hput.regards, hput.words⟩

/-- The wanted volume is there, ready for use, and the first one with its label. -/
structure Ready (w : Wanted) (m : Memory) (v : RemoteVolume) : Prop where
  regular : Regular m
  first : m.labelled? w.label = some v
  active : v.status = .active
  region : v.region = w.region
  size : v.size = w.size

/-- The failures that waits end with, and nothing else does. -/
inductive GaveUp : CsiError → Prop where
  | timeout (action : String) (volume : Nat) : GaveUp (.timeout action volume)
  | unavailable (detail : String) : GaveUp (.unavailable detail)

/-- A job that comes to the wanted volume if it succeeds. If it gives up waiting, the first volume
with the label is one that it has begun with. -/
def Provides (w : Wanted) (begun : RemoteVolume → Prop) (job : Job RemoteVolume) (m : Memory) :
    Prop :=
  Delivers Answers job m (fun v m' => ∃ u, Shown v u ∧ Ready w m' u)
    (fun e m' => GaveUp e → ∃ u, Regular m' ∧ m'.labelled? w.label = some u ∧ begun u)

/-! ## Waiting for the volume with a label -/

theorem delivers_waitFirst {m : Memory} (h : Regular m) {label : String} {u : RemoteVolume}
    (hu : m.labelled? label = some u) :
    Delivers Answers (Job.waitActive u.id) m
      (fun v m' => ∃ u', Shown v u' ∧ Regular m' ∧ m'.labelled? label = some u' ∧
        u'.status = .active ∧ u'.id = u.id ∧ u'.region = u.region ∧ u'.size = u.size)
      (fun _ m' => ∃ read, Regular m' ∧ m'.labelled? label = some (reread read u)) := by
  apply (delivers_waitActive h.ordered u.id).mono
  · rintro v m' ⟨hread, u', hshown, hactive, hu'⟩
    obtain ⟨hfirst, hid, hregion, hsize⟩ := hread.labelled?_of_volume? h.ordered hu hu'
    exact ⟨u', hshown, h.observed hread, hfirst, hactive, hid, hregion, hsize⟩
  · rintro e m' hread
    obtain ⟨read, hfirst⟩ := hread.labelled? label
    rw [hu] at hfirst
    exact ⟨read, h.observed hread, hfirst⟩

variable {begun : RemoteVolume → Prop}

theorem provides_waitActive {m : Memory} (h : Regular m) {w : Wanted} {u : RemoteVolume}
    (hu : m.labelled? w.label = some u) (hregion : u.region = w.region) (hsize : u.size = w.size)
    (hbegun : ∀ read, begun (reread read u)) : Provides w begun (Job.waitActive u.id) m := by
  apply (delivers_waitFirst h hu).mono
  · rintro v m' ⟨u', hshown, hregular, hfirst, hactive, -, hregion', hsize'⟩
    exact ⟨u', hshown, hregular, hfirst, hactive, hregion'.trans hregion, hsize'.trans hsize⟩
  · rintro e m' ⟨read, hregular, hfirst⟩ -
    exact ⟨_, hregular, hfirst, hbegun read⟩

/-! ## Checks

No check takes time, so none fails because the service gave up waiting. -/

section Checks

variable {α β : Type}

/-- What fails at once, if it fails. -/
def Prompt (x : Except CsiError α) : Prop :=
  ∀ e, x = .error e → ¬ GaveUp e

theorem prompt_ok (a : α) : Prompt (.ok a) := nofun

theorem prompt_invalidArgument (detail : String) :
    Prompt (.error (.invalidArgument detail) : Except CsiError α) := by
  rintro e ⟨⟩
  exact nofun

theorem prompt_volumeAlreadyExists (detail : String) :
    Prompt (.error (.volumeAlreadyExists detail) : Except CsiError α) := by
  rintro e ⟨⟩
  exact nofun

theorem Prompt.bind {x : Except CsiError α} {f : α → Except CsiError β} (hx : Prompt x)
    (hf : ∀ a, Prompt (f a)) : Prompt (x >>= f) := by
  cases x with
  | error e =>
      rintro e' ⟨⟩
      exact hx e rfl
  | ok a => exact hf a

theorem Prompt.ite {c : Prop} [Decidable c] {x y : Except CsiError α} (hx : Prompt x)
    (hy : Prompt y) : Prompt (if c then x else y) := by
  split
  · exact hx
  · exact hy

theorem Prompt.forM {f : α → Except CsiError PUnit} (hf : ∀ a, Prompt (f a)) (l : List α) :
    Prompt (l.forM f) := by
  induction l with
  | nil => exact prompt_ok _
  | cons a rest ih => exact (hf a).bind fun _ => ih

theorem prompt_checkExisting (w : Wanted) (v : RemoteVolume) : Prompt (checkExisting w v) :=
  (prompt_volumeAlreadyExists _).ite ((prompt_volumeAlreadyExists _).ite (prompt_ok _))

theorem prompt_checkSource (w : Wanted) (source : RemoteVolume) : Prompt (checkSource w source) :=
  (prompt_invalidArgument _).ite ((prompt_invalidArgument _).ite (prompt_ok _))

theorem prompt_wanted (c : Controller) (req : CreateVolumeRequest) : Prompt (c.wanted req) := by
  have hcapability : ∀ cap, Prompt (VolumeCapability.requireSingleNodeWriter (some cap)) :=
    fun cap => (prompt_ok _).ite (prompt_invalidArgument _)
  have hsize :
      Prompt ((Capacity.resolve req.capacityRange).mapError Capacity.RangeError.toCsi) := by
    cases Capacity.resolve req.capacityRange with
    | error e => exact prompt_invalidArgument _
    | ok size => exact prompt_ok size
  unfold wanted
  refine ((prompt_invalidArgument _).ite (prompt_ok _)).bind fun _ => ?_
  refine ((prompt_invalidArgument _).ite (prompt_ok _)).bind fun _ => ?_
  refine (Prompt.forM (fun cap => (hcapability cap).bind fun _ => prompt_ok _) _).bind fun _ => ?_
  refine hsize.bind fun size => ?_
  exact ((prompt_invalidArgument _).bind fun _ => prompt_ok _).ite (prompt_ok _)

end Checks

/-! ## The ways to a volume -/

theorem checkExisting_eq_ok {w : Wanted} {v : RemoteVolume} {a : Unit}
    (h : checkExisting w v = .ok a) : v.region = w.region ∧ v.size = w.size := by
  unfold checkExisting at h
  split at h
  · simp at h
  · split at h
    · simp at h
    · next hregion hsize => exact ⟨not_not.mp hregion, not_not.mp hsize⟩

theorem checkSource_eq_ok {w : Wanted} {source : RemoteVolume} {a : Unit}
    (h : checkSource w source = .ok a) : source.region = w.region ∧ source.size ≤ w.size := by
  unfold checkSource at h
  split at h
  · simp at h
  · split at h
    · simp at h
    · next hregion hsize => exact ⟨not_not.mp hregion, Nat.le_of_not_lt hsize⟩

/-- What a request that gives up has begun with: the volume that was there, or the one that it has
made. Only a clone may be smaller than it is to be, as long as it has the size of its source. -/
structure Begun (w : Wanted) (req : CreateVolumeRequest) (start : Memory) (v : RemoteVolume) :
    Prop where
  region : v.region = w.region
  made : start.labelled? w.label = none → v.id = start.newId
  size : v.size = w.size ∨
    ∃ source key s, req.volumeContentSource.bind (·.type) = some (.volume source) ∧
      VolumeKey.parse source.volumeId = .ok key ∧ start.volume? key.volume = some s ∧
      v.size = s.size ∧ s.size < w.size

theorem provides_reuse {m : Memory} (h : Regular m) {w : Wanted} {req : CreateVolumeRequest}
    {v : RemoteVolume} (hv : m.labelled? w.label = some v) :
    Provides w (Begun w req m) (reuse w v) m := by
  unfold reuse Provides
  rw [Prog.delivers_bind, delivers_ofExcept]
  cases hcheck : checkExisting w v with
  | error e =>
      intro hgave
      exact absurd hgave (prompt_checkExisting w v e hcheck)
  | ok a =>
      obtain ⟨hregion, hsize⟩ := checkExisting_eq_ok hcheck
      rw [Prog.either_ok]
      split
      · next hactive => exact ⟨v, .inl rfl, h, hv, hactive, hregion, hsize⟩
      · refine provides_waitActive h hv hregion hsize fun read => ⟨?_, ?_, .inl ?_⟩
        · rw [Memory.reread_region, hregion]
        · intro hnone
          simp [hv] at hnone
        · rw [Memory.reread_size, hsize]

theorem provides_createBlank {m : Memory} (h : Regular m) {w : Wanted} {req : CreateVolumeRequest}
    (hnew : m.labelled? w.label = none) :
    Provides w (Begun w req m) (createBlank w req.parameters) m := by
  unfold createBlank Provides
  let o : CreateOptions := ⟨w.label, w.region, w.size, volumeTags req.parameters⟩
  rw [Prog.delivers_bind, delivers_call, Memory.answer, Memory.createVolume_eq m o]
  have hfirst : (m.addVolume (m.blank o)).2.labelled? w.label = some (m.blank o m.newId) :=
    h.ordered.labelled?_addVolume (m.blank o) hnew
  have hbegun : ∀ read, Begun w req m (reread read (m.blank o m.newId)) := fun read =>
    ⟨Memory.reread_region .., fun _ => Memory.reread_id .., .inl (Memory.reread_size ..)⟩
  exact provides_waitActive (h.addVolume (m.blank o) m.newId_lt) hfirst rfl rfl hbegun

/-- What remains when the clone is there: to wait for it, to resize it and to wait again. -/
theorem provides_resized {m : Memory} (h : Regular m) {w : Wanted} {clone : RemoteVolume}
    (hfirst : m.labelled? w.label = some clone) (hregion : clone.region = w.region)
    (hsize : clone.size ≤ w.size)
    (hbegun : ∀ u, u.id = clone.id → u.region = clone.region →
      u.size = clone.size ∨ u.size = w.size → begun u) :
    Provides w begun (do
      let volume ← Job.waitActive clone.id
      if volume.size = w.size then return volume
      else
        Job.call (.resizeVolume volume.id w.size)
        Job.waitActive volume.id) m := by
  unfold Provides
  rw [Prog.delivers_bind]
  refine (delivers_waitFirst h hfirst).mono ?_ ?_
  · rintro v m' ⟨u, hshown, hregular, hfirst', hactive, hid', hregion', hsize'⟩
    have hid : v.id = u.id := hshown.congr fun _ => rfl
    have hsize'' : v.size = u.size := hshown.congr fun _ => rfl
    split
    · next heq =>
        exact ⟨u, hshown, hregular, hfirst', hactive, hregion'.trans hregion,
          hsize''.symm.trans heq⟩
    · have hthere : m'.volume? u.id = some u :=
        (Memory.volume?_eq_some_iff hregular.ordered).mpr
          ⟨(Memory.label_of_labelled? hfirst').1, rfl⟩
      let larger : RemoteVolume := { u with size := w.size, status := .resizing }
      have hresize : m'.resizeVolume u.id w.size = (.ok (), m'.putVolume larger) := by
        unfold Memory.resizeVolume
        rw [hthere]
        exact if_neg (by omega)
      rw [hid, Prog.delivers_bind, delivers_call, Memory.answer, hresize]
      have hlarger : (m'.putVolume larger).labelled? w.label = some larger :=
        hregular.ordered.labelled?_putVolume hfirst' rfl (Memory.label_of_labelled? hfirst').2
      have hputs : Regular (m'.putVolume larger) :=
        hregular.putVolume (hregular.words u (Memory.label_of_labelled? hfirst').1)
      have hwait := provides_waitActive hputs hlarger (hregion'.trans hregion) rfl fun read =>
        hbegun _ ((Memory.reread_id read larger).trans hid')
          ((Memory.reread_region read larger).trans hregion')
          (.inr (Memory.reread_size read larger))
      exact hwait
  · -- The service gave up before the clone got the size that it is to have.
    rintro e m' ⟨read, hregular, hfirst'⟩ -
    exact ⟨_, hregular, hfirst', hbegun _ (by simp) (by simp) (.inl (by simp))⟩

theorem provides_cloneFrom {m : Memory} (h : Regular m) {w : Wanted} {req : CreateVolumeRequest}
    (hnew : m.labelled? w.label = none) {source : VolumeSource}
    (hsource : req.volumeContentSource.bind (·.type) = some (.volume source)) :
    Provides w (Begun w req m) (cloneFrom w source.volumeId) m := by
  unfold cloneFrom Provides
  rw [Prog.delivers_bind, delivers_ofExcept]
  cases hkey : VolumeKey.parse source.volumeId with
  | error e =>
      intro hgave
      cases hgave
  | ok key =>
      change Delivers ..
      rw [Prog.delivers_bind, delivers_attempt, Memory.answer]
      cases hget : (m.getVolume key.volume).1 with
      | error e =>
          dsimp only
          split
          · intro hgave
            cases hgave
          · intro hgave
            cases hgave
      | ok origin =>
          obtain ⟨s, hs, hshown, hafter⟩ := Memory.getVolume_eq_ok hget
          have hread := Observed.getVolume h.ordered key.volume
          have hid : origin.id = key.volume :=
            (hshown.congr fun _ => rfl).trans (Memory.id_of_volume? hs)
          have hregion : origin.region = s.region := hshown.congr fun _ => rfl
          have hsize : origin.size = s.size := hshown.congr fun _ => rfl
          dsimp only
          generalize (m.getVolume key.volume).2 = m' at hread hafter ⊢
          rw [Prog.delivers_bind, delivers_ofExcept]
          cases hcheck : checkSource w origin with
          | error e =>
              intro hgave
              exact absurd hgave (prompt_checkSource w origin e hcheck)
          | ok a =>
              obtain ⟨hregion', hsize'⟩ := checkSource_eq_ok hcheck
              rw [Prog.either_ok, Prog.delivers_bind, delivers_call, Memory.answer, hid,
                Memory.cloneVolume_eq hafter]
              -- The clone is made of what is at the provider, and checked was what a read showed of
              -- it. Both have one size and one region.
              let make := m'.copy (settle s) w.label
              have hnew' := hread.labelled?_eq_none hnew
              have hnewId : m'.newId = m.newId := by
                obtain ⟨read, n, rfl⟩ := hread
                rfl
              have hregular := h.observed hread
              have hfirst : (m'.addVolume make).2.labelled? w.label = some (make m'.newId) :=
                hregular.ordered.labelled?_addVolume make hnew'
              refine provides_resized (hregular.addVolume make m'.newId_lt) hfirst
                (hregion.symm.trans hregion') (hsize ▸ hsize') ?_
              intro u huid huregion husize
              refine ⟨huregion.trans (hregion.symm.trans hregion'),
                fun _ => huid.trans hnewId, ?_⟩
              rcases husize with husize | husize
              · rcases Nat.eq_or_lt_of_le (hsize ▸ hsize' : s.size ≤ w.size) with heq | hlt
                · exact .inl (husize.trans heq)
                · exact .inr ⟨source, key, s, hsource, hkey, hs, husize, hlt⟩
              · exact .inl husize

/-- However the volume is obtained, it is the wanted one in the end. -/
theorem provides_obtain {m : Memory} (h : Regular m) (w : Wanted) (req : CreateVolumeRequest) :
    Provides w (Begun w req m) (obtain w req) m := by
  unfold obtain Provides
  rw [Prog.delivers_bind, delivers_findVolume h.regards]
  cases hfind : m.labelled? w.label with
  | some existing => exact provides_reuse h hfind
  | none =>
      dsimp only
      split
      · intro hgave
        cases hgave
      · next hsource => exact provides_cloneFrom h hfind hsource
      · exact provides_createBlank h hfind

/-! ## The answer -/

def described (req : CreateVolumeRequest) (v : RemoteVolume) : CreateVolumeResponse :=
  { volume := some {
      capacityBytes := Capacity.reported v.size
      volumeId := handleOf v
      volumeContext := volumeContext req.parameters
      contentSource := req.volumeContentSource
      accessibleTopology := [Topology.ofRegion v.region] } }

/-- What the answer to a request has to say of the volume that the request gets: the number and the
label of it, its bytes, as far as an answer can count them, and its region. -/
structure Describes (req : CreateVolumeRequest) (v : RemoteVolume) (d : Volume) : Prop where
  handle : d.volumeId = toString v.id ++ "-" ++ v.label
  capacity : d.capacityBytes.toInt = min (v.size * 1073741824) 9223372036854775807
  topology : d.accessibleTopology =
    [{ segments := ⟨[("topology.blockcsi.rk8s.io/region", v.region)]⟩ }]
  context : d.volumeContext = volumeContext req.parameters
  source : d.contentSource = req.volumeContentSource

/-- The answer describes the volume if the volume has the size that is asked for. -/
theorem described_eq (req : CreateVolumeRequest) (v : RemoteVolume) :
    ∃ d, described req v = ⟨some d⟩ ∧
      (Capacity.resolve req.capacityRange = .ok v.size → Describes req v d) :=
  ⟨_, rfl, fun hsize => ⟨rfl, Capacity.toInt_reported_of_resolve hsize, rfl, rfl, rfl⟩⟩

/-- The handle in an answer determines the volume that the answer is about. -/
theorem same_of_described_eq {req : CreateVolumeRequest} {v u : RemoteVolume}
    (h : described req v = described req u) : v.id = u.id ∧ v.label = u.label := by
  have hhandle : handleOf v = handleOf u := by
    simp only [described, CreateVolumeResponse.mk.injEq, Option.some.injEq, Volume.mk.injEq] at h
    exact h.2.1
  exact VolumeKey.mk.inj (VolumeKey.handle_inj.mp hhandle)

theorem described_congr (req : CreateVolumeRequest) {v u : RemoteVolume} (h : Shown v u) :
    described req v = described req u :=
  h.congr fun _ => rfl

theorem delivers_createVolume (c : Controller) (req : CreateVolumeRequest) {m : Memory}
    (h : Regular m) :
    Delivers Answers (c.createVolume req) m
      (fun response m' => ∃ w u, c.wanted req = .ok w ∧ Ready w m' u ∧ response = described req u)
      (fun e m' => GaveUp e → ∃ w u, c.wanted req = .ok w ∧ Regular m' ∧
        m'.labelled? w.label = some u ∧ Begun w req m u) := by
  unfold createVolume
  rw [Prog.delivers_bind, delivers_ofExcept]
  cases hw : c.wanted req with
  | error e =>
      intro hgave
      exact absurd hgave (prompt_wanted c req e hw)
  | ok w =>
      rw [Prog.either_ok, Prog.delivers_bind]
      refine (provides_obtain h w req).mono ?_ ?_
      · rintro v m' ⟨u, hshown, hready⟩
        exact ⟨w, u, rfl, hready, described_congr req hshown⟩
      · rintro e m' hleft hgave
        obtain ⟨u, hregular, hfirst, hbegun⟩ := hleft hgave
        exact ⟨w, u, rfl, hregular, hfirst, hbegun⟩

/-! ## Asking again -/

/-- A search is one question, with whose answer the work goes on. -/
theorem findVolume_run {α : Type} (label : String) (f : Option RemoteVolume → Job α) :
    (Job.calls (Cloud.findVolume label) >>= f).run =
      Prog.ask (A := Query.Answer) (.call (.listVolumes (.ofLabel label))) fun answer =>
        match answer with
        | .error e => .done (.error (.cloud e))
        | .ok page => (f (page.items.find? (·.label = label))).run := by
  refine congrArg (Prog.ask (A := Query.Answer) _) (funext fun answer => ?_)
  cases answer with
  | error e => rfl
  | ok page => rfl

/-- A volume that is ready for use is taken, or found not to be the wanted one, without a wait. -/
theorem reuse_active (w : Wanted) {v : RemoteVolume} (h : v.status = .active) :
    reuse w v = Job.ofExcept ((checkExisting w v).map fun _ => v) := by
  unfold reuse
  cases checkExisting w v with
  | error e => rfl
  | ok a =>
      rw [if_pos h]
      rfl

theorem createVolume_found {c : Controller} {req : CreateVolumeRequest} {w : Wanted} {m : Memory}
    {v : RemoteVolume} (hregards : m.ignoresLabels = false) (hw : c.wanted req = .ok w)
    (hfirst : m.labelled? w.label = some v) (hactive : v.status = .active) (p : Poller)
    (t : Timeline) :
    (c.createVolume req).run.run (answerQuery p Memory.answer) (t, m) =
        ((checkExisting w v).map fun _ => described req v, (t, m)) ∧
      (c.createVolume req).run.asked (answerQuery p Memory.answer) (t, m) =
        [.call (.listVolumes (.ofLabel w.label))] := by
  have hfind := Memory.find?_page_ofLabel hregards w.label
  rw [hfirst] at hfind
  have hjob : c.createVolume req = obtain w req >>= fun v => pure (described req v) := by
    unfold createVolume
    rw [hw]
    rfl
  rw [hjob, obtain, bind_assoc, findVolume_run]
  simp only [Prog.run, Prog.asked, answerQuery, Memory.answer, hfind, reuse_active w hactive]
  cases checkExisting w v with
  | error e => exact ⟨rfl, rfl⟩
  | ok a => exact ⟨rfl, rfl⟩

/-- Whoever asks for a volume that is there gets it after one look at the list. -/
theorem Ready.again {w : Wanted} {m : Memory} {v : RemoteVolume} (h : Ready w m v)
    {c : Controller} {req : CreateVolumeRequest} (hw : c.wanted req = .ok w) (p : Poller)
    (t : Timeline) :
    (c.createVolume req).run.run (answerQuery p Memory.answer) (t, m) =
        (.ok (described req v), (t, m)) ∧
      (c.createVolume req).run.asked (answerQuery p Memory.answer) (t, m) =
        [.call (.listVolumes (.ofLabel w.label))] := by
  have hcheck : checkExisting w v = .ok () := by
    simp [checkExisting, h.region, h.size]
  have hfound := createVolume_found h.regular.regards hw h.first h.active p t
  rw [hcheck] at hfound
  exact hfound

theorem wanted_eq_ok {c : Controller} {req : CreateVolumeRequest} {w : Wanted}
    (h : c.wanted req = .ok w) :
    w.label = Label.normalized req.name c.labelPrefix ∧
      w.region = (req.accessibilityRequirements.bind TopologyRequirement.region?).getD c.region ∧
      Capacity.resolve req.capacityRange = .ok w.size := by
  unfold wanted at h
  simp only [except_bind_eq_ok, except_mapError_eq_ok] at h
  obtain ⟨-, -, -, -, -, -, size, hsize, h⟩ := h
  split at h
  · cases h
  · obtain rfl := Except.ok.inj h
    exact ⟨rfl, rfl, hsize⟩

/-- A request for a volume that succeeds leaves the volume that it asks for at the provider, and the
answer is about this volume. If the request is made again, however long the service would wait, the
answer is the same, the provider stays as it is, and it is only asked which volumes have the
label. -/
theorem createVolume_idempotent (c : Controller) (req : CreateVolumeRequest) {m m' : Memory}
    (h : Regular m) {p : Poller} {t t' : Timeline} {response : CreateVolumeResponse}
    (hrun : (c.createVolume req).run.run (answerQuery p Memory.answer) (t, m) =
      (.ok response, (t', m'))) :
    (∃ v d, m'.volume? v.id = some v ∧ v.status = .active ∧
      v.label = Label.normalized req.name c.labelPrefix ∧
      v.region = (req.accessibilityRequirements.bind fun r =>
        (r.preferred ++ r.requisite).findSome? fun t =>
          t.segments.get? "topology.blockcsi.rk8s.io/region").getD c.region ∧
      Capacity.resolve req.capacityRange = .ok v.size ∧
      response = ⟨some d⟩ ∧ VolumeKey.parse d.volumeId = .ok ⟨v.id, v.label⟩ ∧
      d.volumeId = toString v.id ++ "-" ++ v.label ∧
      d.capacityBytes.toInt = min (v.size * 1073741824) 9223372036854775807 ∧
      d.accessibleTopology = [{ segments := ⟨[("topology.blockcsi.rk8s.io/region", v.region)]⟩ }]) ∧
    ∀ (p' : Poller) (now : Timeline),
      (c.createVolume req).run.run (answerQuery p' Memory.answer) (now, m') =
          (.ok response, (now, m')) ∧
        (c.createVolume req).run.asked (answerQuery p' Memory.answer) (now, m') =
          [.call (.listVolumes (.ofLabel (Label.normalized req.name c.labelPrefix)))] := by
  have houtcome := (delivers_createVolume c req h).run (answers_sound p) (t := (t, m))
  rw [hrun] at houtcome
  obtain ⟨w, v, hw, hready, rfl⟩ := houtcome
  obtain ⟨hlabel, hregion, hsize⟩ := wanted_eq_ok hw
  obtain ⟨hmem, hvlabel⟩ := Memory.label_of_labelled? hready.first
  have hgranted : Capacity.resolve req.capacityRange = .ok v.size := hready.size ▸ hsize
  obtain ⟨d, hresponse, hdescribes⟩ := described_eq req v
  have hd := hdescribes hgranted
  constructor
  · have hthere : m'.volume? v.id = some v :=
      (Memory.volume?_eq_some_iff hready.regular.ordered).mpr ⟨hmem, rfl⟩
    have hparse : VolumeKey.parse d.volumeId = .ok ⟨v.id, v.label⟩ :=
      hd.handle ▸ @VolumeKey.parse_handle ⟨v.id, v.label⟩ (hready.regular.words v hmem)
    exact ⟨v, d, hthere, hready.active, hvlabel.trans hlabel, hready.region.trans hregion,
      hgranted, hresponse, hparse, hd.handle, hd.capacity, hd.topology⟩
  · intro p' now
    rw [← hlabel]
    exact hready.again hw p' now

def slowProvider : Memory where
  nextId := 101
  volumes := [⟨100, "data", 10, "us-east", .active, none, Memory.devicePath "data", []⟩]
  initialStatus := .creating

/-- A request for a copy of that volume, which is to be larger. -/
def copyRequest : CreateVolumeRequest where
  name := "pvc-1"
  capacityRange := some { requiredBytes := 21474836480 }
  volumeCapabilities := [{ accessMode := some { mode := 1 } }]
  volumeContentSource := some { type := some (.volume { volumeId := "100-data" }) }

def copyResponse : CreateVolumeResponse where
  volume := some {
    capacityBytes := 21474836480
    volumeId := "101-pvc1"
    contentSource := some { type := some (.volume { volumeId := "100-data" }) }
    accessibleTopology :=
      [{ segments := ⟨[("topology.blockcsi.rk8s.io/region", "us-east")]⟩ }] }

/-- The provider when the copy has been made and resized. -/
def providerWithCopy : Memory :=
  { slowProvider with
    nextId := 102
    volumes := slowProvider.volumes ++
      [⟨101, "pvc1", 20, "us-east", .active, none, Memory.devicePath "pvc1", []⟩] }

theorem slowProvider_regular : Regular slowProvider where
  ordered := by unfold Memory.Ordered; decide
  regards := rfl
  words := by decide

theorem copyRequest_run :
    (createVolume ⟨"us-east", none⟩ copyRequest).run.run (answerQuery ⟨10, 100, false, 0⟩
      Memory.answer) ({}, slowProvider) =
        (.ok copyResponse, ({ now := 20 }, providerWithCopy)) := by
  decide +kernel

theorem copyRequest_idempotent :
    (∃ v d, providerWithCopy.volume? v.id = some v ∧ v.status = .active ∧
      v.label = Label.normalized "pvc-1" none ∧
      v.region = "us-east" ∧
      Capacity.resolve copyRequest.capacityRange = .ok v.size ∧
      copyResponse = ⟨some d⟩ ∧ VolumeKey.parse d.volumeId = .ok ⟨v.id, v.label⟩ ∧
      d.volumeId = toString v.id ++ "-" ++ v.label ∧
      d.capacityBytes.toInt = min (v.size * 1073741824) 9223372036854775807 ∧
      d.accessibleTopology = [{ segments := ⟨[("topology.blockcsi.rk8s.io/region", v.region)]⟩ }]) ∧
    ∀ (p' : Poller) (now : Timeline),
      (createVolume ⟨"us-east", none⟩ copyRequest).run.run (answerQuery p' Memory.answer)
          (now, providerWithCopy) = (.ok copyResponse, (now, providerWithCopy)) ∧
        (createVolume ⟨"us-east", none⟩ copyRequest).run.asked (answerQuery p' Memory.answer)
          (now, providerWithCopy) =
            [.call (.listVolumes (.ofLabel (Label.normalized "pvc-1" none)))] :=
  createVolume_idempotent ⟨"us-east", none⟩ copyRequest slowProvider_regular copyRequest_run

end VolumePlugin.Controller
