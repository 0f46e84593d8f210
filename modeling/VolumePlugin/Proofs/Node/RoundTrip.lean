import VolumePlugin.Proofs.Node.Serving
import VolumePlugin.Proofs.Node.Unstaging

/-! # The round trip of a volume through a node

A file system is staged, published for some workloads, unpublished for each of them in any order,
and unstaged. All of this succeeds, and in the end the mounts of the node are as they were. -/

namespace VolumePlugin.Node

open Host
open Luks (Obliging Plain mapperPath)
open Prog (Delivers Either)

/-! ## Runs in which every request succeeds -/

/-- The arrival of a request before which nothing else happens on the host. -/
def Request.alone (r : Request) : Arrival := ⟨r, id⟩

def Succeeds : State → List Arrival → Prop
  | _, [] => True
  | s, a :: rest => (a.outcome s).1.isOk ∧ Succeeds (a.outcome s).2 rest

theorem succeeds_append {s : State} {past future : List Arrival} :
    Succeeds s (past ++ future) ↔ Succeeds s past ∧ Succeeds (after s past) future := by
  induction past generalizing s with
  | nil => simp [Succeeds]
  | cons a rest ih => simp [Succeeds, ih, and_assoc]

theorem Request.alone_succeeds {r : Request} {s : State} {post : Memory → Prop}
    (h : Delivers Answers r.job s.2 (fun _ h' => post h') fun _ _ => False) :
    (r.alone.outcome s).1.isOk ∧ post (r.alone.outcome s).2.2 := by
  have houtcome := Arrival.outcome_of_delivers (a := r.alone) (s := s) h
  cases hresult : (r.alone.outcome s).1 with
  | ok response =>
      rw [hresult] at houtcome
      exact ⟨rfl, houtcome⟩
  | error e =>
      rw [hresult] at houtcome
      exact False.elim houtcome

/-! ## Workloads -/

section Workloads

variable {initial : List Mount} {staged : Mount} {device : String} {luks : LuksContext}

/-- A request to publish the file system at a path of a workload. -/
structure Publishable (staged : Mount) (luks : LuksContext) (req : NodePublishVolumeRequest) :
    Prop where
  valid : ∃ cap, publishing req = .ok cap ∧ cap.isBlock = false
  staging : req.stagingTargetPath = staged.target
  outside : ¬ Path.Within (mapperPath luks.mapping) req.targetPath

def publishArrivals (reqs : List NodePublishVolumeRequest) : List Arrival :=
  reqs.map fun req => (Request.publish req).alone

def unpublishArrivals (reqs : List NodeUnpublishVolumeRequest) : List Arrival :=
  reqs.map fun req => (Request.unpublish req).alone

theorem Serving.publishAll {reqs : List NodePublishVolumeRequest}
    (hreqs : ∀ req ∈ reqs, Publishable staged luks req)
    (hnodup : (reqs.map (·.targetPath)).Nodup) {bound : List Mount} {s : State}
    (hs : Serving initial staged device luks bound s.2)
    (hfree : ∀ req ∈ reqs, ¬ Mounted req.targetPath s.2.mounts) :
    Succeeds s (publishArrivals reqs) ∧
      Serving initial staged device luks (bound ++ reqs.map binding)
        (after s (publishArrivals reqs)).2 := by
  induction reqs generalizing bound s with
  | nil => exact ⟨trivial, by simpa [publishArrivals] using hs⟩
  | cons req rest ih =>
      obtain ⟨⟨cap, hvalid, hblock⟩, hstaging, hout⟩ := hreqs req List.mem_cons_self
      obtain ⟨hfirst, hnodup⟩ := List.nodup_cons.mp hnodup
      have hpublish := hs.publish hvalid hblock hstaging (hfree req List.mem_cons_self) hout
      obtain ⟨hok, hserving⟩ := Request.alone_succeeds (r := .publish req) hpublish
      have hlater : ∀ other ∈ rest, ¬ Mounted other.targetPath
          ((Request.publish req).alone.outcome s).2.2.mounts := by
        intro other hother hmounted
        obtain ⟨m, hm, htarget⟩ := hmounted
        rw [hserving.mounts, ← List.cons_append, ← List.append_assoc, ← hs.mounts] at hm
        rcases List.mem_append.mp hm with hm | hm
        · exact hfree other (List.mem_cons_of_mem req hother) ⟨m, hm, htarget⟩
        · rw [List.mem_singleton.mp hm] at htarget
          exact hfirst (List.mem_map.mpr ⟨other, hother, htarget.symm⟩)
      obtain ⟨hrest, hend⟩ := ih (fun other hother => hreqs other (List.mem_cons_of_mem req hother))
        hnodup hserving hlater
      refine ⟨⟨hok, hrest⟩, ?_⟩
      rw [List.append_assoc] at hend
      exact hend

/-- The mounts that are left when those on some paths are gone. -/
def remaining (bound : List Mount) (reqs : List NodeUnpublishVolumeRequest) : List Mount :=
  bound.filter fun m => m.target ∉ reqs.map (·.targetPath)

theorem remaining_cons (bound : List Mount) (req : NodeUnpublishVolumeRequest)
    (rest : List NodeUnpublishVolumeRequest) :
    remaining bound (req :: rest) =
      remaining (bound.filter (·.target ≠ req.targetPath)) rest := by
  simp only [remaining, List.filter_filter]
  apply List.filter_congr
  intro m _
  by_cases heq : m.target = req.targetPath
  · simp [heq]
  · simp [heq]

theorem Serving.unpublishAll {reqs : List NodeUnpublishVolumeRequest}
    (hnodup : (reqs.map (·.targetPath)).Nodup) {bound : List Mount} {s : State}
    (hs : Serving initial staged device luks bound s.2)
    (hreqs : ∀ req ∈ reqs, unpublishing req = .ok () ∧ Mounted req.targetPath bound) :
    Succeeds s (unpublishArrivals reqs) ∧
      Serving initial staged device luks (remaining bound reqs)
        (after s (unpublishArrivals reqs)).2 ∧
      Fewer s.2 (after s (unpublishArrivals reqs)).2 ∧
      ∀ req ∈ reqs, Absent req.targetPath (after s (unpublishArrivals reqs)).2 := by
  induction reqs generalizing bound s with
  | nil => exact ⟨trivial, by simpa [remaining, unpublishArrivals] using hs, .refl _, by simp⟩
  | cons req rest ih =>
      obtain ⟨hfirst, hnodup⟩ := List.nodup_cons.mp hnodup
      obtain ⟨hvalid, hmounted⟩ := hreqs req List.mem_cons_self
      obtain ⟨hok, hserving, hfewer, habsent⟩ :=
        Request.alone_succeeds (r := .unpublish req) (hs.unpublish hvalid hmounted)
      have hlater : ∀ other ∈ rest, unpublishing other = .ok () ∧
          Mounted other.targetPath (bound.filter (·.target ≠ req.targetPath)) := by
        intro other hother
        obtain ⟨hvalid', m, hm, htarget⟩ := hreqs other (List.mem_cons_of_mem req hother)
        have hne : m.target ≠ req.targetPath := by
          intro heq
          exact hfirst (List.mem_map.mpr ⟨other, hother, htarget.symm.trans heq⟩)
        exact ⟨hvalid', m, List.mem_filter.mpr ⟨hm, by simpa using hne⟩, htarget⟩
      obtain ⟨hrest, hend, hfewer', habsent'⟩ := ih hnodup hserving hlater
      rw [← remaining_cons] at hend
      refine ⟨⟨hok, hrest⟩, hend, hfewer.trans hfewer', ?_⟩
      intro other hother
      rcases List.mem_cons.mp hother with rfl | hother
      · exact habsent.fewer hfewer'
      · exact habsent' other hother

end Workloads

/-! ## The round trip -/

/-- All that is asked of a node for a volume. -/
structure Journey where
  stage : NodeStageVolumeRequest
  publishes : List NodePublishVolumeRequest
  unpublishes : List NodeUnpublishVolumeRequest
  unstage : NodeUnstageVolumeRequest

namespace Journey

variable (j : Journey)

/-- The staging path of the volume. -/
def path : String := j.stage.stagingTargetPath

/-- What the first request says about the encryption of the volume. -/
def luks (key : VolumeKey) : LuksContext :=
  .ofRequest j.stage.volumeContext j.stage.secrets key.label .stage

/-- The beginning of a journey, with some of its requests to publish and to unpublish the volume. -/
def course (publishes : List NodePublishVolumeRequest)
    (unpublishes : List NodeUnpublishVolumeRequest) : List Arrival :=
  (Request.stage j.stage).alone :: (publishArrivals publishes ++ unpublishArrivals unpublishes)

def arrivals : List Arrival :=
  j.course j.publishes j.unpublishes ++ [(Request.unstage j.unstage).alone]

/-- The requests are for one file system. Each workload has a path of its own, from which the volume
is taken again, in whatever order. If encryption is asked for, nothing is missing. -/
structure WellFormed (key : VolumeKey) (cap : VolumeCapability) : Prop where
  handle : VolumeKey.parse j.stage.volumeId = .ok key
  label : Plain key.label
  capability : j.stage.volumeCapability = some cap
  fileSystem : cap.isBlock = false
  encryption : (j.luks key).validate = .ok ()
  path : j.path ≠ ""
  outside : ¬ Path.Within "/dev" j.path
  publishes : ∀ p ∈ j.publishes, p.volumeId = j.stage.volumeId ∧ p.stagingTargetPath = j.path ∧
    ∃ cap, p.volumeCapability = some cap ∧ cap.isBlock = false
  targets : ∀ p ∈ j.publishes,
    p.targetPath ≠ "" ∧ p.targetPath ≠ j.path ∧ ¬ Path.Within "/dev" p.targetPath
  distinct : (j.publishes.map (·.targetPath)).Nodup
  unpublishes : ∀ u ∈ j.unpublishes, u.volumeId = j.stage.volumeId
  order : (j.unpublishes.map (·.targetPath)).Perm (j.publishes.map (·.targetPath))
  unstage : j.unstage.volumeId = j.stage.volumeId ∧ j.unstage.stagingTargetPath = j.path

/-- The device of the volume is there, and nothing is in use of what the journey needs. Commands for
encrypted devices do not fail, if there is a need for them. -/
structure Ready (key : VolumeKey) (device : String) (h : Memory) : Prop where
  found : foundDevice? h
    (Device.candidates key.label (j.stage.volumeContext.get? Setting.partition)) = some device
  idle : ∀ path ∈ [j.path, device, mapperPath key.label], Idle path h.mounts
  targets : ∀ p ∈ j.publishes, ¬ Mounted p.targetPath h.mounts
  closed : h.pathExists (mapperPath key.label) = false
  commands : (j.luks key).enabled → Obliging device (j.luks key) h

end Journey

/-- The requests so far have published something at the path of a workload, and have not taken it
away again. -/
def StillPublished (past : List Arrival) (target : String) : Prop :=
  (∃ a ∈ past, ∃ req, a.request = .publish req ∧ req.targetPath = target) ∧
    ∀ a ∈ past, ∀ req, a.request = .unpublish req → req.targetPath ≠ target

/-- A volume comes and goes, and leaves nothing behind. -/
structure RoundTrip (j : Journey) (key : VolumeKey) (s : State) : Prop where
  succeeds : Succeeds s j.arrivals
  /-- A workload has the volume for as long as it is published for it. -/
  served : ∀ past future, past ++ future = j.arrivals → ∀ target, StillPublished past target →
    ∃ m ∈ (after s past).2.mounts, m.source = j.path ∧ m.target = target
  /-- Whoever asks to unstage the volume too early is refused, and nothing happens. -/
  refused : ∀ past future, past ++ future = j.arrivals → ∀ target, StillPublished past target →
    ∀ (req : NodeUnstageVolumeRequest) (change : Memory → Memory), req.volumeId ≠ "" →
      req.stagingTargetPath = j.path →
        (∃ text, (Arrival.outcome ⟨.unstage req, change⟩ (after s past)).1 =
          .error (.failedPrecondition text)) ∧
        (Arrival.outcome ⟨.unstage req, change⟩ (after s past)).2.2 =
          (Arrival.meet ⟨.unstage req, change⟩ (after s past)).2
  mounts : (after s j.arrivals).2.mounts = s.2.mounts
  targets : ∀ p ∈ j.publishes, Absent p.targetPath (after s j.arrivals).2
  mapping : (after s j.arrivals).2.pathExists (mapperPath key.label) = false

section Journeys

variable {j : Journey} {key : VolumeKey} {cap : VolumeCapability} {device : String} {s : State}

theorem Journey.WellFormed.named (hwell : j.WellFormed key cap) : j.stage.volumeId ≠ "" := by
  intro hnil
  have hhandle := hwell.handle
  rw [hnil] at hhandle
  cases hhandle

theorem Journey.WellFormed.publishable (hwell : j.WellFormed key cap) {source : String}
    {p : NodePublishVolumeRequest} (hp : p ∈ j.publishes) :
    Publishable ⟨source, j.path, cap.fsType, cap.mountFlags⟩ (j.luks key) p := by
  obtain ⟨hid, hstaging, cap', hcap, hblock⟩ := hwell.publishes p hp
  obtain ⟨htarget, -, hout⟩ := hwell.targets p hp
  refine ⟨⟨cap', publishing_eq (hid ▸ hwell.named) ?_ htarget hcap, hblock⟩, hstaging, ?_⟩
  · rw [hstaging]
    exact hwell.path
  · exact Luks.not_within_of_outside hwell.label hout

/-- What holds after the volume was published for some workloads, and unpublished for some of
these. -/
theorem Journey.serving (hwell : j.WellFormed key cap) (hready : j.Ready key device s.2)
    {ps : List NodePublishVolumeRequest} {us : List NodeUnpublishVolumeRequest}
    (hps : ps.Sublist j.publishes) (hus : us.Sublist j.unpublishes)
    (hmatch : ∀ u ∈ us, u.targetPath ∈ ps.map (·.targetPath)) :
    ∃ source, (source = device ∨ source = mapperPath key.label) ∧
      Succeeds s (j.course ps us) ∧
      Serving s.2.mounts ⟨source, j.path, cap.fsType, cap.mountFlags⟩ device (j.luks key)
        (remaining (ps.map binding) us) (after s (j.course ps us)).2 ∧
      ∀ u ∈ us, Absent u.targetPath (after s (j.course ps us)).2 := by
  have hstaging := staging_eq hwell.handle hwell.path hwell.capability hwell.encryption
  have hfree : ¬ Mounted j.path s.2.mounts := by
    intro hmounted
    obtain ⟨m, hm, htarget⟩ := hmounted
    exact (hready.idle j.path (by simp) m hm).2 htarget
  have hstage := delivers_stage_fresh hstaging hwell.fileSystem hwell.encryption hready.found
    hready.commands hready.closed hfree (Luks.not_within_of_outside hwell.label hwell.outside)
  obtain ⟨hok, source, hsource, hstaged⟩ := Request.alone_succeeds (r := .stage j.stage) hstage
  have hpsfree : ∀ p ∈ ps, ¬ Mounted p.targetPath
      ((Request.stage j.stage).alone.outcome s).2.2.mounts := by
    intro p hp hmounted
    obtain ⟨m, hm, htarget⟩ := hmounted
    rw [hstaged.mounts] at hm
    rcases List.mem_append.mp hm with hm | hm
    · exact hready.targets p (hps.subset hp) ⟨m, hm, htarget⟩
    · rw [List.mem_singleton.mp hm] at htarget
      exact (hwell.targets p (hps.subset hp)).2.1 htarget.symm
  obtain ⟨hpublished, hserved⟩ := hstaged.publishAll
    (fun p hp => hwell.publishable (hps.subset hp)) (hwell.distinct.sublist (hps.map _)) hpsfree
  have hvalid : ∀ u ∈ us, unpublishing u = .ok () ∧
      Mounted u.targetPath ([] ++ ps.map binding) := by
    intro u hu
    obtain ⟨p, hp, htarget⟩ := List.mem_map.mp (hmatch u hu)
    have hid : u.volumeId ≠ "" := hwell.unpublishes u (hus.subset hu) ▸ hwell.named
    have hnamed : u.targetPath ≠ "" := htarget ▸ (hwell.targets p (hps.subset hp)).1
    exact ⟨unpublishing_eq hid hnamed, binding p, by simpa using ⟨p, hp, rfl⟩, htarget⟩
  have hnodup : (us.map (·.targetPath)).Nodup :=
    (hwell.order.nodup_iff.mpr hwell.distinct).sublist (hus.map _)
  obtain ⟨hunpublished, hleft, -, habsent⟩ := hserved.unpublishAll hnodup hvalid
  rw [← after_append] at hleft habsent
  exact ⟨source, hsource, ⟨hok, succeeds_append.mpr ⟨hpublished, hunpublished⟩⟩, hleft, habsent⟩

theorem Journey.mem_course {ps : List NodePublishVolumeRequest}
    {us : List NodeUnpublishVolumeRequest} {a : Arrival} :
    a ∈ j.course ps us ↔ a = (Request.stage j.stage).alone ∨
      (∃ p ∈ ps, (Request.publish p).alone = a) ∨ ∃ u ∈ us, (Request.unpublish u).alone = a := by
  simp [Journey.course, publishArrivals, unpublishArrivals]

theorem StillPublished.mem_remaining {ps : List NodePublishVolumeRequest}
    {us : List NodeUnpublishVolumeRequest} {target : String}
    (h : StillPublished (j.course ps us) target) :
    ∃ m ∈ remaining (ps.map binding) us, m.target = target := by
  obtain ⟨⟨a, ha, req, hreq, htarget⟩, hkept⟩ := h
  have hp : req ∈ ps := by
    rcases Journey.mem_course.mp ha with rfl | ⟨p, hp, rfl⟩ | ⟨u, hu, rfl⟩
    · cases hreq
    · cases hreq
      exact hp
    · cases hreq
  refine ⟨binding req, List.mem_filter.mpr ⟨List.mem_map_of_mem hp, ?_⟩, htarget⟩
  simp only [decide_eq_true_eq, List.mem_map, not_exists, not_and]
  intro u hu heq
  have hmem : (Request.unpublish u).alone ∈ j.course ps us :=
    Journey.mem_course.mpr (.inr (.inr ⟨u, hu, rfl⟩))
  exact hkept _ hmem u rfl (heq.trans htarget)

/-- The first part of a course is a course itself, in which nothing is unpublished before all is
published. -/
theorem Journey.course_of_append {ps : List NodePublishVolumeRequest}
    {us : List NodeUnpublishVolumeRequest} {past later : List Arrival} (hpast : past ≠ [])
    (h : past ++ later = j.course ps us) :
    ∃ ps' us', past = j.course ps' us' ∧ ps'.Sublist ps ∧ us'.Sublist us ∧
      (us' = [] ∨ ps' = ps) := by
  cases past with
  | nil => exact absurd rfl hpast
  | cons a past =>
      obtain ⟨rfl, htail⟩ := List.cons.inj h
      rcases List.append_eq_append_iff.mp htail with ⟨more, hps, -⟩ | ⟨more, hpast, hus⟩
      · obtain ⟨ps', rest, rfl, rfl, -⟩ := List.map_eq_append_iff.mp hps
        refine ⟨ps', [], ?_, List.sublist_append_left ps' rest, List.nil_sublist us, .inl rfl⟩
        simp [Journey.course, publishArrivals, unpublishArrivals]
      · obtain ⟨us', rest, rfl, rfl, -⟩ := List.map_eq_append_iff.mp hus
        refine ⟨ps, us', ?_, List.Sublist.refl ps, List.sublist_append_left us' rest, .inr rfl⟩
        rw [hpast]
        rfl

/-- Whatever is published on a journey is unpublished in the end. -/
theorem Journey.WellFormed.not_stillPublished (hwell : j.WellFormed key cap) {past : List Arrival}
    (hpast : j.course j.publishes j.unpublishes ⊆ past)
    (hall : past ⊆ j.arrivals) (target : String) : ¬ StillPublished past target := by
  intro h
  obtain ⟨⟨a, ha, req, hreq, htarget⟩, hkept⟩ := h
  have hp : req ∈ j.publishes := by
    rcases List.mem_append.mp (hall ha) with hcourse | hlast
    · rcases Journey.mem_course.mp hcourse with rfl | ⟨p, hp, rfl⟩ | ⟨u, hu, rfl⟩
      · cases hreq
      · cases hreq
        exact hp
      · cases hreq
    · rw [List.mem_singleton.mp hlast] at hreq
      cases hreq
  obtain ⟨u, hu, heq⟩ := List.mem_map.mp (hwell.order.mem_iff.mpr (List.mem_map_of_mem hp))
  have hmem : (Request.unpublish u).alone ∈ j.course j.publishes j.unpublishes :=
    Journey.mem_course.mpr (.inr (.inr ⟨u, hu, rfl⟩))
  exact hkept _ (hpast hmem) u rfl (heq.trans htarget)

/-- What is still published at some time of the journey is mounted then. -/
theorem Journey.serving_of_stillPublished (hwell : j.WellFormed key cap)
    (hready : j.Ready key device s.2) {past future : List Arrival}
    (hall : past ++ future = j.arrivals) {target : String} (hstill : StillPublished past target) :
    ∃ source bound,
      Serving s.2.mounts ⟨source, j.path, cap.fsType, cap.mountFlags⟩ device (j.luks key) bound
        (after s past).2 ∧
      ∃ m ∈ bound, m.target = target := by
  have hpast : past ≠ [] := by
    intro hnil
    obtain ⟨⟨a, ha, -⟩, -⟩ := hstill
    simp [hnil] at ha
  -- Either the last request is still to come, or nothing is published any more.
  rcases List.append_eq_append_iff.mp hall with ⟨later, hcourse, -⟩ | ⟨more, rfl, hlast⟩
  · obtain ⟨ps, us, rfl, hps, hus, hboth⟩ := Journey.course_of_append hpast hcourse.symm
    have hmatch : ∀ u ∈ us, u.targetPath ∈ ps.map (·.targetPath) := by
      intro u hu
      rcases hboth with rfl | rfl
      · cases hu
      · exact hwell.order.mem_iff.mp (List.mem_map_of_mem (hus.subset hu))
    obtain ⟨source, -, -, hserving, -⟩ := Journey.serving hwell hready hps hus hmatch
    exact ⟨source, _, hserving, hstill.mem_remaining⟩
  · refine absurd hstill (hwell.not_stillPublished (List.subset_append_left _ more) ?_ target)
    rw [← hall]
    exact List.subset_append_left _ future

/-- The round trip of a file system, encrypted or not, through a node that has its device and where
nothing stands in the way. -/
theorem roundTrip_of_ready (hwell : j.WellFormed key cap) (hready : j.Ready key device s.2) :
    RoundTrip j key s := by
  have hmatch : ∀ u ∈ j.unpublishes, u.targetPath ∈ j.publishes.map (·.targetPath) :=
    fun u hu => hwell.order.mem_iff.mp (List.mem_map_of_mem hu)
  obtain ⟨source, hsource, hcourse, hserving, habsent⟩ :=
    Journey.serving hwell hready (List.Sublist.refl _) (List.Sublist.refl _) hmatch
  have hnone : remaining (j.publishes.map binding) j.unpublishes = [] := by
    apply List.filter_eq_nil_iff.mpr
    intro m hm
    obtain ⟨p, hp, rfl⟩ := List.mem_map.mp hm
    have htarget : p.targetPath ∈ j.unpublishes.map (·.targetPath) :=
      hwell.order.mem_iff.mpr (List.mem_map_of_mem hp)
    simpa [binding] using htarget
  rw [hnone] at hserving
  have hkey : unstaging j.unstage = .ok (some key) := by
    have hpath : j.unstage.stagingTargetPath ≠ "" := hwell.unstage.2 ▸ hwell.path
    rw [unstaging_eq_ok (hwell.unstage.1 ▸ hwell.named) hpath, hwell.unstage.1, hwell.handle]
    rfl
  have hidle : Idle source s.2.mounts := by
    rcases hsource with rfl | rfl
    · exact hready.idle source (by simp)
    · exact hready.idle (mapperPath key.label) (by simp)
  obtain ⟨hok, hmounts, hfewer, hmapping⟩ := Request.alone_succeeds (r := .unstage j.unstage)
    (hserving.unstage hkey rfl hwell.label hwell.unstage.2 (hready.idle j.path (by simp)) hidle)
  have hafter : (after s j.arrivals).2 = ((Request.unstage j.unstage).alone.outcome
      (after s (j.course j.publishes j.unpublishes))).2.2 := by
    rw [Journey.arrivals, after_append, after_cons, after_nil]
  refine ⟨succeeds_append.mpr ⟨hcourse, hok, trivial⟩, ?_, ?_, ?_, ?_, ?_⟩
  · intro past future hall target hstill
    obtain ⟨source, bound, hserving, m, hm, htarget⟩ :=
      Journey.serving_of_stillPublished hwell hready hall hstill
    exact ⟨m, hserving.mem_mounts (List.mem_cons_of_mem _ hm), hserving.sources m hm, htarget⟩
  · intro past future hall target hstill req change hid hpath
    obtain ⟨source, bound, hserving, m, hm, -⟩ :=
      Journey.serving_of_stillPublished hwell hready hall hstill
    obtain ⟨hmounted, hused⟩ := hserving.used hm
    rw [← hpath] at hmounted hused
    exact Arrival.refused_of_used change hid (hpath ▸ hwell.path) hmounted hused
  · rw [hafter]
    exact hmounts
  · intro p hp
    obtain ⟨u, hu, htarget⟩ := List.mem_map.mp (hwell.order.mem_iff.mpr (List.mem_map_of_mem hp))
    rw [hafter, ← htarget]
    exact (habsent u hu).fewer hfewer
  · rw [hafter]
    exact hmapping

end Journeys

/-- An encrypted volume comes to two workloads, and the one that came first goes first. -/
def secretJourney : Journey where
  stage :=
    { volumeId := "7-data", stagingTargetPath := "/staging/data", volumeCapability := some {}
      volumeContext := .ofList [(Setting.luksEncrypted, "true"),
        (Setting.luksCipher, "aes-xts-plain64"), (Setting.luksKeySize, "512")]
      secrets := .single Setting.luksKey "open sesame" }
  publishes := ["/pods/web", "/pods/mail"].map fun target =>
    { volumeId := "7-data", stagingTargetPath := "/staging/data", targetPath := target,
      volumeCapability := some {} }
  unpublishes := ["/pods/web", "/pods/mail"].map fun target =>
    { volumeId := "7-data", targetPath := target }
  unstage := { volumeId := "7-data", stagingTargetPath := "/staging/data" }

theorem secretJourney_wellFormed : secretJourney.WellFormed ⟨7, "data"⟩ {} where
  handle := by decide +kernel
  label := by decide +kernel
  capability := rfl
  fileSystem := rfl
  encryption := by decide +kernel
  path := by decide
  outside := by decide +kernel
  publishes := by simp [secretJourney, Journey.path, VolumeCapability.isBlock]
  targets := by decide +kernel
  distinct := by decide
  unpublishes := by decide
  order := List.Perm.refl _
  unstage := ⟨rfl, rfl⟩

theorem secretJourney_ready : secretJourney.Ready ⟨7, "data"⟩ "/dev/sda" attachedNode.2 where
  found := by decide +kernel
  idle := by simp [attachedNode, Memory.addLink, Memory.addFile, Idle]
  targets := by simp [attachedNode, Memory.addLink, Memory.addFile, Mounted]
  closed := by decide +kernel
  commands := by
    have hcanned : ∀ line, attachedNode.2.response? line = none := fun _ => rfl
    intro _
    constructor <;> simp [hcanned]

theorem secretJourney_roundTrip :
    secretJourney.WellFormed ⟨7, "data"⟩ {} ∧
      secretJourney.Ready ⟨7, "data"⟩ "/dev/sda" attachedNode.2 ∧
      RoundTrip secretJourney ⟨7, "data"⟩ attachedNode :=
  ⟨secretJourney_wellFormed, secretJourney_ready,
    roundTrip_of_ready secretJourney_wellFormed secretJourney_ready⟩

end VolumePlugin.Node
