import VolumePlugin.Proofs.Luks
import VolumePlugin.Proofs.Node.Mounts

/-! # A node that serves a volume

From the time a file system is staged until it is unstaged, the mounts of the node are those that it
had before, the one on the staging path and those on the paths of workloads. All that time the
mapping of the device, if it is open, can be closed. -/

namespace VolumePlugin.Node

open Host
open Luks (Obliging Plain mapperPath)
open Prog (Delivers Either Ensures)

variable {device : String} {luks : LuksContext} {h h' : Memory}

/-! ## Devices -/

/-- The device that the first path that exists leads to. -/
def foundDevice? (h : Memory) (paths : List String) : Option String :=
  (paths.find? h.pathExists).map fun path => (Memory.lookupPath path h.links).getD path

theorem ensures_findExisting (paths : List String) (h : Memory) :
    Ensures Answers (Device.findExisting paths) h fun found h' =>
      h' = h ∧ found = paths.find? h.pathExists := by
  induction paths with
  | nil => exact ⟨rfl, rfl⟩
  | cons path rest ih =>
      unfold Device.findExisting
      rw [Prog.bind_eq, Prog.ensures_bind, Host.ensures_ask]
      change Ensures Answers
        (if h.pathExists path then pure (some path) else Device.findExisting rest) h _
      by_cases hfound : h.pathExists path
      · rw [if_pos hfound, List.find?_cons_of_pos hfound]
        exact ⟨rfl, rfl⟩
      · rw [if_neg hfound, List.find?_cons_of_neg hfound]
        exact ih

theorem ensures_firstExisting (paths : List String) (h : Memory) :
    Ensures Answers (Device.firstExisting paths) h fun found h' =>
      h' = h ∧ found = foundDevice? h paths := by
  unfold Device.firstExisting
  rw [Prog.bind_eq, Prog.ensures_bind]
  apply (ensures_findExisting paths h).mono
  intro found h' hfound
  obtain ⟨rfl, hfound⟩ := hfound
  cases found with
  | none => exact ⟨rfl, by rw [foundDevice?, ← hfound]; rfl⟩
  | some path =>
      have hexists : h'.pathExists path := List.find?_some hfound.symm
      dsimp only
      rw [Prog.bind_eq, Prog.ensures_bind, Host.ensures_ask]
      simp only [Memory.answer, Memory.resolveLinks, foundDevice?, ← hfound]
      cases hlink : Memory.lookupPath path h'.links with
      | some target => exact ⟨rfl, by simp [hlink]⟩
      | none =>
          rw [if_pos hexists]
          exact ⟨rfl, by simp [hlink]⟩

theorem run_triggerCommand (h : Memory) (disk : String) :
    (h.run (Device.triggerCommand disk)).2 =
      { h with commands := h.commands ++ [Device.triggerCommand disk] } := by
  cases hresponse : h.response? (Device.triggerCommand disk).line with
  | some out => rw [Memory.run_of_response? hresponse]
  | none =>
      rw [Memory.run_of_response?_eq_none hresponse]
      rfl

/-- On the host in memory nothing comes of a look at disks. -/
theorem ensures_trigger (disks : List String) (h : Memory) :
    Ensures Answers (Device.trigger disks) h fun _ h' =>
      ∃ commands, h' = { h with commands := commands } := by
  induction disks generalizing h with
  | nil => exact ⟨h.commands, rfl⟩
  | cons disk rest ih =>
      unfold Device.trigger
      rw [Prog.bind_eq, Prog.ensures_bind, Host.ensures_ask]
      change Ensures Answers (Device.trigger rest) (h.run (Device.triggerCommand disk)).2 _
      rw [run_triggerCommand]
      exact ih _

theorem ensures_triggerNew (h : Memory) :
    Ensures Answers Device.triggerNew h fun _ h' =>
      ∃ commands, h' = { h with commands := commands } := by
  unfold Device.triggerNew
  rw [Prog.bind_eq, Prog.ensures_bind, Host.ensures_ask]
  change Ensures Answers (match h.glob Device.diskPattern with
    | .error _ => pure ()
    | .ok disks => Prog.question (A := Query.Answer) (.newDisks disks) >>= Device.trigger) h _
  cases h.glob Device.diskPattern with
  | error e => exact ⟨h.commands, rfl⟩
  | ok disks =>
      intro fresh h' hsame
      rw [hsame]
      exact ensures_trigger fresh h

theorem ensures_verify (paths : List String) (h : Memory) :
    Ensures Answers (Device.verify paths) h fun found h' =>
      found = foundDevice? h paths ∧ h'.mounts = h.mounts ∧ (found = none ∨ h' = h) := by
  unfold Device.verify
  rw [Prog.bind_eq, Prog.ensures_bind]
  apply (ensures_firstExisting paths h).mono
  rintro found h' ⟨rfl, hfound⟩
  cases found with
  | some device => exact ⟨hfound, rfl, .inr rfl⟩
  | none =>
      dsimp only
      rw [Prog.bind_eq, Prog.ensures_bind]
      apply (ensures_triggerNew h').mono
      rintro _ h₁ ⟨commands, rfl⟩
      apply (ensures_firstExisting paths _).mono
      rintro found' h₂ ⟨rfl, hfound'⟩
      exact ⟨hfound', rfl, .inl (hfound'.trans hfound.symm)⟩

/-- A device is resolved if and only if one is found at once, for a look at the disks changes
nothing. -/
theorem delivers_resolveDevice_foundDevice? (key : VolumeKey) (partition : Option String)
    (h : Memory) :
    Delivers Answers (resolveDevice key partition) h
      (fun device h' =>
        foundDevice? h (Device.candidates key.label partition) = some device ∧ h' = h)
      (fun e h' => foundDevice? h (Device.candidates key.label partition) = none ∧
        (∃ text, e = .internal text) ∧ h'.mounts = h.mounts) := by
  unfold resolveDevice
  rw [Prog.delivers_bind, Prog.delivers_lift]
  apply (ensures_verify _ h).mono
  rintro found h' ⟨hfound, hmounts, hsame⟩
  cases found with
  | some device => exact ⟨hfound.symm, hsame.resolve_left nofun⟩
  | none => exact ⟨hfound.symm, ⟨_, rfl⟩, hmounts⟩

/-- Nobody has to look at the disks again for a device that is found. -/
theorem delivers_resolveDevice_of_found {σ : Type}
    {answers : (q : Query) → σ → q.Answer → σ → Prop} {s : σ} {key : VolumeKey}
    {partition : Option String}
    (hfound : Ensures answers (Device.firstExisting (Device.candidates key.label partition)) s
      fun found s' => found = some device ∧ s' = s) :
    Delivers answers (resolveDevice key partition) s (fun found s' => found = device ∧ s' = s)
      (fun _ _ => False) := by
  have hverify : Ensures answers (Device.verify (Device.candidates key.label partition)) s
      fun found s' => found = some device ∧ s' = s := by
    unfold Device.verify
    rw [Prog.bind_eq, Prog.ensures_bind]
    apply hfound.mono
    intro found s' hfound
    obtain ⟨rfl, rfl⟩ := hfound
    exact ⟨rfl, rfl⟩
  unfold resolveDevice
  rw [Prog.delivers_bind, Prog.delivers_lift]
  apply hverify.mono
  intro found s' hfound
  obtain ⟨rfl, rfl⟩ := hfound
  exact ⟨rfl, rfl⟩

/-- A device whose path exists is found at once. -/
theorem delivers_resolveDevice {key : VolumeKey} {partition : Option String}
    (hdevice : foundDevice? h (Device.candidates key.label partition) = some device) :
    Delivers Answers (resolveDevice key partition) h (fun found h' => found = device ∧ h' = h)
      (fun _ _ => False) := by
  apply delivers_resolveDevice_of_found
  apply (ensures_firstExisting _ h).mono
  intro found h' hfound
  obtain ⟨rfl, rfl⟩ := hfound
  exact ⟨hdevice, rfl⟩

theorem delivers_mountSource (hvalid : luks.validate = .ok ())
    (hcommands : luks.enabled → Obliging device luks h) :
    Delivers Answers (mountSource device luks) h
      (fun source h' => (source = device ∨ source = mapperPath luks.mapping) ∧
        Undisturbed h h' ∧ (luks.enabled = false → h' = h)) (fun _ _ => False) := by
  unfold mountSource
  cases henabled : luks.enabled with
  | false => exact ⟨.inl rfl, .refl h, fun _ => rfl⟩
  | true =>
      have ho : Obliging device luks h := hcommands henabled
      have hopen : ∀ h₁, Undisturbed h h₁ → Delivers Answers (Luks.openMapping device luks) h₁
          (fun source h' => (source = device ∨ source = mapperPath luks.mapping) ∧
            Undisturbed h h' ∧ (true = false → h' = h)) (fun _ _ => False) := by
        intro h₁ hu₁
        apply (Luks.delivers_openMapping (ho.same hu₁.responses)).sure
        intro source h₂ hopened
        exact ⟨.inr hopened.1, hu₁.trans hopened.2, fun hfalse => by cases hfalse⟩
      rw [if_pos rfl]
      apply (Luks.delivers_isFormatted ho).followed
      intro formatted h₁ hu₁
      cases formatted with
      | true => exact hopen h₁ hu₁
      | false =>
          apply (Luks.delivers_format (ho.same hu₁.responses) hvalid).followed
          intro _ h₂ hu₂
          exact hopen h₂ (hu₁.trans hu₂)

/-! ## Mappings that can be closed -/

/-- Nothing but an open mapping has the path of the mapping, and if it is open then it can be
closed. -/
structure Closable (device : String) (luks : LuksContext) (h : Memory) : Prop where
  link : Memory.lookupPath (mapperPath luks.mapping) h.links = none
  directory : ¬ h.directories.contains (mapperPath luks.mapping)
  file : h.files.contains (mapperPath luks.mapping) → Obliging device luks h

theorem Closable.same (hc : Closable device luks h) (hlinks : h'.links = h.links)
    (hresponses : h'.responses = h.responses)
    (hdirectory : h'.directories.contains (mapperPath luks.mapping) →
      h.directories.contains (mapperPath luks.mapping))
    (hfile : h'.files.contains (mapperPath luks.mapping) →
      h.files.contains (mapperPath luks.mapping)) : Closable device luks h' := by
  refine ⟨?_, ?_, ?_⟩
  · rw [hlinks]
    exact hc.link
  · exact fun hthere => hc.directory (hdirectory hthere)
  · exact fun hthere => (hc.file (hfile hthere)).same hresponses

theorem pathExists_eq_false_iff {path : String} :
    h.pathExists path = false ↔ Memory.lookupPath path h.links = none ∧ Absent path h := by
  simp [Memory.pathExists, Absent, and_assoc]

/-- A mapping that is not open yet can be closed when it has been opened. -/
theorem closable_of_undisturbed (hclosed : h.pathExists (mapperPath luks.mapping) = false)
    (hcommands : luks.enabled → Obliging device luks h) (hu : Undisturbed h h')
    (hplain : luks.enabled = false → h' = h) : Closable device luks h' := by
  obtain ⟨hlink, hfile, hdirectory⟩ := pathExists_eq_false_iff.mp hclosed
  refine ⟨?_, ?_, ?_⟩
  · rw [hu.links]
    exact hlink
  · exact fun hthere => hdirectory (hu.directories _ hthere)
  · intro hthere
    cases henabled : luks.enabled with
    | true => exact (hcommands henabled).same hu.responses
    | false =>
        rw [hplain henabled] at hthere
        exact absurd hthere hfile

theorem ensures_closeMapping (path : String) (h : Memory) :
    Ensures Answers (closeMapping path) h fun _ h' => Undisturbed h h' ∧ Fewer h h' := by
  unfold closeMapping
  rw [Prog.bind_eq, Prog.ensures_bind]
  refine Ensures.mono (Luks.delivers_isLuksMapping path h) ?_
  intro result h₁ hlooked
  cases result with
  | error e => exact False.elim hlooked
  | ok found =>
      obtain ⟨hu, hf⟩ := hlooked
      cases found with
      | false => exact ⟨hu, hf⟩
      | true =>
          dsimp only
          rw [Prog.bind_eq, Prog.ensures_bind]
          refine Ensures.mono (Luks.delivers_mustSucceed _ _ _ h₁) ?_
          intro result h₂ hclosed
          -- Nobody looks at the result, and the host is the same after a failure.
          have hsame := hclosed.elim (fun _ hsame => hsame) (fun _ hsame => hsame.1)
          rw [hsame]
          exact ⟨hu.trans (Memory.undisturbed_run h₁ _), hf.trans (Memory.fewer_close h₁ _)⟩

/-- The mapping of a plain name is closed, since its name can be read off its path. -/
theorem ensures_closeMapping_mapperPath (ho : Obliging device luks h)
    (hplain : Plain luks.mapping) :
    Ensures Answers (closeMapping (mapperPath luks.mapping)) h fun _ h' =>
      Undisturbed h h' ∧ ¬ h'.files.contains (mapperPath luks.mapping) := by
  unfold closeMapping
  rw [Prog.bind_eq, Prog.ensures_bind]
  refine Ensures.mono (Luks.delivers_isLuksMapping_mapperPath ho hplain) ?_
  intro result h₁ hlooked
  cases result with
  | error e => exact False.elim hlooked
  | ok found =>
      obtain ⟨hu, hf, hnot⟩ := hlooked
      cases found with
      | false => exact ⟨hu, fun hthere => hnot rfl (hf.files _ hthere)⟩
      | true =>
          have ho₁ := ho.same hu.responses
          dsimp only
          rw [Luks.mappingName_mapperPath hplain, Prog.bind_eq, Prog.ensures_bind]
          refine Ensures.mono (Luks.delivers_close ho₁) ?_
          intro result h₂ hclosed
          have hsame := hclosed.elim (fun _ hsame => hsame) (fun _ hfalse => hfalse.elim)
          refine ⟨hu.trans (hsame ▸ Memory.undisturbed_run h₁ _), ?_⟩
          rw [hsame, Memory.run_of_response?_eq_none ho₁.closes,
            ← Luks.mapping_eq_mapperPath]
          exact (absent_removePath _ _).1

theorem ensures_closeMappings (paths : List String) (h : Memory) :
    Ensures Answers (closeMappings paths) h fun _ h' => Undisturbed h h' ∧ Fewer h h' := by
  induction paths generalizing h with
  | nil => exact ⟨.refl h, .refl h⟩
  | cons path rest ih =>
      unfold closeMappings
      rw [Prog.bind_eq, Prog.ensures_bind]
      apply (ensures_closeMapping path h).mono
      intro _ h₁ hfirst
      apply (ih h₁).mono
      intro _ h₂ hrest
      exact ⟨hfirst.1.trans hrest.1, hfirst.2.trans hrest.2⟩

theorem ensures_closeMappings_mem (ho : Obliging device luks h) (hplain : Plain luks.mapping)
    {paths : List String} (hmem : mapperPath luks.mapping ∈ paths) :
    Ensures Answers (closeMappings paths) h fun _ h' =>
      ¬ h'.files.contains (mapperPath luks.mapping) := by
  induction paths generalizing h with
  | nil => cases hmem
  | cons path rest ih =>
      unfold closeMappings
      rw [Prog.bind_eq, Prog.ensures_bind]
      by_cases hpath : path = mapperPath luks.mapping
      · -- The mapping is closed now, and the rest of the work opens nothing.
        rw [hpath]
        apply (ensures_closeMapping_mapperPath ho hplain).mono
        intro _ h₁ hfirst
        apply (ensures_closeMappings rest h₁).mono
        exact fun _ h₂ hrest hthere => hfirst.2 (hrest.2.files _ hthere)
      · have hrest : mapperPath luks.mapping ∈ rest := by
          rcases List.mem_cons.mp hmem with heq | hrest
          · exact absurd heq.symm hpath
          · exact hrest
        apply (ensures_closeMapping path h).mono
        exact fun _ h₁ hfirst => ih (ho.same hfirst.1.responses) hrest

/-- A mapping is gone after it has been closed, and if it was not there. -/
theorem Closable.ensures_closeMappings (hc : Closable device luks h) (hplain : Plain luks.mapping)
    {paths : List String}
    (hpaths : mapperPath luks.mapping ∈ paths ∨ h.pathExists (mapperPath luks.mapping) = false) :
    Ensures Answers (closeMappings paths) h fun _ h' =>
      (Undisturbed h h' ∧ Fewer h h') ∧ h'.pathExists (mapperPath luks.mapping) = false := by
  have hsame := Node.ensures_closeMappings paths h
  have hgone : Ensures Answers (closeMappings paths) h fun _ h' =>
      ¬ h'.files.contains (mapperPath luks.mapping) := by
    by_cases hthere : h.files.contains (mapperPath luks.mapping)
    · rcases hpaths with hmem | hclosed
      · exact ensures_closeMappings_mem (hc.file hthere) hplain hmem
      · exact absurd hthere (pathExists_eq_false_iff.mp hclosed).2.1
    · exact hsame.mono fun _ h' hsame hthere' => hthere (hsame.2.files _ hthere')
  apply (hsame.and hgone).mono
  intro _ h' hboth
  obtain ⟨⟨hu, hf⟩, hfile⟩ := hboth
  refine ⟨⟨hu, hf⟩, pathExists_eq_false_iff.mpr ⟨?_, hfile, ?_⟩⟩
  · rw [hu.links]
    exact hc.link
  · exact fun hthere => hc.directory (hf.directories _ hthere)

theorem ensures_leftOpen (key : VolumeKey) (mappings : List String) (h : Memory) :
    Ensures Answers (leftOpen (some key) mappings) h fun more h' =>
      h' = h ∧ (mapperPath key.label ∈ mappings ++ more ∨
        h.pathExists (mapperPath key.label) = false) := by
  unfold leftOpen
  dsimp only
  by_cases hmem : mappings.contains (mapperPath key.label)
  · rw [if_pos hmem]
    exact ⟨rfl, .inl (by simpa using hmem)⟩
  · rw [if_neg hmem, Prog.bind_eq, Prog.ensures_bind, Host.ensures_ask]
    change Ensures Answers
      (if h.pathExists (mapperPath key.label) then pure [mapperPath key.label] else pure []) h _
    cases hopen : h.pathExists (mapperPath key.label) with
    | true => exact ⟨rfl, .inl (by simp)⟩
    | false => exact ⟨rfl, .inr rfl⟩

/-! ## Requests for a volume that is served -/

/-- The node serves a volume that is staged, at the paths of the bound mounts. -/
structure Serving (initial : List Mount) (staged : Mount) (device : String) (luks : LuksContext)
    (bound : List Mount) (h : Memory) : Prop where
  mounts : h.mounts = initial ++ staged :: bound
  sources : ∀ m ∈ bound, m.source = staged.target
  distinct : Distinct (staged :: bound)
  closable : Closable device luks h

/-- What a request to publish a file system mounts. -/
def binding (req : NodePublishVolumeRequest) : Mount :=
  ⟨req.stagingTargetPath, req.targetPath, "",
    publishOptions req (req.volumeCapability.getD {})⟩

section Requests

variable {initial bound : List Mount} {staged : Mount}

theorem delivers_isMountPoint (path : String) (h : Memory) (ok : Bool → Memory → Prop)
    (bad : CsiError → Memory → Prop) :
    Delivers Answers (isMountPoint path) h ok bad ↔ ok (h.isMountPoint path) h :=
  Host.ensures_ask ..

theorem delivers_makeDirectories (path : String) (h : Memory) (ok : Unit → Memory → Prop)
    (bad : CsiError → Memory → Prop) :
    Delivers Answers (makeDirectories path) h ok bad ↔ ok () (h.addDirectories path) := by
  unfold makeDirectories
  rw [Host.delivers_demand, Host.ensures_ask]
  rfl

/-- Mappings can be closed as before when directories are made for paths that lead elsewhere. -/
theorem Closable.addDirectories {path : String} (hc : Closable device luks h)
    (hout : ¬ Path.Within (mapperPath luks.mapping) path) :
    Closable device luks (h.addDirectories path) := by
  have heq := Memory.addDirectories_eq h path
  apply hc.same
  · rw [heq]
  · rw [heq]
  · exact Memory.directories_addDirectories hout
  · rw [heq]
    exact id

theorem staging_eq {req : NodeStageVolumeRequest} {key : VolumeKey} {cap : VolumeCapability}
    (hkey : VolumeKey.parse req.volumeId = .ok key) (hpath : req.stagingTargetPath ≠ "")
    (hcap : req.volumeCapability = some cap)
    (hvalid : (LuksContext.ofRequest req.volumeContext req.secrets key.label .stage).validate =
      .ok ()) :
    staging req = .ok
      ⟨key, cap, .ofRequest req.volumeContext req.secrets key.label .stage⟩ := by
  have hid : req.volumeId ≠ "" := by
    intro hnil
    rw [hnil] at hkey
    cases hkey
  simp only [staging, requireText, if_neg hid, if_neg hpath, hcap, requireCapability,
    requireHandle, hkey]
  change (if (_ && _) = true then _ else _) = _
  rw [hvalid]
  split <;> rfl

theorem delivers_stage_fresh {req : NodeStageVolumeRequest} {s : Staging}
    (hreq : staging req = .ok s) (hblock : s.cap.isBlock = false)
    (hvalid : s.luks.validate = .ok ())
    (hdevice : foundDevice? h (Device.candidates s.key.label
      (req.volumeContext.get? Setting.partition)) = some device)
    (hcommands : s.luks.enabled → Obliging device s.luks h)
    (hclosed : h.pathExists (mapperPath s.luks.mapping) = false)
    (hfree : ¬ Mounted req.stagingTargetPath h.mounts)
    (hout : ¬ Path.Within (mapperPath s.luks.mapping) req.stagingTargetPath) :
    Delivers Answers (stage req) h
      (fun _ h' => ∃ source, (source = device ∨ source = mapperPath s.luks.mapping) ∧
        Serving h.mounts ⟨source, req.stagingTargetPath, s.cap.fsType, s.cap.mountFlags⟩ device
          s.luks [] h') (fun _ _ => False) := by
  unfold stage
  rw [Prog.delivers_bind, hreq, Host.delivers_ofExcept, Prog.either_ok, Host.delivers_locked]
  apply (delivers_resolveDevice hdevice).followed
  intro _ h₁ hfound
  obtain ⟨rfl, rfl⟩ := hfound
  rw [Prog.delivers_bind, delivers_isMountPoint, Memory.isMountPoint_eq_false_iff.mpr hfree,
    if_neg (by decide), hblock, if_neg (by decide)]
  apply (delivers_mountSource hvalid hcommands).followed
  intro source h₂ hsource
  obtain ⟨hsource, hu, hplain⟩ := hsource
  rw [Prog.delivers_bind, delivers_makeDirectories]
  have hclosable := (closable_of_undisturbed hclosed hcommands hu hplain).addDirectories hout
  have hmounts := (Memory.mounts_addDirectories h₂ req.stagingTargetPath).trans hu.mounts
  refine (Prog.delivers_bind ..).mpr ((Host.ensures_ask ..).mpr ⟨source, hsource, ?_⟩)
  refine ⟨?_, by simp, List.nodup_singleton _, hclosable.same rfl rfl id id⟩
  simp only [Memory.answer, Memory.mount, hmounts]

theorem Serving.mem_mounts (hs : Serving initial staged device luks bound h) {m : Mount}
    (hm : m ∈ staged :: bound) : m ∈ h.mounts := by
  rw [hs.mounts]
  exact List.mem_append_right initial hm

theorem publishing_eq {req : NodePublishVolumeRequest} {cap : VolumeCapability}
    (hid : req.volumeId ≠ "") (hstaging : req.stagingTargetPath ≠ "")
    (htarget : req.targetPath ≠ "") (hcap : req.volumeCapability = some cap) :
    publishing req = .ok cap := by
  simp only [publishing, requireText, if_neg hid, if_neg hstaging, if_neg htarget, hcap,
    requireCapability]
  rfl

theorem Serving.publish (hs : Serving initial staged device luks bound h)
    {req : NodePublishVolumeRequest} {cap : VolumeCapability} (hreq : publishing req = .ok cap)
    (hblock : cap.isBlock = false) (hstaging : req.stagingTargetPath = staged.target)
    (hfree : ¬ Mounted req.targetPath h.mounts)
    (hout : ¬ Path.Within (mapperPath luks.mapping) req.targetPath) :
    Delivers Answers (publish req) h
      (fun _ h' => Serving initial staged device luks (bound ++ [binding req]) h')
      (fun _ _ => False) := by
  have hcap : req.volumeCapability = some cap := (publishing_eq_ok hreq).2
  have hbinding : binding req = ⟨req.stagingTargetPath, req.targetPath, "",
      publishOptions req cap⟩ := by
    rw [binding, hcap]
    rfl
  have hfree' : ¬ Mounted (binding req).target (staged :: bound) := by
    intro hmounted
    obtain ⟨m, hm, htarget⟩ := hmounted
    exact hfree ⟨m, hs.mem_mounts hm, htarget⟩
  unfold Node.publish
  rw [Prog.delivers_bind, hreq, Host.delivers_ofExcept, Prog.either_ok, Host.delivers_locked]
  unfold publishLocked publishMount
  rw [Prog.delivers_bind, delivers_isMountPoint, Memory.isMountPoint_eq_false_iff.mpr hfree,
    if_neg (by decide), hblock, if_neg (by decide), bind_assoc, Prog.delivers_bind,
    delivers_makeDirectories]
  refine (Prog.delivers_bind ..).mpr ((Host.ensures_ask ..).mpr ?_)
  refine ⟨?_, ?_, ?_, (hs.closable.addDirectories hout).same rfl rfl id id⟩
  · simp only [Memory.answer, Memory.mount, Memory.mounts_addDirectories, hs.mounts, hbinding,
      List.append_assoc, List.cons_append]
  · intro m hm
    rcases List.mem_append.mp hm with hm | hm
    · exact hs.sources m hm
    · rw [List.mem_singleton.mp hm]
      exact hstaging
  · exact distinct_append hs.distinct hfree'

theorem unpublishing_eq {req : NodeUnpublishVolumeRequest} (hid : req.volumeId ≠ "")
    (htarget : req.targetPath ≠ "") : unpublishing req = .ok () := by
  simp only [unpublishing, requireText, if_neg hid, if_neg htarget]
  rfl

/-- The node as it was, but for the mount on a path of a workload, which is gone like the path
itself. -/
theorem Serving.unpublish (hs : Serving initial staged device luks bound h)
    {req : NodeUnpublishVolumeRequest} (hreq : unpublishing req = .ok ())
    (hbound : Mounted req.targetPath bound) :
    Delivers Answers (unpublish req) h
      (fun _ h' => Serving initial staged device luks
          (bound.filter (·.target ≠ req.targetPath)) h' ∧
        Fewer h h' ∧ Absent req.targetPath h') (fun _ _ => False) := by
  obtain ⟨m, hm, htarget⟩ := hbound
  have hmounted : Mounted req.targetPath (staged :: bound) :=
    ⟨m, List.mem_cons_of_mem staged hm, htarget⟩
  have hother : staged.target ≠ req.targetPath := by
    intro heq
    have hfirst := (List.nodup_cons.mp hs.distinct).1
    exact hfirst (List.mem_map.mpr ⟨m, hm, htarget.trans heq.symm⟩)
  have hrest : Memory.dropLastOn? req.targetPath h.mounts =
      some (initial ++ staged :: bound.filter (·.target ≠ req.targetPath)) := by
    have hdrop := Memory.dropLastOn?_eq_filter hs.distinct hmounted
    rw [List.filter_cons_of_pos (by simpa using hother)] at hdrop
    rw [hs.mounts]
    exact Memory.dropLastOn?_append hdrop initial
  have hpoint : h.isMountPoint req.targetPath = true := by
    rw [Memory.isMountPoint_iff]
    exact ⟨m, hs.mem_mounts (List.mem_cons_of_mem staged hm), htarget⟩
  unfold Node.unpublish
  rw [Prog.delivers_bind, hreq, Host.delivers_ofExcept, Prog.either_ok, Host.delivers_locked]
  unfold unpublishLocked
  rw [Prog.delivers_bind, delivers_isMountPoint, hpoint, if_pos rfl, Prog.delivers_bind,
    Host.delivers_ofWork, Host.ensures_ask]
  simp only [Memory.answer, Memory.unmount, hrest]
  refine (Prog.delivers_bind ..).mpr ((Prog.delivers_lift ..).mpr ((Host.ensures_ask ..).mpr ?_))
  have hfewer := fewer_removePath h req.targetPath
  have hsub : (bound.filter (·.target ≠ req.targetPath)).Sublist bound := List.filter_sublist
  refine ⟨⟨rfl, ?_, ?_, ?_⟩, ⟨hfewer.files, hfewer.directories⟩, ?_⟩
  · exact fun n hn => hs.sources n (hsub.subset hn)
  · exact hs.distinct.sublist ((hsub.cons_cons staged).map _)
  · exact hs.closable.same rfl rfl (hfewer.directories _) (hfewer.files _)
  · exact absent_removePath h req.targetPath

/-- What is bound to a path of a workload is in the way of a request to unstage the volume. -/
theorem Serving.used (hs : Serving initial staged device luks bound h) {m : Mount}
    (hm : m ∈ bound) : Mounted staged.target h.mounts ∧ ¬ Unused staged.target h.mounts := by
  refine ⟨⟨staged, hs.mem_mounts List.mem_cons_self, rfl⟩, ?_⟩
  intro hunused
  have hother : m.target ≠ staged.target := by
    intro heq
    exact (List.nodup_cons.mp hs.distinct).1 (List.mem_map.mpr ⟨m, hm, heq⟩)
  exact (hunused m (hs.mem_mounts (List.mem_cons_of_mem staged hm)) hother).1 (hs.sources m hm)

/-- Whether a path is neither mounted anywhere nor has anything mounted on it. -/
def Idle (path : String) (ms : List Mount) : Prop :=
  ∀ m ∈ ms, m.source ≠ path ∧ m.target ≠ path

/-- The last request for a volume leaves the mounts as they were before the first one, and no
mapping. -/
theorem Serving.unstage (hs : Serving initial staged device luks [] h)
    {req : NodeUnstageVolumeRequest} {key : VolumeKey}
    (hreq : unstaging req = .ok (some key)) (hlabel : luks.mapping = key.label)
    (hplain : Plain key.label) (hpath : req.stagingTargetPath = staged.target)
    (hidle : Idle staged.target initial) (hsource : Idle staged.source initial) :
    Delivers Answers (unstage req) h
      (fun _ h' => h'.mounts = initial ∧ Fewer h h' ∧
        h'.pathExists (mapperPath key.label) = false) (fun _ _ => False) := by
  have hmounted : Mounted staged.target h.mounts := by
    rw [hs.mounts]
    exact mounted_append initial staged
  have hunused : Unused staged.target h.mounts := by
    rw [hs.mounts]
    intro m hm htarget
    -- No mount from before has the source that is staged, or is in the way of the staging path.
    rcases List.mem_append.mp hm with hm | hm
    · refine ⟨(hidle m hm).1, ?_⟩
      intro n hn hntarget
      rcases List.mem_append.mp hn with hn | hn
      · exact absurd hntarget (hidle n hn).2
      · rw [List.mem_singleton.mp hn]
        exact (hsource m hm).1
    · exact absurd (congrArg Mount.target (List.mem_singleton.mp hm)) htarget
  have hrest : Memory.dropLastOn? staged.target h.mounts = some initial := by
    have hlast : Memory.dropLastOn? staged.target [staged] = some [] := by
      simp [Memory.dropLastOn?]
    rw [hs.mounts]
    simpa using Memory.dropLastOn?_append hlast initial
  unfold Node.unstage
  rw [Prog.delivers_bind, hreq, Host.delivers_ofExcept, Prog.either_ok, Host.delivers_locked]
  unfold unstageLocked
  rw [hpath]
  refine (Prog.delivers_bind ..).mpr ((delivers_unmountStaging staged.target h).mono ?_ ?_)
  · intro mappings h₁ hcase
    obtain rfl : h₁ = { h with mounts := initial } := by
      rcases hcase with ⟨hfree, -⟩ | ⟨-, rest, hdrop, heq⟩
      · exact absurd hmounted hfree
      · rw [heq, Option.some.inj (hdrop.symm.trans hrest)]
    have hclosable : Closable device luks { h with mounts := initial } :=
      hs.closable.same rfl rfl id id
    rw [Prog.delivers_bind, Prog.delivers_lift]
    apply (ensures_leftOpen key mappings _).mono
    intro more h₂ hmore
    obtain ⟨rfl, hmore⟩ := hmore
    rw [← hlabel] at hmore
    rw [Prog.delivers_bind, Prog.delivers_lift]
    apply (hclosable.ensures_closeMappings (hlabel ▸ hplain) hmore).mono
    intro _ h₃ hclosed
    obtain ⟨⟨hu, hf⟩, hgone⟩ := hclosed
    exact ⟨hu.mounts, ⟨hf.files, hf.directories⟩, hlabel ▸ hgone⟩
  · intro e h' hrefused
    exact absurd hunused hrefused.2.2.2

end Requests

end VolumePlugin.Node
