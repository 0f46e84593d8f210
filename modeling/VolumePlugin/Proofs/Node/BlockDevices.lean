import VolumePlugin.Proofs.Node.Serving

/-! # Two ways to a device

A request to hand a volume over as a raw device may name a path of the device. That path is bound as
it is. If the request names none, the device is looked for, and what the first path that exists
leads to is bound. -/

namespace VolumePlugin.Node

open Host
open Prog (Delivers Either Ensures)

/-! ## Binding a device -/

/-- The device that a request has bound, if there is one. -/
def boundDevice? (h : Memory) (req : NodePublishVolumeRequest) (key : VolumeKey) : Option String :=
  let named := req.publishContext.getD Setting.devicePath
  if named ≠ "" then some named
  else foundDevice? h (Device.candidates key.label (req.volumeContext.get? Setting.partition))

theorem boundDevice?_of_named {h : Memory} {req : NodePublishVolumeRequest} (key : VolumeKey)
    (hnamed : req.publishContext.getD Setting.devicePath ≠ "") :
    boundDevice? h req key = some (req.publishContext.getD Setting.devicePath) :=
  if_pos hnamed

theorem boundDevice?_of_unnamed {h : Memory} {req : NodePublishVolumeRequest} (key : VolumeKey)
    (hunnamed : req.publishContext.getD Setting.devicePath = "") :
    boundDevice? h req key =
      foundDevice? h (Device.candidates key.label (req.volumeContext.get? Setting.partition)) :=
  if_neg (not_not_intro hunnamed)

section Publishing

variable {req : NodePublishVolumeRequest} {cap : VolumeCapability} {key : VolumeKey} {h : Memory}

theorem delivers_blockDevice (hkey : VolumeKey.parse req.volumeId = .ok key) (h : Memory) :
    Delivers Answers (blockDevice req) h
      (fun device h' => boundDevice? h req key = some device ∧ h'.mounts = h.mounts)
      (fun e h' => boundDevice? h req key = none ∧ (∃ text, e = .internal text) ∧
        h'.mounts = h.mounts) := by
  unfold blockDevice boundDevice?
  dsimp only
  split
  · exact ⟨rfl, rfl⟩
  · have hhandle : requireHandle req.volumeId = .ok key := by rw [requireHandle, hkey]; rfl
    rw [Prog.delivers_bind, hhandle]
    exact (delivers_resolveDevice_foundDevice? key _ h).mono
      (fun _ _ hfound => ⟨hfound.1, by rw [hfound.2]⟩) fun _ _ hnone => hnone

/-- The mount of a device on the path of a workload. -/
def deviceMount (req : NodePublishVolumeRequest) (device : String) : Mount :=
  ⟨device, req.targetPath, "", bindOptions req.readonly⟩

theorem delivers_publishBlock (hkey : VolumeKey.parse req.volumeId = .ok key) (h : Memory) :
    Delivers Answers (publishBlock req) h
      (fun _ h' => ∃ device, boundDevice? h req key = some device ∧
        h'.mounts = h.mounts ++ [deviceMount req device])
      (fun e h' => boundDevice? h req key = none ∧ (∃ text, e = .internal text) ∧
        h'.mounts = h.mounts) := by
  unfold publishBlock
  refine (Prog.delivers_bind ..).mpr ((delivers_blockDevice hkey h).mono ?_ fun _ _ hbad => hbad)
  rintro device h₁ ⟨hdevice, hsame⟩
  have hrest : ∀ h₂ : Memory, h₂.mounts = h.mounts → Delivers Answers (do
      Job.demand (Host.ask (.createFile req.targetPath)) fun e =>
        .mountFailed req.targetPath s!"create block target: {e.text}"
      Job.ofWork (Host.ask (.mount ⟨device, req.targetPath, "", bindOptions req.readonly⟩))) h₂
      (fun _ h' => ∃ device, boundDevice? h req key = some device ∧
        h'.mounts = h.mounts ++ [deviceMount req device])
      (fun e h' => boundDevice? h req key = none ∧ (∃ text, e = .internal text) ∧
        h'.mounts = h.mounts) := by
    intro h₂ hsame₂
    rw [Prog.delivers_bind, Host.delivers_demand, Host.ensures_ask]
    refine (Host.ensures_ask ..).mpr ⟨device, hdevice, ?_⟩
    rw [← hsame₂]
    rfl
  split
  · next up _ =>
      rw [Prog.delivers_bind, delivers_makeDirectories]
      exact hrest _ ((Memory.mounts_addDirectories h₁ up).trans hsame)
  · exact hrest h₁ hsame

theorem delivers_publish_block (hreq : publishing req = .ok cap) (hblock : cap.isBlock = true)
    (hkey : VolumeKey.parse req.volumeId = .ok key) (h : Memory) :
    Delivers Answers (publish req) h
      (fun _ h' => (Mounted req.targetPath h.mounts ∧ h'.mounts = h.mounts) ∨
        ¬ Mounted req.targetPath h.mounts ∧ ∃ device, boundDevice? h req key = some device ∧
          h'.mounts = h.mounts ++ [deviceMount req device])
      (fun e h' => ¬ Mounted req.targetPath h.mounts ∧ boundDevice? h req key = none ∧
        (∃ text, e = .internal text) ∧ h'.mounts = h.mounts) := by
  unfold publish
  rw [Prog.delivers_bind, hreq, Host.delivers_ofExcept, Prog.either_ok, Host.delivers_locked]
  unfold publishLocked
  rw [Prog.delivers_bind, delivers_isMountPoint]
  cases hmounted : h.isMountPoint req.targetPath with
  | true => exact .inl ⟨Memory.isMountPoint_iff.mp hmounted, rfl⟩
  | false =>
      have hfree := Memory.isMountPoint_eq_false_iff.mp hmounted
      rw [if_neg (by decide), if_pos hblock, Prog.delivers_bind]
      exact (delivers_publishBlock hkey h).mono (fun _ _ hbound => .inr ⟨hfree, hbound⟩)
        fun _ _ hnone => ⟨hfree, hnone⟩

end Publishing

/-! ## The two ways compared -/

/-- The device that a path leads to. -/
def leadsTo (h : Memory) (path : String) : String :=
  (Memory.lookupPath path h.links).getD path

section Comparison

variable {req : NodePublishVolumeRequest} {cap : VolumeCapability} {key : VolumeKey} {s : State}
  {change : Memory → Memory}

/-- Whether a request has bound a device to its path, or has failed for want of one and has bound
nothing. -/
def HandsOver (req : NodePublishVolumeRequest) (change : Memory → Memory) (s : State) :
    Option String → Prop
  | some device =>
    ((⟨.publish req, change⟩ : Arrival).outcome s).1.isOk ∧
      ((⟨.publish req, change⟩ : Arrival).outcome s).2.2.mounts =
        s.2.mounts ++ [deviceMount req device]
  | none =>
    (∃ text, ((⟨.publish req, change⟩ : Arrival).outcome s).1 = .error (.internal text)) ∧
      ((⟨.publish req, change⟩ : Arrival).outcome s).2.2.mounts = s.2.mounts

theorem HandsOver.unique {found found' : Option String} (h : HandsOver req change s found)
    (h' : HandsOver req change s found') : found = found' := by
  match found, found' with
  | none, none => rfl
  | some device, none =>
      have hmounts := h.2.symm.trans h'.2
      simp at hmounts
  | none, some device =>
      have hmounts := h.2.symm.trans h'.2
      simp at hmounts
  | some device, some device' =>
      have hmount := List.append_cancel_left (h.2.symm.trans h'.2)
      have hsource := congrArg Mount.source (List.head_eq_of_cons_eq hmount)
      exact congrArg some hsource

theorem handsOver_boundDevice? (hreq : publishing req = .ok cap) (hblock : cap.isBlock = true)
    (hkey : VolumeKey.parse req.volumeId = .ok key) (hfree : ¬ Mounted req.targetPath s.2.mounts) :
    HandsOver req change s
      (boundDevice? ((⟨.publish req, change⟩ : Arrival).meet s).2 req key) := by
  have houtcome := Arrival.outcome_of_delivers (a := ⟨.publish req, change⟩) (s := s)
    (delivers_publish_block hreq hblock hkey _)
  cases hresult : ((⟨.publish req, change⟩ : Arrival).outcome s).1 with
  | ok response =>
      rw [hresult] at houtcome
      rcases houtcome with ⟨hmounted, -⟩ | ⟨-, device, hdevice, hmounts⟩
      · exact absurd hmounted hfree
      · rw [hdevice]
        exact ⟨by rw [hresult]; rfl, hmounts⟩
  | error e =>
      rw [hresult] at houtcome
      obtain ⟨-, hnone, ⟨text, rfl⟩, hmounts⟩ := houtcome
      rw [hnone]
      exact ⟨⟨text, hresult⟩, hmounts⟩

/-- A path on which something is mounted is left alone. -/
theorem publish_block_of_mounted (hreq : publishing req = .ok cap) (hblock : cap.isBlock = true)
    (hkey : VolumeKey.parse req.volumeId = .ok key) (hmounted : Mounted req.targetPath s.2.mounts) :
    ((⟨.publish req, change⟩ : Arrival).outcome s).1.isOk ∧
      ((⟨.publish req, change⟩ : Arrival).outcome s).2.2.mounts = s.2.mounts := by
  have houtcome := Arrival.outcome_of_delivers (a := ⟨.publish req, change⟩) (s := s)
    (delivers_publish_block hreq hblock hkey _)
  cases hresult : ((⟨.publish req, change⟩ : Arrival).outcome s).1 with
  | ok response =>
      rw [hresult] at houtcome
      rcases houtcome with ⟨-, hsame⟩ | ⟨hfree, -⟩
      · exact ⟨rfl, hsame⟩
      · exact absurd hmounted hfree
  | error e =>
      rw [hresult] at houtcome
      exact absurd hmounted houtcome.1

theorem ne_empty_of_mem_candidates {label path : String} {partition : Option String}
    (h : path ∈ Device.candidates label partition) : path ≠ "" := by
  rintro rfl
  simp [Device.candidates, Device.linkDirectory, toString] at h

/-- The request with another publish context. -/
def given (req : NodePublishVolumeRequest) (context : Attributes) : NodePublishVolumeRequest :=
  { req with publishContext := context }

/-- Whether two requests bind devices, and the one that the first request binds leads to the other
one. -/
def Agree (h : Memory) (req req' : NodePublishVolumeRequest) (change : Memory → Memory)
    (s : State) : Prop :=
  ∃ device device', HandsOver req change s (some device) ∧
    HandsOver req' change s (some device') ∧ leadsTo h device = device'

theorem agree_iff {h : Memory} {req' : NodePublishVolumeRequest} {path : String}
    {found : Option String} (hnamed : HandsOver req change s (some path))
    (hfound : HandsOver req' change s found) :
    Agree h req req' change s ↔ found = some (leadsTo h path) := by
  constructor
  · rintro ⟨device, device', hdevice, hdevice', hsame⟩
    obtain rfl := Option.some.inj (hnamed.unique hdevice)
    rw [hsame]
    exact hfound.unique hdevice'
  · rintro rfl
    exact ⟨path, _, hnamed, hfound, rfl⟩

/-- A request that names one of the paths of the device binds that very path. The same request that
names none binds what the first path that exists leads to, or else fails. So the two agree if and
only if both paths lead to the same device. -/
theorem devices_agree_iff {naming silent : Attributes} (hreq : publishing req = .ok cap)
    (hblock : cap.isBlock = true) (hkey : VolumeKey.parse req.volumeId = .ok key)
    (hnaming : naming.getD Setting.devicePath ∈
      Device.candidates key.label (req.volumeContext.get? Setting.partition))
    (hsilent : silent.getD Setting.devicePath = "") (change : Memory → Memory) (s : State) :
    let h := ((⟨.publish req, change⟩ : Arrival).meet s).2
    let paths := Device.candidates key.label (req.volumeContext.get? Setting.partition)
    let path := naming.getD Setting.devicePath
    (Mounted req.targetPath s.2.mounts → ∀ context ∈ [naming, silent],
      ((⟨.publish (given req context), change⟩ : Arrival).outcome s).1.isOk ∧
        ((⟨.publish (given req context), change⟩ : Arrival).outcome s).2.2.mounts = s.2.mounts) ∧
    (¬ Mounted req.targetPath s.2.mounts →
      HandsOver (given req naming) change s (some path) ∧
      HandsOver (given req silent) change s ((paths.find? h.pathExists).map (leadsTo h)) ∧
      (Agree h (given req naming) (given req silent) change s ↔
        ∃ first, paths.find? h.pathExists = some first ∧ leadsTo h path = leadsTo h first) ∧
      (h.pathExists path →
        (∀ other ∈ paths, h.pathExists other → leadsTo h other = leadsTo h path) →
        Agree h (given req naming) (given req silent) change s)) := by
  intro h paths path
  -- The context of a request is no matter of whether the request is valid.
  have hvalid : ∀ context, publishing (given req context) = .ok cap := fun _ => hreq
  refine ⟨fun hmounted context _ => publish_block_of_mounted (hvalid context) hblock hkey hmounted,
    fun hfree => ?_⟩
  have hover : ∀ context, HandsOver (given req context) change s
      (boundDevice? h (given req context) key) :=
    fun context => handsOver_boundDevice? (hvalid context) hblock hkey hfree
  have hnamed : HandsOver (given req naming) change s (some path) := by
    have hgiven := hover naming
    rwa [boundDevice?_of_named key (ne_empty_of_mem_candidates hnaming)] at hgiven
  have hfound : HandsOver (given req silent) change s
      ((paths.find? h.pathExists).map (leadsTo h)) := by
    have hgiven := hover silent
    rwa [boundDevice?_of_unnamed key hsilent] at hgiven
  have hagree : Agree h (given req naming) (given req silent) change s ↔
      ∃ first, paths.find? h.pathExists = some first ∧ leadsTo h path = leadsTo h first := by
    rw [agree_iff hnamed hfound, Option.map_eq_some_iff]
    simp only [eq_comm]
  refine ⟨hnamed, hfound, hagree, fun hexists hsame => hagree.mpr ?_⟩
  cases hfirst : paths.find? h.pathExists with
  | none => exact absurd hexists (List.find?_eq_none.mp hfirst path hnaming)
  | some first =>
      have hthere : h.pathExists first := List.find?_some hfirst
      exact ⟨first, rfl, (hsame first (List.mem_of_find?_eq_some hfirst) hthere).symm⟩

end Comparison

def publishPlate : NodePublishVolumeRequest :=
  { volumeId := "7-plate", stagingTargetPath := "/staging/plate", targetPath := "/pods/web",
    volumeCapability := some { accessType := some (.block {}) } }

def platePath : String := "/dev/disk/by-id/scsi-0Linode_Volume_plate"

/-- A node on which both paths of a device are links. -/
def linkedNode (device device' : String) : State :=
  ([], (Memory.addLink {} "/dev/disk/by-id/linode-plate" device).addLink platePath device')

/-- Both paths lead to one device. -/
theorem devices_agree_of_plate :
    ¬ Mounted publishPlate.targetPath (linkedNode "/dev/sda" "/dev/sda").2.mounts ∧
      HandsOver (given publishPlate (.single Setting.devicePath platePath)) id
        (linkedNode "/dev/sda" "/dev/sda") (some platePath) ∧
      HandsOver (given publishPlate .empty) id (linkedNode "/dev/sda" "/dev/sda")
        (some "/dev/sda") ∧
      Agree (linkedNode "/dev/sda" "/dev/sda").2
        (given publishPlate (.single Setting.devicePath platePath)) (given publishPlate .empty) id
        (linkedNode "/dev/sda" "/dev/sda") := by
  have hfree : ¬ Mounted publishPlate.targetPath (linkedNode "/dev/sda" "/dev/sda").2.mounts := by
    unfold Mounted
    decide
  have hplate := (@devices_agree_iff publishPlate { accessType := some (.block {}) } ⟨7, "plate"⟩
    (.single Setting.devicePath platePath) .empty rfl rfl (by decide +kernel) (by decide +kernel)
    rfl id (linkedNode "/dev/sda" "/dev/sda")).2 hfree
  obtain ⟨hnamed, hfound, -, hagree⟩ := hplate
  exact ⟨hfree, hnamed, hfound, hagree (by decide +kernel) (by decide +kernel)⟩

/-- The paths lead to two devices, and each request binds another one. -/
theorem plate_on_two_devices :
    platePath ∈ Device.candidates "plate" none ∧
      HandsOver (given publishPlate (.single Setting.devicePath platePath)) id
        (linkedNode "/dev/sda" "/dev/sdb") (some platePath) ∧
      HandsOver (given publishPlate .empty) id (linkedNode "/dev/sda" "/dev/sdb")
        (some "/dev/sda") ∧
      leadsTo (linkedNode "/dev/sda" "/dev/sdb").2 platePath = "/dev/sdb" ∧
      ¬ Agree (linkedNode "/dev/sda" "/dev/sdb").2
        (given publishPlate (.single Setting.devicePath platePath)) (given publishPlate .empty) id
        (linkedNode "/dev/sda" "/dev/sdb") := by
  have hnamed : HandsOver (given publishPlate (.single Setting.devicePath platePath)) id
      (linkedNode "/dev/sda" "/dev/sdb") (some platePath) := by
    unfold HandsOver
    decide +kernel
  have hfound : HandsOver (given publishPlate .empty) id (linkedNode "/dev/sda" "/dev/sdb")
      (some "/dev/sda") := by
    unfold HandsOver
    decide +kernel
  have hleads : leadsTo (linkedNode "/dev/sda" "/dev/sdb").2 platePath = "/dev/sdb" := by
    decide +kernel
  refine ⟨by decide, hnamed, hfound, hleads, ?_⟩
  rw [agree_iff hnamed hfound, hleads]
  decide

end VolumePlugin.Node
