import VolumePlugin.Proofs.Node.Mappings
import VolumePlugin.Proofs.Node.RoundTrip

/-! # The devices behind mappings

A mapping is opened for the device that a request to stage a volume has found, and it keeps the name
of the volume for as long as it is open. Whoever finds the name taken asks for no other mapping. So
a mapping that is mounted is that of a device which some request for the volume has found, but not
always the request that mounts it: the name of the mapping says nothing about the partition. -/

namespace VolumePlugin

open Host
open Prog (Asks Delivers Either Ensures)

/-! ## The record of commands -/

namespace Luks

/-- The device of a mapping after one more command, if the mapping is open. -/
def backingStep (name : String) (device : Option String) (c : Command) : Option String :=
  match opened? c with
  | some (other, opened) => if other = name then some opened else device
  | none => if closed? c = some name then none else device

/-- The device of a mapping after some commands: the one that it was opened for last, unless it was
closed since. -/
def backing? (name : String) (log : List Command) : Option String :=
  log.foldl (backingStep name) none

theorem backing?_append (name : String) (log : List Command) (c : Command) :
    backing? name (log ++ [c]) = backingStep name (backing? name log) c := by
  rw [backing?, List.foldl_append]
  rfl

theorem backing?_append_open (device : String) (c : LuksContext) (log : List Command) :
    backing? c.mapping (log ++ [openCommand device c]) = some device := by
  rw [backing?_append]
  exact if_pos rfl

theorem backing?_append_open_of_ne (device : String) {c : LuksContext} {name : String}
    (hne : c.mapping ≠ name) (log : List Command) :
    backing? name (log ++ [openCommand device c]) = backing? name log := by
  rw [backing?_append]
  exact if_neg hne

section Paths

variable {h : Memory} {c : Command} {path : String}

/-- What is open after a command that opens nothing was open before. -/
theorem pathExists_of_run (hopen : opened? c = none) (hthere : (h.run c).2.pathExists path) :
    h.pathExists path := by
  have hfewer : ∀ other, (h.removePath other).pathExists path → h.pathExists path := by
    intro other hthere
    rw [Memory.pathExists_iff] at hthere ⊢
    exact hthere.imp_right (Or.imp ((fewer_removePath h other).files path)
      ((fewer_removePath h other).directories path))
  cases hresponse : h.response? c.line with
  | some out =>
      rw [Memory.run_of_response? hresponse] at hthere
      exact hthere
  | none =>
      rw [Memory.run_of_response?_eq_none hresponse] at hthere
      unfold Memory.carryOut at hthere
      split at hthere
      · split at hthere <;> exact hthere
      · next hprogram =>
          unfold Memory.cryptsetup at hthere
          split at hthere
          · exact hthere
          · split at hthere
            · next hargs => simp [opened?, hprogram, hargs] at hopen
            · exact hfewer _ hthere
            · exact hthere
            · exact hthere
      · exact hthere

/-- A mapping is gone when it was closed. -/
theorem pathExists_run_closed {name : String} (hsilent : h.responses = [])
    (hlink : Memory.lookupPath (mapperPath name) h.links = none) (hclose : closed? c = some name) :
    (h.run c).2.pathExists (mapperPath name) = false := by
  obtain ⟨hprogram, hargs⟩ : c.program = "cryptsetup" ∧ c.arguments = ["luksClose", name] := by
    unfold closed? at hclose
    split at hclose
    · next hprogram hargs => exact ⟨hprogram, Option.some.inj hclose ▸ hargs⟩
    · cases hclose
  have hrun : (h.run c).2 = (h.logged c).removePath (mapperPath name) := by
    rw [run_of_silent hsilent, ← mapping_eq_mapperPath]
    simp only [Memory.carryOut, hprogram, hargs]
    rfl
  rw [hrun]
  exact Memory.pathExists_removePath_self hlink

end Paths

end Luks

namespace Node

open Luks (backing? mapperPath openCommand probeCommand)

/-! ## What every question keeps -/

section Questions

variable {h h' : Memory} {q : Query} {a : q.Answer}

/-- Links and answers to commands are as they were, whatever the service asks. -/
theorem same_of_answers (ha : Answers q h a h') :
    h'.links = h.links ∧ h'.responses = h.responses := by
  cases q with
  | call c =>
      obtain rfl : (Memory.answer c h).2 = h' := congrArg Prod.snd ha
      cases c with
      | makeDirectories path =>
          have heq := Memory.addDirectories_eq h path
          change (h.addDirectories path).links = _ ∧ (h.addDirectories path).responses = _
          rw [heq]
          exact ⟨rfl, rfl⟩
      | run c => exact ⟨(anchored_run h c).links, (anchored_run h c).responses⟩
      | unmount target =>
          change (h.unmount target).2.links = _ ∧ (h.unmount target).2.responses = _
          unfold Memory.unmount
          split <;> exact ⟨rfl, rfl⟩
      | _ => exact ⟨rfl, rfl⟩
  | _ =>
      obtain rfl := ha
      exact ⟨rfl, rfl⟩

end Questions

/-! ## Work that opens no mapping -/

/-- Devices are where they were, and what mappings are still open are of the devices that they were
of. -/
structure Harmless (h h' : Memory) : Prop where
  anchored : Anchored h h'
  mapping : ∀ name, Memory.lookupPath (mapperPath name) h.links = none →
    h'.pathExists (mapperPath name) →
      h.pathExists (mapperPath name) ∧ backing? name h'.commands = backing? name h.commands

section Harmless

variable {h h' h'' : Memory}

theorem Harmless.refl (h : Memory) : Harmless h h :=
  ⟨.refl h, fun _ _ hthere => ⟨hthere, rfl⟩⟩

theorem Harmless.trans (ha : Harmless h h') (hb : Harmless h' h'') : Harmless h h'' := by
  refine ⟨ha.anchored.trans hb.anchored, fun name hlink hthere => ?_⟩
  have hlink' : Memory.lookupPath (mapperPath name) h'.links = none := by
    rw [ha.anchored.links]
    exact hlink
  obtain ⟨hthere', hbacking'⟩ := hb.mapping name hlink' hthere
  obtain ⟨hthere'', hbacking⟩ := ha.mapping name hlink hthere'
  exact ⟨hthere'', hbacking'.trans hbacking⟩

/-- What runs no command is harmless if it makes no path of a mapping. -/
theorem Harmless.of_paths (hanchored : Anchored h h') (hcommands : h'.commands = h.commands)
    (hpaths : ∀ name, h'.pathExists (mapperPath name) → h.pathExists (mapperPath name)) :
    Harmless h h' :=
  ⟨hanchored, fun name _ hthere => ⟨hpaths name hthere, by rw [hcommands]⟩⟩

theorem harmless_run {c : Command} (hsilent : h.responses = []) (hopen : Luks.opened? c = none) :
    Harmless h (h.run c).2 := by
  refine ⟨anchored_run h c, fun name hlink hthere => ⟨Luks.pathExists_of_run hopen hthere, ?_⟩⟩
  have hclose : Luks.closed? c ≠ some name := by
    intro hclose
    rw [Luks.pathExists_run_closed hsilent hlink hclose] at hthere
    cases hthere
  rw [(Memory.run_recorded h c).1, Luks.backing?_append, Luks.backingStep, hopen]
  exact if_neg hclose

/-- A path outside of a directory is none of those in it. -/
theorem components_ne_of_outside {directory path other : String}
    (hout : ¬ Path.Within directory path) (hother : Path.Within directory other) :
    Path.components path ≠ Path.components other := by
  intro heq
  unfold Path.Within at hout hother
  rw [heq] at hout
  exact hout hother

theorem harmless_of_confined {q : Query} {a : q.Answer} (hsilent : h.responses = [])
    (hq : Confined (fun path => ¬ Path.Within "/dev" path) q) (ha : Answers q h a h') :
    Harmless h h' := by
  cases q with
  | newDisks disks => exact ha ▸ .refl h
  | lock => exact hq.elim
  | unlock => exact hq.elim
  | call c =>
      obtain rfl : (Memory.answer c h).2 = h' := congrArg Prod.snd ha
      cases c with
      | makeDirectories path =>
          have hout : ¬ Path.Within "/dev" path := hq
          refine .of_paths (anchored_addDirectories h hout) (Memory.commands_addDirectories h path)
            fun name hthere => ?_
          exact (Memory.pathExists_addDirectories
            fun hin => hout ((Luks.mapperPath_within name).trans hin)).mp hthere
      | createFile path =>
          have hout : ¬ Path.Within "/dev" path := hq
          refine .of_paths (anchored_addFile h fun other hother =>
            components_ne_of_outside hout (Device.within_dev_of_within hother)) rfl ?_
          intro name hthere
          rcases Memory.pathExists_addFile.mp hthere with heq | hthere
          · exact absurd heq (components_ne_of_outside hout (Luks.mapperPath_within name))
          · exact hthere
      | remove path =>
          have hout : ¬ Path.Within "/dev" path := hq
          refine .of_paths (anchored_removePath h fun other hother =>
            components_ne_of_outside hout (Device.within_dev_of_within hother)) rfl ?_
          intro name hthere
          exact (Memory.pathExists_removePath_of_ne
            (components_ne_of_outside hout (Luks.mapperPath_within name))).mp hthere
      | run c => exact harmless_run hsilent hq
      | unmount target =>
          change Harmless h (h.unmount target).2
          unfold Memory.unmount
          split
          · exact .of_paths ⟨rfl, rfl, fun _ _ => Iff.rfl⟩ rfl fun _ hthere => hthere
          · exact .refl h
      | _ => exact .of_paths ⟨rfl, rfl, fun _ _ => Iff.rfl⟩ rfl fun _ hthere => hthere

/-- Work that is confined does no harm. -/
theorem ensures_harmless {α : Type} {work : Work α} (hsilent : h.responses = [])
    (hwork : Asks (Confined fun path => ¬ Path.Within "/dev" path) work) :
    Ensures Answers work h fun _ h' => Harmless h h' := by
  refine hwork.keeps (Harmless h) ?_ (.refl h)
  intro q h₁ a h₂ hq ha hh
  exact hh.trans (harmless_of_confined (hh.anchored.responses.trans hsilent) hq ha)

theorem delivers_harmless {α : Type} {job : Job α} (hsilent : h.responses = [])
    (hjob : Asks (Confined fun path => ¬ Path.Within "/dev" path) job.run) :
    Delivers Answers job h (fun _ h' => Harmless h h') (fun _ h' => Harmless h h') := by
  refine Ensures.mono (ensures_harmless hsilent hjob) fun result h' hh => ?_
  cases result <;> exact hh

theorem delivers_harmless_locked {α β : Type} {valid : Except CsiError β} {task : β → Job α}
    (hsilent : h.responses = [])
    (htask : ∀ b, Asks (Confined fun path => ¬ Path.Within "/dev" path) (task b).run) :
    Delivers Answers (Job.ofExcept valid >>= fun b => Job.locked (task b)) h
      (fun _ h' => Harmless h h') (fun _ h' => Harmless h h') := by
  rw [Prog.delivers_bind, Host.delivers_ofExcept]
  cases valid with
  | error e => exact .refl h
  | ok b => exact (Host.delivers_locked ..).mpr (delivers_harmless hsilent (htask b))

/-- No request but one to stage a volume opens a mapping, whatever else it does outside of the
directory of devices. -/
theorem Request.delivers_harmless {r : Request} (hr : ∀ req, r ≠ .stage req)
    (hout : ∀ path, r.targetPath? = some path → ¬ Path.Within "/dev" path)
    (hsilent : h.responses = []) :
    Delivers Answers r.job h (fun _ h' => Harmless h h') (fun _ h' => Harmless h h') := by
  cases r with
  | stage req => exact absurd rfl (hr req)
  | unstage req => exact delivers_harmless_locked hsilent fun key => confined_unstageLocked req key
  | publish req =>
      apply delivers_harmless_locked hsilent
      apply confined_publishLocked
      intro path hpath hin
      exact hout _ rfl (List.IsPrefix.trans hin hpath)
  | unpublish req =>
      exact delivers_harmless_locked hsilent fun _ => confined_unpublishLocked (hout _ rfl)
  | expand req => exact delivers_harmless_locked hsilent fun _ => confined_expandLocked req
  | stats req =>
      exact Node.delivers_harmless hsilent (confined_of_asks_mild (mild_volumeStats req))

end Harmless

/-! ## One request to stage an encrypted volume -/

/-- A request to stage the file system of an encrypted volume. -/
def Unlocks (req : NodeStageVolumeRequest) (key : VolumeKey) : Prop :=
  ∃ cap, staging req = .ok ⟨key, cap, luksOf req key⟩ ∧ cap.isBlock = false ∧
    (luksOf req key).enabled = true

section Staging

variable {req : NodeStageVolumeRequest} {key : VolumeKey} {device : String} {h : Memory}

theorem staging_luks {s : Staging} (hreq : staging req = .ok s) :
    s.luks = luksOf req s.key ∧
      (s.luks.enabled = true → s.cap.isBlock = false → s.luks.validate = .ok ()) := by
  simp only [staging, except_bind_eq_ok] at hreq
  obtain ⟨_, -, _, -, cap, -, key, -, hreq⟩ := hreq
  split at hreq
  · obtain ⟨_, hvalid, hreq⟩ := except_bind_eq_ok.mp hreq
    obtain rfl := Except.ok.inj hreq
    exact ⟨rfl, fun _ _ => hvalid⟩
  · next hother =>
      obtain rfl := Except.ok.inj hreq
      refine ⟨rfl, fun henabled hblock => absurd ?_ hother⟩
      dsimp only at henabled hblock
      rw [henabled, hblock]
      rfl

/-- How a request has come by the mapping of a device that it mounts. It has opened the mapping for
the device, or it has found the path taken and has only had a look at the device, which holds
something. -/
def Obtains (name device : String) (h h' : Memory) : Prop :=
  h'.pathExists (mapperPath name) ∧
    (backing? name h'.commands = some device ∨
      h.pathExists (mapperPath name) ∧ (h.fsTypes.lookup device).isSome ∧
        h'.commands = h.commands ++ [probeCommand device])

theorem obliging_of_silent (device : String) (c : LuksContext) (hsilent : h.responses = []) :
    Luks.Obliging device c h := by
  have hnone : ∀ line, h.response? line = none := by
    intro line
    unfold Memory.response?
    rw [hsilent]
    rfl
  constructor <;> simp [hnone]

theorem delivers_isFormatted_of_silent (device : String) (hsilent : h.responses = []) :
    Delivers Answers (Luks.isFormatted device) h
      (fun found h' => found = (h.fsTypes.lookup device).isSome ∧
        h' = h.logged (probeCommand device)) (fun _ _ => False) := by
  have hrun : h.run ⟨"blkid", ["-p", device], none⟩ =
      (h.blkid ["-p", device] device, h.logged (probeCommand device)) :=
    Luks.run_probe hsilent device
  unfold Luks.isFormatted
  rw [Prog.delivers_bind, Host.delivers_run, hrun]
  dsimp only
  rw [Luks.code_blkid]
  cases (h.fsTypes.lookup device).isSome with
  | true => exact ⟨rfl, rfl⟩
  | false => exact ⟨rfl, rfl⟩

/-- A mapping is open for a device when it has been opened for it, and a path that is taken stays as
it is. -/
theorem delivers_openMapping_of_silent (device : String) (c : LuksContext)
    (hsilent : h.responses = []) :
    Delivers Answers (Luks.openMapping device c) h
      (fun path h' => path = mapperPath c.mapping ∧ h'.pathExists (mapperPath c.mapping) ∧
        (h.pathExists (mapperPath c.mapping) ∧ h' = h ∨
          backing? c.mapping h'.commands = some device)) (fun _ _ => False) := by
  have ho := obliging_of_silent device c hsilent
  unfold Luks.openMapping
  rw [Prog.delivers_bind, Prog.delivers_lift, Host.ensures_ask]
  change Delivers Answers
    (if h.pathExists (mapperPath c.mapping) then pure (mapperPath c.mapping) else _) h _ _
  by_cases htaken : h.pathExists (mapperPath c.mapping)
  · rw [if_pos htaken]
    exact ⟨rfl, htaken, .inl ⟨htaken, rfl⟩⟩
  · rw [if_neg htaken]
    apply (Luks.delivers_obeyed "luksOpen" ho.opens (by simp)).followed
    rintro _ _ rfl
    refine ⟨rfl, ?_, .inr ?_⟩
    · change (h.run (openCommand device c)).2.pathExists (mapperPath c.mapping)
      rw [Luks.run_open hsilent]
      exact Memory.pathExists_addFile.mpr (.inl rfl)
    · rw [(Memory.run_recorded h _).1]
      exact Luks.backing?_append_open device c h.commands

/-- A mapping is not open when its device has been formatted. -/
theorem delivers_format_of_silent (device : String) {c : LuksContext} (hsilent : h.responses = [])
    (hlink : Memory.lookupPath (mapperPath c.mapping) h.links = none)
    (hvalid : c.validate = .ok ()) :
    Delivers Answers (Luks.format device c) h
      (fun _ h' => h'.responses = [] ∧ h'.pathExists (mapperPath c.mapping) = false)
      (fun _ _ => False) := by
  have ho := obliging_of_silent device c hsilent
  unfold Luks.format
  rw [Prog.delivers_bind, Host.delivers_ofExcept, hvalid, Prog.either_ok]
  apply (Luks.delivers_obeyed "luksFormat" ho.formats (by simp [Luks.formatArguments])).followed
  intro _ h₁ heq₁
  have hu₁ : Undisturbed h h₁ := heq₁ ▸ Memory.undisturbed_run h _
  apply (Luks.delivers_openMapping (ho.same hu₁.responses)).followed
  rintro _ h₂ ⟨-, hu₂⟩
  have hu := hu₁.trans hu₂
  apply (Luks.delivers_close (ho.same hu.responses)).sure
  rintro _ _ rfl
  refine ⟨(Memory.undisturbed_run h₂ _).responses.trans (hu.responses.trans hsilent), ?_⟩
  exact Luks.pathExists_run_closed (hu.responses.trans hsilent) (hu.links ▸ hlink) rfl

theorem delivers_mountSource_of_silent (device : String) {c : LuksContext}
    (hsilent : h.responses = [])
    (hlink : Memory.lookupPath (mapperPath c.mapping) h.links = none)
    (henabled : c.enabled = true) (hvalid : c.validate = .ok ()) :
    Delivers Answers (mountSource device c) h
      (fun source h' => source = mapperPath c.mapping ∧ Obtains c.mapping device h h')
      (fun _ _ => False) := by
  unfold mountSource
  rw [if_pos henabled]
  apply (delivers_isFormatted_of_silent device hsilent).followed
  rintro found _ ⟨hfound, rfl⟩
  cases found with
  | true =>
      apply (delivers_openMapping_of_silent (h := h.logged (probeCommand device)) device c
        hsilent).sure
      rintro source h' ⟨hsource, hthere, ⟨htaken, rfl⟩ | hopened⟩
      · exact ⟨hsource, hthere, .inr ⟨htaken, hfound.symm, rfl⟩⟩
      · exact ⟨hsource, hthere, .inl hopened⟩
  | false =>
      apply (delivers_format_of_silent (h := h.logged (probeCommand device)) device hsilent hlink
        hvalid).followed
      rintro _ h₁ ⟨hsilent₁, hclosed⟩
      apply (delivers_openMapping_of_silent device c hsilent₁).sure
      rintro source h' ⟨hsource, hthere, ⟨htaken, rfl⟩ | hopened⟩
      · rw [hclosed] at htaken
        cases htaken
      · exact ⟨hsource, hthere, .inl hopened⟩

theorem Obtains.mounted {name : String} {h' : Memory} (ho : Obtains name device h h')
    (path : String) (formatted : List (String × String)) (m : Mount) :
    Obtains name device h ({ h'.addDirectories path with formatted := formatted }.mount m) := by
  refine ⟨Memory.pathExists_addDirectories_of ho.1, ?_⟩
  simpa [Memory.mount] using ho.2

/-- A request that mounts anything mounts the mapping of its volume, and it has come by it in one of
two ways. -/
theorem delivers_stage_of_silent (hreq : Unlocks req key) (hsilent : h.responses = [])
    (hlink : Memory.lookupPath (mapperPath key.label) h.links = none) :
    Delivers Answers (stage req) h
      (fun _ h' => h'.mounts = h.mounts ∨ ∃ device cap, ownDevice? h req key = some device ∧
        req.volumeCapability = some cap ∧ h'.mounts = h.mounts ++ [stagedMapping req key cap] ∧
        Obtains key.label device h h')
      (fun _ h' => h'.mounts = h.mounts) := by
  obtain ⟨cap, hstaging, hblock, henabled⟩ := hreq
  have hvalid := (staging_luks hstaging).2 henabled hblock
  unfold stage
  rw [Prog.delivers_bind, hstaging, Host.delivers_ofExcept, Prog.either_ok, Host.delivers_locked]
  unfold stageLocked
  refine (Prog.delivers_bind ..).mpr ((delivers_resolveDevice_foundDevice? _ _ _).mono ?_ ?_)
  · rintro device h₁ ⟨hdevice, rfl⟩
    rw [Prog.delivers_bind, delivers_isMountPoint]
    split
    · exact .inl rfl
    · rw [hblock, if_neg (by decide)]
      have hsource := (delivers_mountSource_of_silent device (c := luksOf req key) hsilent hlink
        henabled hvalid).and (delivers_of_quiet (quiet_mountSource device (luksOf req key)) h₁)
      refine (Prog.delivers_bind ..).mpr (hsource.mono ?_ ?_)
      · rintro source h₂ ⟨⟨rfl, hobtains⟩, hmounts⟩
        rw [Prog.delivers_bind, delivers_makeDirectories]
        refine (Prog.delivers_bind ..).mpr ((Host.ensures_ask ..).mpr ?_)
        refine .inr ⟨device, cap, hdevice, (staging_eq_ok hstaging).2, ?_, ?_⟩
        · simp only [Memory.answer, Memory.mount, Memory.mounts_addDirectories, hmounts]
          rfl
        · exact hobtains.mounted req.stagingTargetPath _ (stagedMapping req key cap)
      · rintro _ _ ⟨hfalse, -⟩
        exact hfalse.elim
  · exact fun _ _ hnone => hnone.2.2

end Staging

/-! ## Whole runs -/

/-- The label of a volume that a request of a run is to stage as an encrypted one. -/
def Unlocked (requests : List Request) (label : String) : Prop :=
  ∃ req key, .stage req ∈ requests ∧ Unlocks req key ∧ key.label = label

/-- The device that a request of a run has found for the mapping of a label. -/
def FoundBy (h : Memory) (requests : List Request) (label device : String) : Prop :=
  ∃ req key, .stage req ∈ requests ∧ Unlocks req key ∧ key.label = label ∧
    ownDevice? h req key = some device

/-- If all of these requests are for one partition, that is the device of each. -/
theorem FoundBy.own {h : Memory} {requests : List Request} {req : NodeStageVolumeRequest}
    {key : VolumeKey} {device : String} (hfound : FoundBy h requests key.label device)
    (hpartition : ∀ other k, .stage other ∈ requests → Unlocks other k → k.label = key.label →
      other.volumeContext.get? Setting.partition = req.volumeContext.get? Setting.partition) :
    ownDevice? h req key = some device := by
  obtain ⟨other, k, hmem, hother, hlabel, hdevice⟩ := hfound
  rw [ownDevice?, hlabel, hpartition other k hmem hother hlabel] at hdevice
  exact hdevice

/-- The paths of a run lie outside of the directory of devices, and the labels of its encrypted
volumes are not just two spellings of one path. -/
structure Tidy (requests : List Request) : Prop where
  outside : ∀ r ∈ requests, ∀ path, r.stagingPath? = some path ∨ r.targetPath? = some path →
    ¬ Path.Within "/dev" path
  distinct : ∀ label other, Unlocked requests label → Unlocked requests other →
    Path.components (mapperPath label) = Path.components (mapperPath other) → label = other

/-- Devices are where they were at the start, and a mapping that is open is that of a device which
some request so far has found for it. -/
structure Backed (start : Memory) (all past : List Request) (h : Memory) : Prop where
  anchored : Anchored start h
  backed : ∀ label, Unlocked all label → h.pathExists (mapperPath label) →
    ∃ device, backing? label h.commands = some device ∧ FoundBy start past label device

section Runs

variable {start h h' : Memory} {all past : List Request} {req : NodeStageVolumeRequest}
  {key : VolumeKey} {device : String}

theorem backed_start (hclosed : ∀ label, Unlocked all label →
    start.pathExists (mapperPath label) = false) : Backed start all [] start := by
  refine ⟨.refl start, fun label hlabel hthere => ?_⟩
  rw [hclosed label hlabel] at hthere
  cases hthere

theorem Backed.later (hb : Backed start all past h) (more : List Request) :
    Backed start all (past ++ more) h := by
  refine ⟨hb.anchored, fun label hlabel hthere => ?_⟩
  obtain ⟨device, hbacking, req, key, hmem, hfound⟩ := hb.backed label hlabel hthere
  exact ⟨device, hbacking, req, key, List.mem_append_left more hmem, hfound⟩

theorem Backed.harmless (hb : Backed start all past h)
    (hclosed : ∀ label, Unlocked all label → start.pathExists (mapperPath label) = false)
    (hh : Harmless h h') : Backed start all past h' := by
  refine ⟨hb.anchored.trans hh.anchored, fun label hlabel hthere => ?_⟩
  have hlink : Memory.lookupPath (mapperPath label) h.links = none := by
    rw [hb.anchored.links]
    exact (pathExists_eq_false_iff.mp (hclosed label hlabel)).1
  obtain ⟨hthere, hsame⟩ := hh.mapping label hlink hthere
  rw [hsame]
  exact hb.backed label hlabel hthere

theorem Backed.opened (hb : Backed start all past h) (hsilent : start.responses = [])
    (htidy : Tidy all) (hreq : Unlocks req key) (hall : .stage req ∈ all)
    (hpast : .stage req ∈ past) (hdevice : ownDevice? start req key = some device) :
    Backed start all past (h.run (openCommand device (luksOf req key))).2 := by
  refine ⟨hb.anchored.trans (anchored_run h _), fun label hlabel hthere => ?_⟩
  rw [(Memory.run_recorded h _).1]
  by_cases hsame : key.label = label
  · obtain rfl := hsame
    exact ⟨device, Luks.backing?_append_open device (luksOf req key) h.commands,
      req, key, hpast, hreq, rfl, hdevice⟩
  · -- Another label is that of another path, so nothing has become of its mapping.
    rw [Luks.run_open (hb.anchored.responses.trans hsilent)] at hthere
    rw [Luks.backing?_append_open_of_ne device (c := luksOf req key) hsame]
    rcases Memory.pathExists_addFile.mp hthere with heq | hthere
    · exact absurd (htidy.distinct _ _ ⟨req, key, hall, hreq, rfl⟩ hlabel heq) hsame
    · exact hb.backed label hlabel hthere

theorem Backed.delivers_mountSource (hb : Backed start all past h)
    (hclosed : ∀ label, Unlocked all label → start.pathExists (mapperPath label) = false)
    (hsilent : start.responses = []) (htidy : Tidy all) {cap : VolumeCapability}
    (hstaging : staging req = .ok ⟨key, cap, luksOf req key⟩) (hblock : cap.isBlock = false)
    (hall : .stage req ∈ all) (hpast : .stage req ∈ past)
    (hdevice : ownDevice? start req key = some device) :
    Delivers Answers (mountSource device (luksOf req key)) h
      (fun _ h' => Backed start all past h') (fun _ h' => Backed start all past h') := by
  cases henabled : (luksOf req key).enabled with
  | false =>
      unfold mountSource
      rw [henabled]
      exact hb
  | true =>
      refine Ensures.mono ((unlocking_mountSource device (luksOf req key)).keeps
        (Backed start all past) ?_ hb) fun result h' hb' => ?_
      · rintro q h₁ a h₂ (hq | rfl) ha hb₁
        · have hsilent₁ : h₁.responses = [] := hb₁.anchored.responses.trans hsilent
          exact hb₁.harmless hclosed (harmless_of_confined hsilent₁ (confined_of_mild hq) ha)
        · obtain rfl : (h₁.run (openCommand device (luksOf req key))).2 = h₂ :=
            congrArg Prod.snd ha
          exact hb₁.opened hsilent htidy ⟨cap, hstaging, hblock, henabled⟩ hall hpast hdevice
      · cases result <;> exact hb'

theorem confined_mountOn {path : String} (hout : ¬ Path.Within "/dev" path) (m : Mount) :
    Asks (Confined fun other => ¬ Path.Within "/dev" other) (do
      makeDirectories path
      Job.ofWork (Host.ask (.formatAndMount m))
      return {} : Job NodeStageVolumeResponse).run :=
  (confined_makeDirectories hout).bind_run fun _ =>
    Asks.bind_run (asks_ask trivial) fun _ => trivial

theorem Backed.delivers_stage (hb : Backed start all past h)
    (hclosed : ∀ label, Unlocked all label → start.pathExists (mapperPath label) = false)
    (hsilent : start.responses = []) (htidy : Tidy all) (hall : .stage req ∈ all)
    (hpast : .stage req ∈ past) :
    Delivers Answers (stage req) h (fun _ h' => Backed start all past h')
      (fun _ h' => Backed start all past h') := by
  have hsilent' : h.responses = [] := hb.anchored.responses.trans hsilent
  have hout : ¬ Path.Within "/dev" req.stagingTargetPath :=
    htidy.outside _ hall _ (.inl rfl)
  unfold stage
  rw [Prog.delivers_bind, Host.delivers_ofExcept]
  cases hstaging : staging req with
  | error e => exact hb
  | ok s =>
      obtain ⟨key, cap, luks⟩ := s
      obtain rfl : luks = luksOf req key := (staging_luks hstaging).1
      rw [Prog.either_ok, Host.delivers_locked]
      unfold stageLocked
      have hresolve := (delivers_resolveDevice_foundDevice? key
        (req.volumeContext.get? Setting.partition) h).and
          (delivers_harmless hsilent' (confined_of_asks_mild (mild_resolveDevice key _)))
      refine (Prog.delivers_bind ..).mpr (hresolve.mono ?_ ?_)
      · rintro device h₁ ⟨⟨hfound, rfl⟩, -⟩
        have hdevice : ownDevice? start req key = some device :=
          (hb.anchored.foundDevice?_eq ..).symm.trans hfound
        rw [Prog.delivers_bind, delivers_isMountPoint]
        split
        · exact hb
        · split
          · exact hb
          · next hblock =>
              refine (Prog.delivers_bind ..).mpr ((hb.delivers_mountSource hclosed hsilent htidy
                hstaging (by simpa using hblock) hall hpast hdevice).mono ?_ fun _ _ hb' => hb')
              intro source h₂ hb₂
              have hrest := confined_mountOn hout
                ⟨source, req.stagingTargetPath, cap.fsType, cap.mountFlags⟩
              have hsilent₂ : h₂.responses = [] := hb₂.anchored.responses.trans hsilent
              exact (delivers_harmless hsilent₂ hrest).mono
                (fun _ _ hh => hb₂.harmless hclosed hh) (fun _ _ hh => hb₂.harmless hclosed hh)
      · rintro _ h₁ ⟨-, hh⟩
        exact hb.harmless hclosed hh

/-- A request keeps mappings to devices that were found for them. -/
theorem Backed.outcome {s : State} (hb : Backed start all past s.2)
    (hclosed : ∀ label, Unlocked all label → start.pathExists (mapperPath label) = false)
    (hsilent : start.responses = []) (htidy : Tidy all) {r : Request} (hall : r ∈ all) :
    Backed start all (past ++ [r]) (r.alone.outcome s).2.2 := by
  have hdelivers : Delivers Answers r.job s.2 (fun _ h' => Backed start all (past ++ [r]) h')
      (fun _ h' => Backed start all (past ++ [r]) h') := by
    by_cases hstage : ∃ req, r = .stage req
    · obtain ⟨req, rfl⟩ := hstage
      exact (hb.later [.stage req]).delivers_stage hclosed hsilent htidy hall (by simp)
    · refine (Request.delivers_harmless (fun req heq => hstage ⟨req, heq⟩)
        (fun path hpath => htidy.outside r hall path (.inr hpath))
        (hb.anchored.responses.trans hsilent)).mono ?_ ?_
      · exact fun _ _ hh => (hb.later [r]).harmless hclosed hh
      · exact fun _ _ hh => (hb.later [r]).harmless hclosed hh
  exact (Arrival.outcome_of_delivers (a := r.alone) hdelivers).elim (fun _ hb' => hb')
    (fun _ hb' => hb')

theorem Backed.after (hclosed : ∀ label, Unlocked all label →
      start.pathExists (mapperPath label) = false)
    (hsilent : start.responses = []) (htidy : Tidy all) (more : List Request)
    (hmore : more ⊆ all) :
    ∀ {past : List Request} {s : State}, Backed start all past s.2 →
      Backed start all (past ++ more) (Node.after s (more.map Request.alone)).2 := by
  induction more with
  | nil =>
      intro past s hb
      simpa using hb
  | cons r rest ih =>
      intro past s hb
      have hnext := hb.outcome hclosed hsilent htidy (hmore List.mem_cons_self)
      have hlast := ih (fun r' hr' => hmore (List.mem_cons_of_mem r hr')) hnext
      rw [List.append_assoc] at hlast
      exact hlast

/-- The host after a run of requests. -/
def hostAfter (s : State) (requests : List Request) : Memory :=
  (Node.after s (requests.map Request.alone)).2

theorem hostAfter_append_one (s : State) (requests : List Request) (r : Request) :
    hostAfter s (requests ++ [r]) =
      (r.alone.outcome (Node.after s (requests.map Request.alone))).2.2 := by
  rw [hostAfter, List.map_append, after_append]
  rfl

theorem backed_hostAfter {s : State} {requests : List Request}
    (hclosed : ∀ label, Unlocked all label → s.2.pathExists (mapperPath label) = false)
    (hsilent : s.2.responses = []) (htidy : Tidy all) (hrequests : requests ⊆ all) :
    Backed s.2 all requests (hostAfter s requests) :=
  (backed_start hclosed).after hclosed hsilent htidy requests hrequests

theorem Request.outcome_same (r : Request) (s : State) :
    (r.alone.outcome s).2.2.links = s.2.links ∧
      (r.alone.outcome s).2.2.responses = s.2.responses := by
  have hkeeps : Ensures Answers r.job.run s.2 fun _ h' =>
      h'.links = s.2.links ∧ h'.responses = s.2.responses := by
    refine (Prog.asks_any r.job.run).keeps _ ?_ ⟨rfl, rfl⟩
    intro q h₁ a h₂ _ ha hsame
    have hnext := same_of_answers ha
    exact ⟨hnext.1.trans hsame.1, hnext.2.trans hsame.2⟩
  exact Ensures.run answers_sound hkeeps

theorem hostAfter_same (s : State) (requests : List Request) :
    (hostAfter s requests).links = s.2.links ∧
      (hostAfter s requests).responses = s.2.responses := by
  induction requests generalizing s with
  | nil => exact ⟨rfl, rfl⟩
  | cons r rest ih =>
      have hfirst := r.outcome_same s
      have hrest := ih (r.alone.outcome s).2
      exact ⟨hrest.1.trans hfirst.1, hrest.2.trans hfirst.2⟩

/-- What is known about the mapping that a request has mounted, after a run of other requests. -/
structure Traced (past : List Request) (req : NodeStageVolumeRequest) (key : VolumeKey)
    (device : String) (h h' : Memory) : Prop where
  found : ownDevice? h req key = some device
  mounted : ∃ cap, req.volumeCapability = some cap ∧
    h'.mounts = h.mounts ++ [stagedMapping req key cap]
  /-- The request has opened the mapping for its own device, or it has found the path taken and run
  no command but the one that looks at the device. -/
  obtained : backing? key.label h'.commands = some device ∨
    h.pathExists (mapperPath key.label) ∧ (h.fsTypes.lookup device).isSome ∧
      h'.commands = h.commands ++ [probeCommand device]
  /-- The mapping is open for the device that this request or one before it has found for the
  label. -/
  backed : Tidy (past ++ [.stage req]) → ∃ other,
    backing? key.label h'.commands = some other ∧
      FoundBy h (past ++ [.stage req]) key.label other
  /-- If all of them are for one partition, that is the device of this request. -/
  own : Tidy (past ++ [.stage req]) →
    (∀ other k, .stage other ∈ past → Unlocks other k → k.label = key.label →
      other.volumeContext.get? Setting.partition = req.volumeContext.get? Setting.partition) →
    backing? key.label h'.commands = some device

/-- Whenever a request to stage an encrypted volume mounts a mapping, in a run on a host where no
command fails and none of the mappings of the run is open at first, the mapping was opened last for
a device that a request of the run has found for the label. -/
theorem staged_mapping_backed {s : State} (past : List Request) (hreq : Unlocks req key)
    (hsilent : s.2.responses = [])
    (hclosed : ∀ label, Unlocked (past ++ [.stage req]) label →
      s.2.pathExists (mapperPath label) = false)
    (hmounts : (hostAfter s (past ++ [.stage req])).mounts ≠ (hostAfter s past).mounts) :
    ∃ device, Traced past req key device (hostAfter s past)
      (hostAfter s (past ++ [.stage req])) := by
  have hall : Request.stage req ∈ past ++ [.stage req] := by simp
  have hsame := hostAfter_same s past
  have hlink : Memory.lookupPath (mapperPath key.label) (hostAfter s past).links = none := by
    rw [hsame.1]
    exact (pathExists_eq_false_iff.mp (hclosed _ ⟨req, key, hall, hreq, rfl⟩)).1
  have hdelivers := Arrival.outcome_of_delivers (a := (Request.stage req).alone)
    (s := Node.after s (past.map Request.alone))
    (delivers_stage_of_silent hreq (hsame.2.trans hsilent) hlink)
  rw [← hostAfter_append_one] at hdelivers
  obtain ⟨device, cap, hdevice, hcap, hmounted, hthere, hobtained⟩ :=
    (hdelivers.elim (fun _ hok => hok) fun _ hbad => .inl hbad).resolve_left hmounts
  have hbacked : Tidy (past ++ [.stage req]) → ∃ other,
      backing? key.label (hostAfter s (past ++ [.stage req])).commands = some other ∧
      FoundBy (hostAfter s past) (past ++ [.stage req]) key.label other := by
    intro htidy
    have hbefore := backed_hostAfter hclosed hsilent htidy
      (List.subset_append_left past [.stage req])
    have hafter := backed_hostAfter hclosed hsilent htidy (List.Subset.refl _)
    obtain ⟨other, hbacking, opener, k, hmem, hopener, hlabel, hfound⟩ :=
      hafter.backed _ ⟨req, key, hall, hreq, rfl⟩ hthere
    exact ⟨other, hbacking, opener, k, hmem, hopener, hlabel,
      (hbefore.anchored.foundDevice?_eq ..).trans hfound⟩
  refine ⟨device, hdevice, ⟨cap, hcap, hmounted⟩, hobtained, hbacked, fun htidy hpartition => ?_⟩
  obtain ⟨other, hbacking, hfound⟩ := hbacked htidy
  have hown : ownDevice? (hostAfter s past) req key = some other := by
    apply hfound.own
    intro opener k hmem hopener hlabel
    rcases List.mem_append.mp hmem with hpast | hlast
    · exact hpartition opener k hpast hopener hlabel
    · cases List.mem_singleton.mp hlast
      rfl
  rw [hbacking]
  exact hown.symm.trans hdevice

end Runs

/-! ## Mappings of other devices -/

theorem Unlocks.unique {req : NodeStageVolumeRequest} {key other : VolumeKey}
    (hkey : Unlocks req key) (hother : Unlocks req other) : key = other := by
  obtain ⟨cap, hstaging, -⟩ := hkey
  obtain ⟨cap', hstaging', -⟩ := hother
  rw [hstaging] at hstaging'
  injection hstaging' with heq
  exact congrArg Staging.key heq

/-- No mapping is open on a host with nothing in the directory of mappings. -/
theorem closed_of_outside {h : Memory}
    (hlinks : ∀ e ∈ h.links, ¬ Path.Within "/dev/mapper" e.1)
    (hpaths : ∀ path ∈ h.files.paths ++ h.directories.paths, ¬ Path.Within "/dev/mapper" path)
    (name : String) : h.pathExists (mapperPath name) = false := by
  have hname := Luks.mapperPath_within_directory name
  have hlink : Memory.lookupPath (mapperPath name) h.links = none := by
    have hnone : h.links.find? (fun e => Path.same e.1 (mapperPath name)) = none := by
      apply List.find?_eq_none.mpr
      intro e he hsame
      exact components_ne_of_outside (hlinks e he) hname (by simpa [Path.same] using hsame)
    unfold Memory.lookupPath
    rw [hnone]
    rfl
  have habsent : ∀ set : PathSet, (∀ path ∈ set.paths, ¬ Path.Within "/dev/mapper" path) →
      ¬ set.contains (mapperPath name) := by
    intro set hset hin
    obtain ⟨path, hpath, heq⟩ := PathSet.contains_iff.mp hin
    exact components_ne_of_outside (hset path hpath) hname heq
  refine pathExists_eq_false_iff.mpr ⟨hlink, habsent _ ?_, habsent _ ?_⟩
  · exact fun path hpath => hpaths path (List.mem_append_left _ hpath)
  · exact fun path hpath => hpaths path (List.mem_append_right _ hpath)

/-- A disk with two partitions, each of which holds an encrypted device. -/
def partitionedNode : State :=
  let disk : Memory := { fsTypes := [("/dev/sda1", "crypto_LUKS"), ("/dev/sda2", "crypto_LUKS")] }
  ([], (disk.addLink "/dev/disk/by-id/linode-data-part1" "/dev/sda1").addLink
    "/dev/disk/by-id/linode-data-part2" "/dev/sda2")

theorem partitionedNode_closed (name : String) :
    partitionedNode.2.pathExists (mapperPath name) = false :=
  closed_of_outside (by decide) (by decide +kernel) name

/-- The encrypted file system of a partition is to be staged. -/
def stagePartition (partition path : String) : NodeStageVolumeRequest :=
  { secretJourney.stage with
    stagingTargetPath := path
    volumeContext := .ofList [(Setting.luksEncrypted, "true"),
      (Setting.luksCipher, "aes-xts-plain64"), (Setting.luksKeySize, "512"),
      (Setting.partition, partition)] }

/-- The first partition is staged at one path, the second one is to be staged at another. -/
def stageOne : NodeStageVolumeRequest :=
  stagePartition "1" "/staging/one"

def stageTwo : NodeStageVolumeRequest :=
  stagePartition "2" "/staging/two"

theorem stageOne_unlocks : Unlocks stageOne ⟨7, "data"⟩ :=
  ⟨{}, by decide +kernel, rfl, by decide +kernel⟩

theorem stageTwo_unlocks : Unlocks stageTwo ⟨7, "data"⟩ :=
  ⟨{}, by decide +kernel, rfl, by decide +kernel⟩

theorem label_of_unlocked {label : String}
    (h : Unlocked ([.stage stageOne] ++ [.stage stageTwo]) label) : label = "data" := by
  obtain ⟨req, key, hmem, hreq, rfl⟩ := h
  rcases List.mem_pair.mp hmem with heq | heq
  · cases heq
    rw [hreq.unique stageOne_unlocks]
  · cases heq
    rw [hreq.unique stageTwo_unlocks]

theorem stageTwo_tidy : Tidy ([.stage stageOne] ++ [.stage stageTwo]) where
  outside := by
    intro r hr path hpath
    rcases List.mem_pair.mp hr with rfl | rfl
    · obtain rfl : stageOne.stagingTargetPath = path := by
        simpa [Request.stagingPath?, Request.targetPath?] using hpath
      decide
    · obtain rfl : stageTwo.stagingTargetPath = path := by
        simpa [Request.stagingPath?, Request.targetPath?] using hpath
      decide
  distinct := fun label other hlabel hother _ =>
    (label_of_unlocked hlabel).trans (label_of_unlocked hother).symm

theorem stageTwo_run :
    (hostAfter partitionedNode ([.stage stageOne] ++ [.stage stageTwo])).mounts =
        (hostAfter partitionedNode [.stage stageOne]).mounts ++
          [stagedMapping stageTwo ⟨7, "data"⟩ {}] ∧
      backing? "data" (hostAfter partitionedNode
        ([.stage stageOne] ++ [.stage stageTwo])).commands = some "/dev/sda1" ∧
      ownDevice? (hostAfter partitionedNode [.stage stageOne]) stageTwo ⟨7, "data"⟩ =
        some "/dev/sda2" := by
  decide +kernel

theorem stageTwo_mounts_ne :
    (hostAfter partitionedNode ([.stage stageOne] ++ [.stage stageTwo])).mounts ≠
      (hostAfter partitionedNode [.stage stageOne]).mounts := by
  rw [stageTwo_run.1]
  simp

theorem stageTwo_backed :
    Unlocks stageTwo ⟨7, "data"⟩ ∧ partitionedNode.2.responses = [] ∧
      (∀ label, Unlocked ([.stage stageOne] ++ [.stage stageTwo]) label →
        partitionedNode.2.pathExists (mapperPath label) = false) ∧
      (hostAfter partitionedNode ([.stage stageOne] ++ [.stage stageTwo])).mounts ≠
        (hostAfter partitionedNode [.stage stageOne]).mounts ∧
      Tidy ([.stage stageOne] ++ [.stage stageTwo]) ∧
      ∃ device, Traced [.stage stageOne] stageTwo ⟨7, "data"⟩ device
        (hostAfter partitionedNode [.stage stageOne])
        (hostAfter partitionedNode ([.stage stageOne] ++ [.stage stageTwo])) :=
  ⟨stageTwo_unlocks, rfl, fun label _ => partitionedNode_closed label, stageTwo_mounts_ne,
    stageTwo_tidy, staged_mapping_backed [.stage stageOne] stageTwo_unlocks rfl
      (fun label _ => partitionedNode_closed label) stageTwo_mounts_ne⟩

/-- On a host without open mappings, a request mounts the mapping of its label after some others,
and that was not opened last for the device of the request. -/
structure Astray (s : State) (past : List Request) (req : NodeStageVolumeRequest)
    (key : VolumeKey) (last : Option String) (device : String) : Prop where
  closed : ∀ name, s.2.pathExists (mapperPath name) = false
  silent : s.2.responses = []
  unlocks : Unlocks req key
  mounted : ∃ cap, (hostAfter s (past ++ [.stage req])).mounts =
    (hostAfter s past).mounts ++ [stagedMapping req key cap]
  opened : backing? key.label (hostAfter s (past ++ [.stage req])).commands = last
  own : ownDevice? (hostAfter s past) req key = some device
  differs : last ≠ some device

/-- A block device that lands where the mapping of a volume would be. -/
def publishRaw : NodePublishVolumeRequest :=
  { volumeId := "7-data", stagingTargetPath := "/staging/raw", targetPath := "/dev/mapper/data"
    volumeCapability := some { accessType := some (.block {}) }
    volumeContext := .single Setting.partition "2" }

theorem publishRaw_run :
    (hostAfter partitionedNode ([.publish publishRaw] ++ [.stage stageOne])).mounts =
        (hostAfter partitionedNode [.publish publishRaw]).mounts ++
          [stagedMapping stageOne ⟨7, "data"⟩ {}] ∧
      backing? "data" (hostAfter partitionedNode
        ([.publish publishRaw] ++ [.stage stageOne])).commands = none ∧
      ownDevice? (hostAfter partitionedNode [.publish publishRaw]) stageOne ⟨7, "data"⟩ =
        some "/dev/sda1" := by
  decide +kernel

/-- The label is another text for the path of the mapping. -/
def stageSlashed : NodeStageVolumeRequest :=
  { secretJourney.stage with volumeId := "7-data/", stagingTargetPath := "/staging/more" }

theorem stageSlashed_run :
    (hostAfter attachedNode ([.stage secretJourney.stage] ++ [.stage stageSlashed])).mounts =
        (hostAfter attachedNode [.stage secretJourney.stage]).mounts ++
          [stagedMapping stageSlashed ⟨7, "data/"⟩ {}] ∧
      backing? "data/" (hostAfter attachedNode
        ([.stage secretJourney.stage] ++ [.stage stageSlashed])).commands = none ∧
      ownDevice? (hostAfter attachedNode [.stage secretJourney.stage]) stageSlashed
        ⟨7, "data/"⟩ = some "/dev/sda" := by
  decide +kernel

/-- The mapping may be that of another partition. Runs that are not tidy mount what was never opened
under the label: a file in the place of the mapping, or the mapping of another label. -/
theorem mappings_of_other_devices :
    Astray partitionedNode [.stage stageOne] stageTwo ⟨7, "data"⟩ (some "/dev/sda1") "/dev/sda2" ∧
      Astray partitionedNode [.publish publishRaw] stageOne ⟨7, "data"⟩ none "/dev/sda1" ∧
      Astray attachedNode [.stage secretJourney.stage] stageSlashed ⟨7, "data/"⟩ none
        "/dev/sda" := by
  refine ⟨?_, ?_, ?_⟩
  · obtain ⟨hmounts, hopened, hown⟩ := stageTwo_run
    exact ⟨partitionedNode_closed, rfl, stageTwo_unlocks, ⟨{}, hmounts⟩, hopened, hown, by decide⟩
  · obtain ⟨hmounts, hopened, hown⟩ := publishRaw_run
    exact ⟨partitionedNode_closed, rfl, stageOne_unlocks, ⟨{}, hmounts⟩, hopened, hown, by decide⟩
  · obtain ⟨hmounts, hopened, hown⟩ := stageSlashed_run
    have hunlocks : Unlocks stageSlashed ⟨7, "data/"⟩ :=
      ⟨{}, by decide +kernel, rfl, by decide +kernel⟩
    exact ⟨closed_of_outside (by decide) (by decide +kernel), rfl, hunlocks, ⟨{}, hmounts⟩,
      hopened, hown, by decide⟩

end Node

end VolumePlugin
