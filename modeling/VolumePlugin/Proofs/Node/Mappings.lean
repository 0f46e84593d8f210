import Mathlib.Data.List.Find
import VolumePlugin.Proofs.Node.Serving

/-! # Where devices and mappings are

The links to devices and the mappings of encrypted devices lie in different directories. So no
command changes where a device is, and neither does a file or directory that is made elsewhere. On a
host that is given no answers, the commands for an encrypted device do what they are for. -/

namespace VolumePlugin

open Host (Command CommandOutput Component Memory PathSet)

/-! ## Two directories -/

namespace Luks

theorem mapperPath_within_directory (name : String) :
    Host.Path.Within "/dev/mapper" (mapperPath name) := by
  have hdirectory : Host.Path.components "/dev/mapper" =
      [.root, .named "dev".toList, .named "mapper".toList] := by decide
  unfold Host.Path.Within
  rw [components_mapperPath_eq, hdirectory]
  exact List.prefix_append ..

theorem mapperPath_within (name : String) : Host.Path.Within "/dev" (mapperPath name) := by
  have hdev : Host.Path.Within "/dev" "/dev/mapper" := by decide
  exact hdev.trans (mapperPath_within_directory name)

end Luks

namespace Device

theorem components_linkDirectory : Host.Path.components linkDirectory =
    [.root, .named "dev".toList, .named "disk".toList, .named "by-id".toList] := by
  decide

/-- What a text that starts with the name of the directory and a slash leads to lies in it. -/
theorem within_of_start {path : String} (name : List Char)
    (h : path.toList = (linkDirectory ++ "/").toList ++ name) :
    Host.Path.Within linkDirectory path := by
  have hpieces : Text.pieces '/' ("dev".toList ++ '/' :: ("disk".toList ++ '/' ::
      ("by-id".toList ++ '/' :: name))) =
        "dev".toList :: "disk".toList :: "by-id".toList :: Text.pieces '/' name := by
    rw [Text.pieces_append (by decide), Text.pieces_append (by decide),
      Text.pieces_append (by decide)]
  unfold Host.Path.Within
  rw [components_linkDirectory]
  unfold Host.Path.components
  rw [h]
  change _ <+: [Component.root] ++ (Text.pieces '/' ("dev".toList ++ '/' ::
    ("disk".toList ++ '/' :: ("by-id".toList ++ '/' :: name)))).filterMap Component.ofSegment?
  rw [hpieces]
  exact ⟨(Text.pieces '/' name).filterMap Component.ofSegment?, rfl⟩

theorem candidate_within {label : String} {partition : Option String} {path : String}
    (h : path ∈ candidates label partition) : Host.Path.Within linkDirectory path := by
  simp only [candidates, List.mem_cons, List.not_mem_nil, or_false] at h
  rcases h with rfl | rfl
  · apply within_of_start ("linode-".toList ++ _)
    simp only [String.toList_append, List.append_assoc]
    rfl
  · apply within_of_start ("scsi-0Linode_Volume_".toList ++ _)
    simp only [String.toList_append, List.append_assoc]
    rfl

theorem within_dev_of_within {path : String} (h : Host.Path.Within linkDirectory path) :
    Host.Path.Within "/dev" path := by
  have hdev : Host.Path.Within "/dev" linkDirectory := by decide
  exact hdev.trans h

/-- No link to a device is a mapping. -/
theorem components_ne_of_within {path : String} (h : Host.Path.Within linkDirectory path)
    (name : String) :
    Host.Path.components (Luks.mapperPath name) ≠ Host.Path.components path := by
  obtain ⟨tail, htail⟩ := h
  intro heq
  rw [Luks.components_mapperPath_eq, ← htail, components_linkDirectory] at heq
  simp at heq

end Device

/-! ## Paths that are made and removed -/

namespace Host.Memory

variable {h : Memory} {path other : String}

theorem pathExists_iff : h.pathExists path ↔
    (lookupPath path h.links).isSome ∨ h.files.contains path ∨ h.directories.contains path := by
  simp [pathExists, or_assoc]

theorem pathExists_addFile :
    (h.addFile other).pathExists path ↔
      Path.components other = Path.components path ∨ h.pathExists path := by
  rw [pathExists_iff, pathExists_iff, addFile]
  simp only [PathSet.contains_insert]
  tauto

theorem pathExists_removePath_of_ne (hne : Path.components other ≠ Path.components path) :
    (h.removePath other).pathExists path ↔ h.pathExists path := by
  rw [pathExists_iff, pathExists_iff, removePath]
  simp only [PathSet.contains_erase, hne, ne_eq, not_false_iff, true_and]

theorem pathExists_removePath_self (hlink : lookupPath path h.links = none) :
    (h.removePath path).pathExists path = false := by
  rw [Bool.eq_false_iff, ne_eq, pathExists_iff, removePath]
  simp only [PathSet.contains_erase, hlink]
  simp

theorem pathExists_addDirectories_of (hthere : h.pathExists path) :
    (h.addDirectories other).pathExists path := by
  rw [pathExists_iff] at hthere ⊢
  rw [addDirectories_eq]
  exact hthere.imp_right (Or.imp_right fun hold => contains_foldl_insert.mpr (.inl hold))

theorem pathExists_addDirectories (hout : ¬ Path.Within path other) :
    (h.addDirectories other).pathExists path ↔ h.pathExists path := by
  refine ⟨fun hthere => ?_, pathExists_addDirectories_of⟩
  rw [pathExists_iff] at hthere ⊢
  rcases hthere with hlink | hfile | hmade
  · rw [addDirectories_eq] at hlink
    exact .inl hlink
  · rw [addDirectories_eq] at hfile
    exact .inr (.inl hfile)
  · exact .inr (.inr (directories_addDirectories hout hmade))

/-! ## Commands and mounts -/

/-- Every command is put on record, and none mounts anything. -/
theorem run_recorded (h : Memory) (c : Command) :
    (h.run c).2.commands = h.commands ++ [c] ∧ (h.run c).2.mountCalls = h.mountCalls := by
  cases hresponse : h.response? c.line with
  | some out =>
      rw [run_of_response? hresponse]
      exact ⟨rfl, rfl⟩
  | none =>
      rw [run_of_response?_eq_none hresponse]
      unfold carryOut
      split
      · split <;> exact ⟨rfl, rfl⟩
      · unfold cryptsetup
        split
        · exact ⟨rfl, rfl⟩
        · split <;> exact ⟨rfl, rfl⟩
      · exact ⟨rfl, rfl⟩

end Host.Memory

/-! ## Where devices are -/

namespace Node

open Host

/-- Every device is where it was: the links and the paths next to them are the same. -/
structure Anchored (h h' : Memory) : Prop where
  links : h'.links = h.links
  responses : h'.responses = h.responses
  paths : ∀ path, Path.Within Device.linkDirectory path →
    (h'.pathExists path ↔ h.pathExists path)

namespace Anchored

variable {h h' h'' : Memory}

theorem refl (h : Memory) : Anchored h h :=
  ⟨rfl, rfl, fun _ _ => Iff.rfl⟩

theorem trans (ha : Anchored h h') (hb : Anchored h' h'') : Anchored h h'' :=
  ⟨hb.links.trans ha.links, hb.responses.trans ha.responses,
    fun path hpath => (hb.paths path hpath).trans (ha.paths path hpath)⟩

theorem foundDevice?_eq (ha : Anchored h h') (label : String) (partition : Option String) :
    foundDevice? h' (Device.candidates label partition) =
      foundDevice? h (Device.candidates label partition) := by
  have hfind : (Device.candidates label partition).find? h'.pathExists =
      (Device.candidates label partition).find? h.pathExists := by
    apply List.find?_congr
    intro path hpath
    exact Bool.eq_iff_iff.mpr (ha.paths path (Device.candidate_within hpath))
  unfold foundDevice?
  rw [hfind, ha.links]

end Anchored

theorem anchored_addFile (h : Memory) {other : String} (hout : ∀ path,
    Path.Within Device.linkDirectory path → Path.components other ≠ Path.components path) :
    Anchored h (h.addFile other) := by
  refine ⟨rfl, rfl, fun path hpath => ?_⟩
  rw [Memory.pathExists_addFile]
  simp [hout path hpath]

theorem anchored_removePath (h : Memory) {other : String} (hout : ∀ path,
    Path.Within Device.linkDirectory path → Path.components other ≠ Path.components path) :
    Anchored h (h.removePath other) :=
  ⟨rfl, rfl, fun path hpath => Memory.pathExists_removePath_of_ne (hout path hpath)⟩

theorem anchored_addDirectories (h : Memory) {other : String}
    (hout : ¬ Path.Within "/dev" other) : Anchored h (h.addDirectories other) := by
  have heq := Memory.addDirectories_eq h other
  refine ⟨by rw [heq], by rw [heq], fun path hpath => ?_⟩
  apply Memory.pathExists_addDirectories
  exact fun hin => hout ((Device.within_dev_of_within hpath).trans hin)

theorem anchored_cryptsetup (h : Memory) (arguments : List String) :
    Anchored h (h.cryptsetup arguments).2 := by
  unfold Memory.cryptsetup
  split
  · exact ⟨rfl, rfl, fun _ _ => Iff.rfl⟩
  · split
    · rw [Luks.mapping_eq_mapperPath]
      exact anchored_addFile h fun path hpath => Device.components_ne_of_within hpath _
    · rw [Luks.mapping_eq_mapperPath]
      exact anchored_removePath h fun path hpath => Device.components_ne_of_within hpath _
    · exact .refl h
    · exact .refl h

/-- No command moves a device. -/
theorem anchored_run (h : Memory) (c : Command) : Anchored h (h.run c).2 := by
  have hlogged : Anchored h (h.logged c) := ⟨rfl, rfl, fun _ _ => Iff.rfl⟩
  cases hresponse : h.response? c.line with
  | some out =>
      rw [Memory.run_of_response? hresponse]
      exact hlogged
  | none =>
      rw [Memory.run_of_response?_eq_none hresponse]
      apply hlogged.trans
      change Anchored _ ((h.logged c).carryOut c).2
      unfold Memory.carryOut
      split
      · split <;> exact .refl _
      · exact anchored_cryptsetup _ _
      · exact .refl _

end Node

/-! ## Commands that are carried out -/

namespace Luks

open Host

def probeCommand (device : String) : Command :=
  ⟨"blkid", ["-p", device], none⟩

def formatCommand (device : String) (c : LuksContext) : Command :=
  ⟨"cryptsetup", formatArguments device c, some c.key⟩

def closeCommand (name : String) : Command :=
  ⟨"cryptsetup", ["luksClose", name], none⟩

section Effects

variable {h : Memory}

theorem run_of_silent (hsilent : h.responses = []) (c : Command) :
    h.run c = (h.logged c).carryOut c := by
  apply Memory.run_of_response?_eq_none
  unfold Memory.response?
  rw [hsilent]
  rfl

theorem run_probe (hsilent : h.responses = []) (device : String) :
    h.run (probeCommand device) =
      (h.blkid ["-p", device] device, h.logged (probeCommand device)) := by
  rw [run_of_silent hsilent]
  rfl

theorem run_format (hsilent : h.responses = []) (device : String) (c : LuksContext) :
    h.run (formatCommand device c) =
      (Memory.silent, (h.logged (formatCommand device c)).setFsType device "crypto_LUKS") := by
  rw [run_of_silent hsilent]
  rfl

theorem run_open (hsilent : h.responses = []) (device : String) (c : LuksContext) :
    h.run (openCommand device c) =
      (Memory.silent, (h.logged (openCommand device c)).addFile (mapperPath c.mapping)) := by
  rw [run_of_silent hsilent, ← mapping_eq_mapperPath]
  rfl

theorem run_close (hsilent : h.responses = []) (name : String) :
    h.run (closeCommand name) =
      (Memory.silent, (h.logged (closeCommand name)).removePath (mapperPath name)) := by
  rw [run_of_silent hsilent, ← mapping_eq_mapperPath]
  rfl

/-- The device that a command is to format. -/
def formatted? (c : Command) : Option String :=
  if c.program = "cryptsetup" then Memory.formattedDevice? c.arguments else none

/-- What is on devices stays when nothing is formatted. -/
theorem fsTypes_run {c : Command} (hnone : formatted? c = none) (h : Memory) :
    (h.run c).2.fsTypes = h.fsTypes := by
  cases hresponse : h.response? c.line with
  | some out =>
      rw [Memory.run_of_response? hresponse]
  | none =>
      rw [Memory.run_of_response?_eq_none hresponse]
      unfold Memory.carryOut
      split
      · split <;> rfl
      · next hprogram =>
          rw [formatted?, if_pos hprogram] at hnone
          unfold Memory.cryptsetup
          rw [hnone]
          dsimp only
          split <;> rfl
      · rfl

/-- A device holds something exactly if its probe says so. -/
theorem code_blkid (h : Memory) (arguments : List String) (device : String) :
    (h.blkid arguments device).code =
      if (h.fsTypes.lookup device).isSome then some 0 else some 2 := by
  unfold Memory.blkid
  cases h.fsTypes.lookup device <;> rfl

end Effects

end Luks

/-! ## Requests to stage encrypted volumes -/

namespace Node

open Host

/-- What a request to stage a volume says about its encryption. -/
def luksOf (req : NodeStageVolumeRequest) (key : VolumeKey) : LuksContext :=
  .ofRequest req.volumeContext req.secrets key.label .stage

/-- The mount that a request to stage an encrypted file system asks for. -/
def stagedMapping (req : NodeStageVolumeRequest) (key : VolumeKey) (cap : VolumeCapability) :
    Mount :=
  ⟨Luks.mapperPath key.label, req.stagingTargetPath, cap.fsType, cap.mountFlags⟩

/-- The device that the label and the partition of a request lead to. -/
def ownDevice? (h : Memory) (req : NodeStageVolumeRequest) (key : VolumeKey) : Option String :=
  foundDevice? h (Device.candidates key.label (req.volumeContext.get? Setting.partition))

end Node

end VolumePlugin
