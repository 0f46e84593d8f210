import VolumePlugin.Proofs.Host.Answers
import VolumePlugin.Proofs.Host.Path
import VolumePlugin.Proofs.Node.Run

/-! # What the node service asks the host

Most of the work on a request looks for devices and runs commands. The questions that this work asks
can be read off its text, whatever the answers are. Files and directories are made and removed only
where a request says, and a mapping is opened only for the device that is to be mounted. -/

namespace VolumePlugin

open Host (Command Job Query Work)
open Prog (Asks)

/-! ## Commands for mappings -/

namespace Luks

def openCommand (device : String) (c : LuksContext) : Command :=
  ⟨"cryptsetup", ["luksOpen", "--key-file", "-", device, c.mapping], some c.key⟩

/-- The name and the device of the mapping that a command opens. -/
def opened? (c : Command) : Option (String × String) :=
  match c.program, c.arguments with
  | "cryptsetup", ["luksOpen", _, _, device, name] => some (name, device)
  | _, _ => none

theorem opened?_of_program {c : Command} (h : c.program ≠ "cryptsetup") : opened? c = none := by
  unfold opened?
  split
  · next hprogram _ => exact absurd hprogram h
  · rfl

/-- The name of the mapping that a command closes. -/
def closed? (c : Command) : Option String :=
  match c.program, c.arguments with
  | "cryptsetup", ["luksClose", name] => some name
  | _, _ => none

end Luks

/-! ## Kinds of questions -/

namespace Host

/-- Whether a question makes, removes and mounts nothing and opens no mapping. -/
def Mild : Query → Prop
  | .call (.makeDirectories _) | .call (.createFile _) | .call (.remove _) => False
  | .call (.mount _) | .call (.unmount _) | .call (.formatAndMount _) => False
  | .call (.run c) => Luks.opened? c = none
  | .lock | .unlock => False
  | _ => True

/-- Whether a question makes and removes files and directories only in some places, opens no mapping
and is not about the lock. -/
def Confined (place : String → Prop) : Query → Prop
  | .call (.makeDirectories path) | .call (.createFile path) | .call (.remove path) => place path
  | .call (.run c) => Luks.opened? c = none
  | .lock | .unlock => False
  | _ => True

/-- Whether a question is mild or opens the mapping of a device. -/
def Unlocking (device : String) (c : LuksContext) (q : Query) : Prop :=
  Mild q ∨ q = .call (.run (Luks.openCommand device c))

theorem confined_of_mild {place : String → Prop} {q : Query} (h : Mild q) : Confined place q := by
  cases q with
  | call c => cases c <;> first | exact h | exact h.elim
  | _ => exact h

theorem confined_of_asks_mild {α : Type} {work : Work α} {place : String → Prop}
    (h : Asks Mild work) : Asks (Confined place) work :=
  h.mono fun _ => confined_of_mild

/-! ## Work of any kind -/

section Kinds

variable {kind : Query → Prop} {α ε : Type}

theorem asks_ask {c : Call} (hc : kind (.call c)) : Asks kind (ask c) :=
  ⟨hc, fun _ => trivial⟩

theorem mild_run {c : Command} (hc : Luks.opened? c = none) : Asks Mild (ask (.run c)) :=
  asks_ask hc

theorem asks_ofExcept (result : Except CsiError α) : Asks kind (Job.ofExcept result).run :=
  trivial

theorem asks_demand {work : Work (Except ε α)} (hwork : Asks kind work) (failure : ε → CsiError) :
    Asks kind (Job.demand work failure).run :=
  hwork.bind fun _ => trivial

/-- Work that cannot fail, among work that may. -/
theorem asks_lift {work : Work α} (hwork : Asks kind work) :
    Asks kind (liftM work : Job α).run := by
  rw [ExceptT.run_liftM, map_eq_pure_bind]
  exact hwork.bind fun _ => trivial

theorem asks_locked {task : Job α} (hlock : kind .lock) (hunlock : kind .unlock)
    (htask : Asks kind task.run) : Asks kind (Job.locked task).run :=
  ⟨hlock, fun _ => htask.bind fun _ => ⟨hunlock, fun _ => trivial⟩⟩

end Kinds

end Host

open Host

/-! ## Devices -/

namespace Device

section Existing

variable {kind : Query → Prop} (hexists : ∀ path, kind (.call (.pathExists path)))
  (hresolve : ∀ path, kind (.call (.resolveLinks path)))

include hexists in
theorem asks_findExisting (paths : List String) : Asks kind (findExisting paths) := by
  induction paths with
  | nil => trivial
  | cons path rest ih =>
      apply Asks.bind (asks_ask (hexists path))
      intro found
      split
      · trivial
      · exact ih

include hexists hresolve in
theorem asks_firstExisting (paths : List String) : Asks kind (firstExisting paths) := by
  apply (asks_findExisting hexists paths).bind
  intro found
  cases found with
  | none => trivial
  | some path =>
      apply Asks.bind (asks_ask (hresolve path))
      intro resolved
      cases resolved <;> trivial

end Existing

theorem mild_firstExisting (paths : List String) : Asks Mild (firstExisting paths) :=
  asks_firstExisting (fun _ => trivial) (fun _ => trivial) paths

theorem mild_trigger (disks : List String) : Asks Mild (trigger disks) := by
  induction disks with
  | nil => trivial
  | cons disk rest ih => exact Asks.bind (mild_run rfl) fun _ => ih

theorem mild_triggerNew : Asks Mild triggerNew := by
  apply Asks.bind (asks_ask trivial)
  intro disks
  cases disks with
  | error e => trivial
  | ok disks => exact ⟨trivial, fun fresh => mild_trigger fresh⟩

theorem mild_verify (paths : List String) : Asks Mild (verify paths) := by
  apply (mild_firstExisting paths).bind
  intro found
  cases found with
  | some device => trivial
  | none => exact mild_triggerNew.bind fun _ => mild_firstExisting paths

end Device

/-! ## Encryption -/

namespace Luks

theorem asks_mustSucceed {kind : Query → Prop} (what : String) {arguments : List String}
    {key : Option String} (hcommand : kind (.call (.run ⟨"cryptsetup", arguments, key⟩))) :
    Asks kind (mustSucceed what arguments key).run := by
  apply (asks_demand (asks_ask hcommand) _).bind_run
  intro out
  split <;> trivial

theorem mild_isFormatted (device : String) : Asks Mild (isFormatted device).run := by
  apply (asks_demand (mild_run rfl) _).bind_run
  intro out
  split <;> trivial

theorem mild_close (name : String) : Asks Mild (close name).run :=
  asks_mustSucceed _ rfl

theorem unlocking_openMapping (device : String) (c : LuksContext) :
    Asks (Unlocking device c) (openMapping device c).run := by
  apply (asks_lift (asks_ask (.inl trivial))).bind_run
  intro found
  split
  · trivial
  · exact (asks_mustSucceed _ (.inr rfl)).bind_run fun _ => trivial

theorem unlocking_format (device : String) (c : LuksContext) :
    Asks (Unlocking device c) (format device c).run :=
  (asks_ofExcept _).bind_run fun _ => (asks_mustSucceed _ (.inl rfl)).bind_run fun _ =>
    (unlocking_openMapping device c).bind_run fun _ => asks_mustSucceed _ (.inl rfl)

theorem mild_isLuksMapping (path : String) : Asks Mild (isLuksMapping path).run := by
  unfold isLuksMapping
  split
  · trivial
  · exact (asks_demand (mild_run rfl) _).bind_run fun _ => trivial

theorem mild_resize (name : String) (key : Option String) : Asks Mild (resize name key).run := by
  apply asks_mustSucceed
  split <;> rfl

end Luks

/-! ## The node service -/

namespace Node

section Kinds

variable {kind : Query → Prop} {path : String}

theorem asks_requireUnused (htargets : ∀ source, kind (.call (.mountTargets source)))
    (path : String) (sources : List String) : Asks kind (requireUnused path sources).run := by
  induction sources with
  | nil => trivial
  | cons source rest ih =>
      apply Asks.bind_run (asks_ask (htargets source))
      intro targets
      dsimp only
      split
      · exact ih
      · trivial

theorem asks_unmountStaging (hmounted : kind (.call (.isMountPoint path)))
    (hsources : kind (.call (.mountSources path)))
    (htargets : ∀ source, kind (.call (.mountTargets source)))
    (hunmount : kind (.call (.unmount path))) : Asks kind (unmountStaging path).run := by
  apply Asks.bind_run (asks_ask hmounted)
  intro mounted
  split
  · apply Asks.bind_run (asks_ask hsources)
    intro sources
    apply (asks_requireUnused htargets _ _).bind_run
    intro _
    exact Asks.bind_run (asks_ask hunmount) fun _ => trivial
  · trivial

theorem asks_leftOpen (hexists : ∀ path, kind (.call (.pathExists path)))
    (key : Option VolumeKey) (mappings : List String) : Asks kind (leftOpen key mappings) := by
  unfold leftOpen
  cases key with
  | none => trivial
  | some key =>
      dsimp only
      split
      · trivial
      · apply Asks.bind (asks_ask (hexists _))
        intro found
        split <;> trivial

theorem program_growCommand {fsType device path : String} {command : Command}
    (h : growCommand? fsType device path = some command) : command.program ≠ "cryptsetup" := by
  unfold growCommand? at h
  split at h
  · obtain rfl := Option.some.inj h
    simp
  · obtain rfl := Option.some.inj h
    simp
  · obtain rfl := Option.some.inj h
    simp
  · obtain rfl := Option.some.inj h
    simp
  · cases h

theorem asks_growFileSystem
    (hrun : ∀ c : Command, c.program ≠ "cryptsetup" → kind (.call (.run c)))
    (device path : String) : Asks kind (growFileSystem device path).run := by
  have hprobe : Asks kind (fsTypeOf device).run := by
    apply (asks_demand (asks_ask (hrun _ (by simp))) _).bind_run
    intro out
    split <;> trivial
  apply hprobe.bind_run
  intro fsType
  split
  · trivial
  · next command hcommand =>
      apply (asks_demand (asks_ask (hrun command (program_growCommand hcommand))) _).bind_run
      intro out
      split <;> trivial

end Kinds

theorem mild_isMountPoint (path : String) : Asks Mild (isMountPoint path).run :=
  asks_ask trivial

theorem mild_resolveDevice (key : VolumeKey) (partition : Option String) :
    Asks Mild (resolveDevice key partition).run := by
  apply (asks_lift (Device.mild_verify _)).bind_run
  intro found
  cases found <;> trivial

theorem unlocking_mountSource (device : String) (luks : LuksContext) :
    Asks (Unlocking device luks) (mountSource device luks).run := by
  unfold mountSource
  split
  · apply ((Luks.mild_isFormatted device).mono fun _ => .inl).bind_run
    intro formatted
    split
    · exact (Luks.unlocking_format device luks).bind_run fun _ =>
        Luks.unlocking_openMapping device luks
    · exact Luks.unlocking_openMapping device luks
  · trivial

theorem mild_closeMapping (path : String) : Asks Mild (closeMapping path) := by
  apply (Luks.mild_isLuksMapping path).bind
  intro result
  split
  · exact (Luks.mild_close _).bind fun _ => trivial
  · trivial

theorem mild_closeMappings (paths : List String) : Asks Mild (closeMappings paths) := by
  induction paths with
  | nil => trivial
  | cons path rest ih => exact (mild_closeMapping path).bind fun _ => ih

theorem mild_leftOpen (key : Option VolumeKey) (mappings : List String) :
    Asks Mild (leftOpen key mappings) :=
  asks_leftOpen (fun _ => trivial) key mappings

theorem mild_blockDevice (req : NodePublishVolumeRequest) : Asks Mild (blockDevice req).run := by
  unfold blockDevice
  dsimp only
  split
  · trivial
  · exact (asks_ofExcept _).bind_run fun key => mild_resolveDevice key _

theorem mild_growMapping (device : String) (secrets : Attributes) :
    Asks Mild (growMapping device secrets).run := by
  unfold growMapping
  split
  · apply (Luks.mild_isLuksMapping device).bind_run
    intro isLuks
    split
    · exact Luks.mild_resize _ _
    · trivial
  · trivial

theorem mild_growFileSystem (device path : String) :
    Asks Mild (growFileSystem device path).run :=
  asks_growFileSystem (fun _ hprogram => Luks.opened?_of_program hprogram) device path

theorem mild_volumeStats (req : NodeGetVolumeStatsRequest) : Asks Mild (volumeStats req).run := by
  apply (asks_ofExcept _).bind_run
  intro _
  apply (asks_lift (asks_ask trivial)).bind_run
  intro found
  split
  · trivial
  · apply (asks_demand (asks_ask trivial) _).bind_run
    intro stats
    exact (mild_isMountPoint req.volumePath).bind_run fun _ => trivial

/-! ## Work under the lock -/

section Locked

variable {place : String → Prop}

theorem confined_makeDirectories {path : String} (hpath : place path) :
    Asks (Confined place) (makeDirectories path).run :=
  asks_demand (asks_ask hpath) _

theorem confined_unmountStaging (path : String) :
    Asks (Confined place) (unmountStaging path).run :=
  asks_unmountStaging trivial trivial (fun _ => trivial) trivial

theorem confined_unstageLocked (req : NodeUnstageVolumeRequest) (key : Option VolumeKey) :
    Asks (Confined place) (unstageLocked req key).run := by
  apply (confined_unmountStaging _).bind_run
  intro mappings
  apply (asks_lift (confined_of_asks_mild (mild_leftOpen ..))).bind_run
  intro more
  exact (asks_lift (confined_of_asks_mild (mild_closeMappings _))).bind_run fun _ => trivial

theorem confined_publishBlock {req : NodePublishVolumeRequest}
    (hplace : ∀ path, Path.Within path req.targetPath → place path) :
    Asks (Confined place) (publishBlock req).run := by
  apply (confined_of_asks_mild (mild_blockDevice req)).bind_run
  intro device
  have hrest : Asks (Confined place) (do
      Job.demand (Host.ask (.createFile req.targetPath)) fun e =>
        .mountFailed req.targetPath s!"create block target: {e.text}"
      Job.ofWork (Host.ask (.mount ⟨device, req.targetPath, "", bindOptions req.readonly⟩))).run :=
    (asks_demand (asks_ask (hplace _ List.prefix_rfl)) _).bind_run fun _ => asks_ask trivial
  split
  · next up hup =>
      exact (confined_makeDirectories (hplace _ (Path.within_of_parent? hup))).bind_run
        fun _ => hrest
  · exact hrest

theorem confined_publishLocked {req : NodePublishVolumeRequest}
    (hplace : ∀ path, Path.Within path req.targetPath → place path) (cap : VolumeCapability) :
    Asks (Confined place) (publishLocked req cap).run := by
  apply Asks.bind_run (asks_ask trivial)
  intro mounted
  split
  · trivial
  · split
    · exact (confined_publishBlock hplace).bind_run fun _ => trivial
    · have hmount : Asks (Confined place) (publishMount req cap).run :=
        (confined_makeDirectories (hplace _ List.prefix_rfl)).bind_run fun _ => asks_ask trivial
      exact hmount.bind_run fun _ => trivial

theorem confined_unpublishLocked {req : NodeUnpublishVolumeRequest}
    (hplace : place req.targetPath) : Asks (Confined place) (unpublishLocked req).run := by
  have hremove : Asks (Confined place) (do
      let _ ← Host.ask (.remove req.targetPath)
      return {} : Job NodeUnpublishVolumeResponse).run :=
    (asks_lift (asks_ask hplace)).bind_run fun _ => trivial
  apply Asks.bind_run (asks_ask trivial)
  intro mounted
  split
  · exact Asks.bind_run (asks_ask trivial) fun _ => hremove
  · exact hremove

theorem confined_expandLocked (req : NodeExpandVolumeRequest) :
    Asks (Confined place) (expandLocked req).run := by
  apply Asks.bind_run (asks_ask trivial)
  intro mounted
  cases mounted with
  | false => trivial
  | true =>
      simp only [Bool.not_true, Bool.false_eq_true, if_false]
      split
      · trivial
      · apply Asks.bind_run (asks_ask trivial)
        intro sources
        cases sources with
        | nil => trivial
        | cons device rest =>
            apply (confined_of_asks_mild (mild_growMapping ..)).bind_run
            intro _
            exact (confined_of_asks_mild (mild_growFileSystem ..)).bind_run fun _ => trivial

end Locked

end Node

end VolumePlugin
