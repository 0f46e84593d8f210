import VolumePlugin.Proofs.Node.Questions

/-! # The parts of the node service that leave the mounts alone

What only looks for devices, runs commands or makes directories does not mount anything. -/

namespace VolumePlugin

open Host (Job Quiet)
open Prog (Asks Delivers)

namespace Host

/-- Quiet work leaves the mounts as they are, however it ends. -/
theorem delivers_of_quiet {α : Type} {job : Job α} (hjob : Asks Quiet job.run) (h : Memory) :
    Delivers Answers job h (fun _ h' => h'.mounts = h.mounts)
      (fun _ h' => h'.mounts = h.mounts) := by
  apply (hjob.ensures mounts_of_quiet h).mono
  intro result h' hsame
  cases result <;> exact hsame

/-- Quiet work that cannot fail leaves the rest of the work to be done. -/
theorem delivers_quiet_lift {α β : Type} {work : Work α} (hwork : Asks Quiet work) {f : α → Job β}
    {h : Memory} {ok : β → Memory → Prop} {bad : CsiError → Memory → Prop}
    (hf : ∀ a h', h'.mounts = h.mounts → Delivers Answers (f a) h' ok bad) :
    Delivers Answers (liftM work >>= f) h ok bad := by
  rw [Prog.delivers_bind, Prog.delivers_lift]
  exact (hwork.ensures mounts_of_quiet h).mono hf

theorem quiet_of_mild {q : Query} (h : Mild q) : Quiet q := by
  cases q with
  | call c => cases c <;> trivial
  | newDisks disks => trivial
  | lock => exact h.elim
  | unlock => exact h.elim

theorem quiet_of_asks_mild {α : Type} {work : Work α} (h : Asks Mild work) : Asks Quiet work :=
  h.mono fun _ => quiet_of_mild

end Host

open Host

namespace Node

theorem quiet_resolveDevice (key : VolumeKey) (partition : Option String) :
    Asks Quiet (resolveDevice key partition).run :=
  quiet_of_asks_mild (mild_resolveDevice key partition)

theorem quiet_makeDirectories (path : String) : Asks Quiet (makeDirectories path).run :=
  asks_demand (asks_ask trivial) _

theorem quiet_mountSource (device : String) (luks : LuksContext) :
    Asks Quiet (mountSource device luks).run := by
  apply (unlocking_mountSource device luks).mono
  rintro q (hq | rfl)
  · exact quiet_of_mild hq
  · trivial

theorem quiet_closeMappings (paths : List String) : Asks Quiet (closeMappings paths) :=
  quiet_of_asks_mild (mild_closeMappings paths)

theorem quiet_leftOpen (key : Option VolumeKey) (mappings : List String) :
    Asks Quiet (leftOpen key mappings) :=
  quiet_of_asks_mild (mild_leftOpen key mappings)

theorem quiet_blockDevice (req : NodePublishVolumeRequest) : Asks Quiet (blockDevice req).run :=
  quiet_of_asks_mild (mild_blockDevice req)

theorem quiet_growMapping (device : String) (secrets : Attributes) :
    Asks Quiet (growMapping device secrets).run :=
  quiet_of_asks_mild (mild_growMapping device secrets)

theorem quiet_growFileSystem (device path : String) :
    Asks Quiet (growFileSystem device path).run :=
  quiet_of_asks_mild (mild_growFileSystem device path)

theorem quiet_volumeStats (req : NodeGetVolumeStatsRequest) : Asks Quiet (volumeStats req).run :=
  quiet_of_asks_mild (mild_volumeStats req)

end Node

end VolumePlugin
