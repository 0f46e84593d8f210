import VolumePlugin.Proofs.Node.Unstaging

/-! # Published devices

A device that is handed over as it is gets bound to the paths of workloads, and nothing is mounted
on its staging path. A request to unstage it looks for users only if something is mounted there. -/

namespace VolumePlugin.Node

open Host
open Prog (Delivers Either)

/-- Whether a device is mounted on a path. -/
def MountedFrom (device path : String) (ms : List Mount) : Prop :=
  ∃ m ∈ ms, m.source = device ∧ m.target = path

/-- A request to publish the device of a volume at a path of a workload. -/
def Request.BindsDevice (r : Request) (handle target : String) : Prop :=
  ∃ req cap, r = .publish req ∧ req.volumeCapability = some cap ∧ cap.isBlock = true ∧
    req.volumeId = handle ∧ req.targetPath = target

/-- A request of the run for the device of a volume has mounted it on a path of a workload, and it
has been mounted there ever since. -/
inductive Held (s : State) (handle device target : String) : List Arrival → Prop where
  | made {past : List Arrival} {a : Arrival} (hbinds : a.request.BindsDevice handle target)
      (hfree : ¬ Mounted target (after s past).2.mounts)
      (hnow : MountedFrom device target (after s (past ++ [a])).2.mounts) :
      Held s handle device target (past ++ [a])
  | lasting {past : List Arrival} {a : Arrival} (h : Held s handle device target past)
      (hstill : MountedFrom device target (after s (past ++ [a])).2.mounts) :
      Held s handle device target (past ++ [a])

theorem Held.mounted {s : State} {handle device target : String} {arrivals : List Arrival}
    (h : Held s handle device target arrivals) :
    MountedFrom device target (after s arrivals).2.mounts := by
  cases h with
  | made hbinds hfree hnow => exact hnow
  | lasting h hstill => exact hstill

theorem publishing_eq_ok_id {req : NodePublishVolumeRequest} {cap : VolumeCapability}
    (h : publishing req = .ok cap) : req.volumeId ≠ "" := by
  simp only [publishing, except_bind_eq_ok] at h
  obtain ⟨_, hid, -⟩ := h
  exact requireText_eq_ok hid

theorem delivers_publish_nameless {req : NodePublishVolumeRequest} (hid : req.volumeId = "")
    (h : Memory) :
    Delivers Answers (publish req) h (fun _ _ => False) (fun _ h' => h' = h) := by
  unfold publish
  rw [Prog.delivers_bind, Host.delivers_ofExcept]
  cases hreq : publishing req with
  | error e => exact rfl
  | ok cap => exact absurd hid (publishing_eq_ok_id hreq)

theorem Held.named {s : State} {handle device target : String} {arrivals : List Arrival}
    (h : Held s handle device target arrivals) : handle ≠ "" := by
  induction h with
  | lasting h hstill ih => exact ih
  | @made past a hbinds hfree hnow =>
      obtain ⟨req, cap, hreq, -, -, rfl, rfl⟩ := hbinds
      obtain ⟨request, change⟩ := a
      cases hreq
      intro hid
      -- The request would fail, and what it is said to have mounted would have been there before.
      have houtcome := Arrival.outcome_of_delivers (a := ⟨.publish req, change⟩)
        (s := after s past) (delivers_publish_nameless hid _)
      have hsame := houtcome.elim (fun _ hfalse => hfalse.elim) (fun _ hsame => hsame)
      obtain ⟨m, hm, -, htarget⟩ := hnow
      rw [after_append, after_cons, after_nil, hsame] at hm
      exact hfree ⟨m, hm, htarget⟩

/-- A request to unstage a volume, while its device is mounted on a path of a workload. The request
is refused, and changes nothing, if and only if something is mounted on the staging path that is in
use. In all other cases it succeeds, and the device stays mounted where it was. -/
theorem unstage_held {s : State} {handle device target : String} {arrivals : List Arrival}
    (hheld : Held s handle device target arrivals) {req : NodeUnstageVolumeRequest}
    (hid : req.volumeId = handle) (hpath : req.stagingTargetPath ≠ "")
    (hother : target ≠ req.stagingTargetPath) (change : Memory → Memory) :
    Either
      (fun _ s' =>
        ¬ (Mounted req.stagingTargetPath (after s arrivals).2.mounts ∧
          ¬ Unused req.stagingTargetPath (after s arrivals).2.mounts) ∧
        MountedFrom device target s'.2.mounts)
      (fun e s' =>
        (Mounted req.stagingTargetPath (after s arrivals).2.mounts ∧
          ¬ Unused req.stagingTargetPath (after s arrivals).2.mounts) ∧
        (∃ text, e = .failedPrecondition text) ∧
        s'.2 = (Arrival.meet ⟨.unstage req, change⟩ (after s arrivals)).2)
      (Arrival.outcome ⟨.unstage req, change⟩ (after s arrivals)).1
      (Arrival.outcome ⟨.unstage req, change⟩ (after s arrivals)).2 := by
  have hnamed : req.volumeId ≠ "" := hid ▸ hheld.named
  have houtcome := Arrival.outcome_of_delivers (a := ⟨.unstage req, change⟩)
    (s := after s arrivals) (delivers_unstage hnamed hpath _)
  rw [Arrival.mounts_meet] at houtcome
  refine houtcome.imp ?_ ?_
  · intro _ hcase
    obtain ⟨m, hm, hsource, htarget⟩ := hheld.mounted
    rcases hcase with ⟨hfree, hsame⟩ | ⟨hunused, hrest⟩
    · refine ⟨fun hused => hfree hused.1, m, ?_, hsource, htarget⟩
      rw [hsame]
      exact hm
    · have hstays := Memory.mem_of_dropLastOn? hrest hm (htarget ▸ hother)
      exact ⟨fun hused => hused.2 hunused, m, hstays, hsource, htarget⟩
  · intro e hrefused
    obtain ⟨hsame, htext, hmounted, hused⟩ := hrefused
    exact ⟨⟨hmounted, hused⟩, htext, hsame⟩

/-- A request to stage a device that is to be handed over as it is. -/
def stageDisk : Arrival :=
  ⟨.stage
    { volumeId := "7-data", stagingTargetPath := "/staging/data",
      volumeCapability := some { accessType := some (.block {}) } }, id⟩

def publishDisk : Arrival :=
  ⟨.publish
    { volumeId := "7-data", stagingTargetPath := "/staging/data", targetPath := "/pods/web",
      volumeCapability := some { accessType := some (.block {}) } }, id⟩

theorem disk_held :
    Held attachedNode "7-data" "/dev/sda" "/pods/web" [stageDisk, publishDisk] := by
  change Held attachedNode "7-data" "/dev/sda" "/pods/web" ([stageDisk] ++ [publishDisk])
  refine .made ⟨_, _, rfl, rfl, rfl, rfl, rfl⟩ ?_ ?_
  · unfold Mounted
    decide +kernel
  · unfold MountedFrom
    decide +kernel

theorem unstage_held_disk :
    Held attachedNode "7-data" "/dev/sda" "/pods/web" [stageDisk, publishDisk] ∧ Either
      (fun _ s' =>
        ¬ (Mounted "/staging/data" (after attachedNode [stageDisk, publishDisk]).2.mounts ∧
          ¬ Unused "/staging/data" (after attachedNode [stageDisk, publishDisk]).2.mounts) ∧
        MountedFrom "/dev/sda" "/pods/web" s'.2.mounts)
      (fun e s' =>
        (Mounted "/staging/data" (after attachedNode [stageDisk, publishDisk]).2.mounts ∧
          ¬ Unused "/staging/data" (after attachedNode [stageDisk, publishDisk]).2.mounts) ∧
        (∃ text, e = .failedPrecondition text) ∧
        s'.2 = (unstageData.meet (after attachedNode [stageDisk, publishDisk])).2)
      (unstageData.outcome (after attachedNode [stageDisk, publishDisk])).1
      (unstageData.outcome (after attachedNode [stageDisk, publishDisk])).2 :=
  ⟨disk_held, unstage_held disk_held rfl (by decide) (by decide) id⟩

/-- The device of the workload is unstaged under it. -/
theorem disk_unstaged_under_workload :
    Held attachedNode "7-data" "/dev/sda" "/pods/web" [stageDisk, publishDisk] ∧
      (unstageData.outcome (after attachedNode [stageDisk, publishDisk])).1.isOk ∧
      MountedFrom "/dev/sda" "/pods/web"
        (after attachedNode [stageDisk, publishDisk, unstageData]).2.mounts := by
  refine ⟨disk_held, ?_, ?_⟩
  · decide +kernel
  · unfold MountedFrom
    decide +kernel

end VolumePlugin.Node
