import VolumePlugin.Proofs.Node.Mounts

/-! # The mounts of a node, from request to request

At most one thing is mounted on each path at any time. This is why unmounting a path, which takes
away only what was mounted there last, leaves nothing mounted there. -/

namespace VolumePlugin.Node

open Host
open Prog (Either)

/-! ## What requests leave behind -/

/-- At most one more thing is mounted, and that on the path. -/
def Adds (path : String) (ms ms' : List Mount) : Prop :=
  ms' = ms ∨ ∃ m, m.target = path ∧ ms' = ms ++ [m]

/-- Nothing is mounted on the path any more, and everything else is as it was. -/
def Clears (path : String) (ms ms' : List Mount) : Prop :=
  ms' = ms.filter (·.target ≠ path) ∧ ¬ Mounted path ms'

/-- What a request that succeeds has changed, and what it has made sure of. -/
def Settles : Request → List Mount → List Mount → Prop
  | .stage req, ms, ms' =>
    Adds req.stagingTargetPath ms ms' ∧
      ∀ cap, req.volumeCapability = some cap → cap.isBlock = false →
        Mounted req.stagingTargetPath ms'
  | .unstage req, ms, ms' => Clears req.stagingTargetPath ms ms'
  | .publish req, ms, ms' => Adds req.targetPath ms ms' ∧ Mounted req.targetPath ms'
  | .unpublish req, ms, ms' => Clears req.targetPath ms ms'
  | .expand _, ms, ms' | .stats _, ms, ms' => ms' = ms

theorem clears_of_dropLastOn? {path : String} {ms rest : List Mount} (h : Distinct ms)
    (hrest : Memory.dropLastOn? path ms = some rest) : Clears path ms rest := by
  rw [eq_filter_of_dropLastOn? h hrest]
  exact ⟨rfl, not_mounted_filter path ms⟩

theorem clears_of_not_mounted {path : String} {ms : List Mount} (h : ¬ Mounted path ms) :
    Clears path ms ms :=
  ⟨(filter_of_not_mounted h).symm, h⟩

theorem Moves.settles {r : Request} {ms ms' : List Mount} (hm : Moves r ms ms') (h : Distinct ms) :
    Settles r ms ms' := by
  cases hm with
  | staged source hcap hblock hpath hfree =>
      exact ⟨.inr ⟨_, rfl, rfl⟩, fun _ _ _ => mounted_append ms _⟩
  | stagedBlock hcap hblock =>
      refine ⟨.inl rfl, fun cap hcap' hblock' => ?_⟩
      obtain rfl := Option.some.inj (hcap.symm.trans hcap')
      simp [hblock] at hblock'
  | stagedBefore hmounted => exact ⟨.inl rfl, fun _ _ _ => hmounted⟩
  | unstaged hunused hrest => exact clears_of_dropLastOn? h hrest
  | unstagedBefore hfree => exact clears_of_not_mounted hfree
  | published hcap hblock hpath hfree => exact ⟨.inr ⟨_, rfl, rfl⟩, mounted_append ms _⟩
  | publishedBlock device hcap hblock hpath hfree =>
      exact ⟨.inr ⟨_, rfl, rfl⟩, mounted_append ms _⟩
  | publishedBefore hmounted => exact ⟨.inl rfl, hmounted⟩
  | unpublished hrest => exact clears_of_dropLastOn? h hrest
  | unpublishedBefore hfree => exact clears_of_not_mounted hfree
  | expanded => rfl
  | measured => rfl

/-- A request leaves the mounts alone, adds one on a free path with a name, or takes away those on a
path. -/
theorem Moves.shape {r : Request} {ms ms' : List Mount} (hm : Moves r ms ms') (h : Distinct ms) :
    ms' = ms ∨ (∃ m, ms' = ms ++ [m] ∧ m.target ≠ "" ∧ ¬ Mounted m.target ms) ∨
      ∃ path, ms' = ms.filter (·.target ≠ path) := by
  cases hm with
  | staged source hcap hblock hpath hfree => exact .inr (.inl ⟨_, rfl, hpath, hfree⟩)
  | published hcap hblock hpath hfree => exact .inr (.inl ⟨_, rfl, hpath, hfree⟩)
  | publishedBlock device hcap hblock hpath hfree => exact .inr (.inl ⟨_, rfl, hpath, hfree⟩)
  | unstaged hunused hrest => exact .inr (.inr ⟨_, eq_filter_of_dropLastOn? h hrest⟩)
  | unpublished hrest => exact .inr (.inr ⟨_, eq_filter_of_dropLastOn? h hrest⟩)
  | _ => exact .inl rfl

theorem Moves.distinct {r : Request} {ms ms' : List Mount} (hm : Moves r ms ms')
    (h : Distinct ms) : Distinct ms' := by
  rcases hm.shape h with rfl | ⟨m, rfl, -, hfree⟩ | ⟨path, rfl⟩
  · exact h
  · exact distinct_append h hfree
  · exact h.sublist (List.Sublist.map _ List.filter_sublist)

/-! ## Whole runs -/

theorem Arrival.outcome_distinct (a : Arrival) {s : State} (h : Distinct s.2.mounts) :
    Distinct (a.outcome s).2.2.mounts := by
  rcases a.moves_or_same s with hmoves | hsame
  · exact hmoves.distinct h
  · rw [hsame]
    exact h

theorem after_distinct (arrivals : List Arrival) :
    ∀ {s : State}, Distinct s.2.mounts → Distinct (after s arrivals).2.mounts := by
  induction arrivals with
  | nil => exact fun h => h
  | cons a rest ih => exact fun h => ih (a.outcome_distinct h)

/-- The mounts over a whole run. At every moment at most one thing is mounted on each path, and the
next request settles the mounts if it succeeds, and leaves them as they are if it fails. -/
theorem mounts_over_run {s : State} (h : Distinct s.2.mounts) (past : List Arrival)
    (next : Arrival) :
    Distinct (after s past).2.mounts ∧
      Either
        (fun _ s' => Settles next.request (after s past).2.mounts s'.2.mounts)
        (fun _ s' => s'.2.mounts = (after s past).2.mounts)
        (next.outcome (after s past)).1 (next.outcome (after s past)).2 := by
  have hpast := after_distinct past h
  refine ⟨hpast, (next.outcome_mounts (after s past)).imp ?_ ?_⟩
  · exact fun _ hmoves => hmoves.settles hpast
  · exact fun _ hsame => hsame

/-- A node on which a volume is staged and published. -/
def busyNode : State :=
  ([], { mounts := [⟨"/dev/sda", "/staging/data", "ext4", []⟩,
    ⟨"/staging/data", "/pods/web", "", ["bind"]⟩] })

def unpublishData : Arrival :=
  ⟨.unpublish { volumeId := "7-data", targetPath := "/pods/web" }, id⟩

def unstageData : Arrival :=
  ⟨.unstage { volumeId := "7-data", stagingTargetPath := "/staging/data" }, id⟩

theorem mounts_over_teardown :
    Distinct busyNode.2.mounts ∧
      Distinct (after busyNode [unpublishData]).2.mounts ∧
        Either
          (fun _ s' => Settles unstageData.request (after busyNode [unpublishData]).2.mounts
            s'.2.mounts)
          (fun _ s' => s'.2.mounts = (after busyNode [unpublishData]).2.mounts)
          (unstageData.outcome (after busyNode [unpublishData])).1
          (unstageData.outcome (after busyNode [unpublishData])).2 := by
  have hbusy : Distinct busyNode.2.mounts := by
    unfold Distinct
    decide
  exact ⟨hbusy, mounts_over_run hbusy [unpublishData] unstageData⟩

end VolumePlugin.Node
