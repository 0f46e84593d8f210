import VolumePlugin.Proofs.Node.Table

/-! # Staging paths and their users

A file system is bound from its staging path to the paths of workloads. The staging path stays
mounted until all of them are unmounted, because a request to unmount it looks for them first. -/

namespace VolumePlugin.Node

open Host
open Prog (Delivers Either)

/-! ## The paths of a run -/

namespace Request

def stagingPath? : Request → Option String
  | stage req => some req.stagingTargetPath
  | unstage req => some req.stagingTargetPath
  | publish req => some req.stagingTargetPath
  | unpublish _ | expand _ | stats _ => none

/-- The path of a workload that a request names. -/
def targetPath? : Request → Option String
  | publish req => some req.targetPath
  | unpublish req => some req.targetPath
  | stage _ | unstage _ | expand _ | stats _ => none

/-- A request to publish a file system from a staging path at a path of a workload. -/
def Binds (r : Request) (staging target : String) : Prop :=
  ∃ req cap, r = .publish req ∧ req.volumeCapability = some cap ∧ cap.isBlock = false ∧
    req.stagingTargetPath = staging ∧ req.targetPath = target

theorem Binds.paths {r : Request} {staging target : String} (h : r.Binds staging target) :
    r.stagingPath? = some staging ∧ r.targetPath? = some target := by
  obtain ⟨req, cap, rfl, -, -, rfl, rfl⟩ := h
  exact ⟨rfl, rfl⟩

end Request

/-- No path is named both as a staging path and as a path of a workload. -/
def Separate (arrivals : List Arrival) : Prop :=
  ∀ a ∈ arrivals, ∀ b ∈ arrivals, ∀ path,
    a.request.stagingPath? = some path → b.request.targetPath? ≠ some path

/-- File systems are published only from staging paths on which something is mounted. -/
def Orderly : State → List Arrival → Prop
  | _, [] => True
  | s, a :: rest =>
    (∀ staging target, a.request.Binds staging target → Mounted staging s.2.mounts) ∧
      Orderly (a.outcome s).2 rest

theorem orderly_append {s : State} {past future : List Arrival} :
    Orderly s (past ++ future) ↔ Orderly s past ∧ Orderly (after s past) future := by
  induction past generalizing s with
  | nil => simp [Orderly]
  | cons a rest ih => simp [Orderly, ih, and_assoc]

theorem Separate.subset {past arrivals : List Arrival} (h : Separate arrivals)
    (hpast : past ⊆ arrivals) : Separate past :=
  fun a ha b hb => h a (hpast ha) b (hpast hb)

/-- What is mounted on a path of a workload was bound there from a staging path by a request of the
run, and has been mounted ever since. -/
inductive Bound (s : State) (staging target : String) : List Arrival → Prop where
  | made {past : List Arrival} {a : Arrival} (hbinds : a.request.Binds staging target)
      (hfree : ¬ Mounted target (after s past).2.mounts)
      (hnow : Mounted target (after s (past ++ [a])).2.mounts) :
      Bound s staging target (past ++ [a])
  | lasting {past : List Arrival} {a : Arrival} (h : Bound s staging target past)
      (hstill : Mounted target (after s (past ++ [a])).2.mounts) :
      Bound s staging target (past ++ [a])

theorem Bound.named {s : State} {staging target : String} {arrivals : List Arrival}
    (h : Bound s staging target arrivals) : ∃ a ∈ arrivals, a.request.Binds staging target := by
  induction h with
  | @made past a hbinds hfree hnow => exact ⟨a, by simp, hbinds⟩
  | @lasting past a h hstill ih =>
      obtain ⟨b, hb, hbinds⟩ := ih
      exact ⟨b, by simp [hb], hbinds⟩

/-! ## Staging paths stay mounted under their users -/

/-- A request that binds a free path mounts the staging path there, or fails. -/
theorem Moves.of_binds {r : Request} {staging target : String} {ms ms' : List Mount}
    (h : Moves r ms ms') (hbinds : r.Binds staging target) (hfree : ¬ Mounted target ms) :
    ∃ options, ms' = ms ++ [⟨staging, target, "", options⟩] := by
  obtain ⟨req, cap, rfl, hcap, hblock, rfl, rfl⟩ := hbinds
  cases h with
  | published hcap' hblock' hpath hfree' => exact ⟨_, rfl⟩
  | publishedBlock device hcap' hblock' hpath hfree' =>
      obtain rfl := Option.some.inj (hcap.symm.trans hcap')
      simp [hblock] at hblock'
  | publishedBefore hmounted => exact absurd hmounted hfree

/-- A mount from a staging path and the mount on that path outlast every request after which
something is still mounted where the former was. -/
theorem Moves.keeps_bound {r : Request} {staging target : String} {ms ms' : List Mount}
    (h : Moves r ms ms') (hms : Distinct ms) (hstaged : Mounted staging ms) {m : Mount}
    (hm : m ∈ ms) (hsource : m.source = staging) (htarget : m.target = target)
    (hstaging : r.targetPath? ≠ some staging) (hworkload : r.stagingPath? ≠ some target)
    (hstill : Mounted target ms') :
    Mounted staging ms' ∧ m ∈ ms' := by
  have happend : ∀ n : Mount, Mounted staging (ms ++ [n]) ∧ m ∈ ms ++ [n] := by
    intro n
    obtain ⟨k, hk, hkstaging⟩ := hstaged
    exact ⟨⟨k, by simp [hk], hkstaging⟩, by simp [hm]⟩
  have hfilter : ∀ path, path ≠ staging → path ≠ target →
      Mounted staging (ms.filter (·.target ≠ path)) ∧ m ∈ ms.filter (·.target ≠ path) := by
    intro path hpath hpath'
    obtain ⟨k, hk, hkstaging⟩ := hstaged
    refine ⟨⟨k, List.mem_filter.mpr ⟨hk, ?_⟩, hkstaging⟩, List.mem_filter.mpr ⟨hm, ?_⟩⟩
    · simpa [hkstaging] using hpath.symm
    · simpa [htarget] using hpath'.symm
  cases h with
  | staged source hcap hblock hpath hfree => exact happend _
  | published hcap hblock hpath hfree => exact happend _
  | publishedBlock device hcap hblock hpath hfree => exact happend _
  | @unstaged req _ _ hunused hrest =>
      -- The request found no users of its path, and `m` is a user of the staging path.
      have hother : req.stagingTargetPath ≠ target := fun heq => hworkload (congrArg some heq)
      have hpath : req.stagingTargetPath ≠ staging := by
        rintro heq
        exact (hunused m hm (htarget ▸ hother.symm)).1 (hsource.trans heq.symm)
      rw [eq_filter_of_dropLastOn? hms hrest]
      exact hfilter _ hpath hother
  | @unpublished req _ _ hrest =>
      -- Unmounting the path of the workload would leave nothing mounted there.
      have hpath : req.targetPath ≠ staging := fun heq => hstaging (congrArg some heq)
      rw [eq_filter_of_dropLastOn? hms hrest] at hstill ⊢
      have hother : req.targetPath ≠ target := by
        rintro rfl
        exact not_mounted_filter _ _ hstill
      exact hfilter _ hpath hother
  | _ => exact ⟨hstaged, hm⟩

theorem Bound.staged {s : State} (hs : Distinct s.2.mounts) {staging target : String}
    {arrivals : List Arrival} (h : Bound s staging target arrivals) :
    Separate arrivals → Orderly s arrivals →
      Mounted staging (after s arrivals).2.mounts ∧
        ∃ m ∈ (after s arrivals).2.mounts, m.source = staging ∧ m.target = target := by
  induction h with
  | @made past a hbinds hfree hnow =>
      intro _ horderly
      obtain ⟨k, hk, hkstaging⟩ := (orderly_append.mp horderly).2.1 staging target hbinds
      rw [after_append, after_cons, after_nil] at hnow ⊢
      rcases a.moves_or_same (after s past) with hmoves | hsame
      · obtain ⟨options, hms⟩ := hmoves.of_binds hbinds hfree
        rw [hms]
        exact ⟨⟨k, by simp [hk], hkstaging⟩, ⟨staging, target, "", options⟩, by simp, rfl, rfl⟩
      · rw [hsame] at hnow
        exact absurd hnow hfree
  | @lasting past a h hstill ih =>
      intro hseparate horderly
      have hpast : past ⊆ past ++ [a] := List.subset_append_left past [a]
      obtain ⟨hstaged, m, hm, hsource, htarget⟩ :=
        ih (hseparate.subset hpast) (orderly_append.mp horderly).1
      obtain ⟨b, hb, hbinds⟩ := h.named
      obtain ⟨hbstaging, hbtarget⟩ := hbinds.paths
      rw [after_append, after_cons, after_nil] at hstill ⊢
      rcases a.moves_or_same (after s past) with hmoves | hsame
      · obtain ⟨hstaged', hm'⟩ := hmoves.keeps_bound (after_distinct past hs) hstaged hm hsource
          htarget (hseparate b (hpast hb) a (by simp) staging hbstaging)
          (fun heq => hseparate a (by simp) b (hpast hb) target heq hbtarget) hstill
        exact ⟨hstaged', m, hm', hsource, htarget⟩
      · rw [hsame]
        exact ⟨hstaged, m, hm, hsource, htarget⟩

/-! ## Requests to unmount a staging path in use -/

/-- Mounts are only made on paths that have a name. -/
theorem Moves.named {r : Request} {ms ms' : List Mount} (h : Moves r ms ms') (hms : Distinct ms)
    (hnamed : ¬ Mounted "" ms) : ¬ Mounted "" ms' := by
  rcases h.shape hms with rfl | ⟨m, rfl, hm, -⟩ | ⟨path, rfl⟩
  · exact hnamed
  · rintro ⟨n, hn, htarget⟩
    rcases List.mem_append.mp hn with hn | hn
    · exact hnamed ⟨n, hn, htarget⟩
    · exact hm (List.mem_singleton.mp hn ▸ htarget)
  · rintro ⟨n, hn, htarget⟩
    exact hnamed ⟨n, (List.mem_filter.mp hn).1, htarget⟩

theorem after_named (arrivals : List Arrival) :
    ∀ {s : State}, Distinct s.2.mounts → ¬ Mounted "" s.2.mounts →
      ¬ Mounted "" (after s arrivals).2.mounts := by
  induction arrivals with
  | nil => exact fun _ h => h
  | cons a rest ih =>
      intro s hs hnamed
      apply ih (a.outcome_distinct hs)
      rcases a.moves_or_same s with hmoves | hsame
      · exact hmoves.named hs hnamed
      · rw [hsame]
        exact hnamed

theorem unstaging_eq_ok {req : NodeUnstageVolumeRequest} (hid : req.volumeId ≠ "")
    (hpath : req.stagingTargetPath ≠ "") :
    unstaging req = .ok (VolumeKey.parse req.volumeId).toOption := by
  simp only [unstaging, requireText, if_neg hid, if_neg hpath]
  rfl

theorem delivers_unstage {req : NodeUnstageVolumeRequest} (hid : req.volumeId ≠ "")
    (hpath : req.stagingTargetPath ≠ "") (h : Memory) :
    Delivers Answers (unstage req) h
      (fun _ h' => (¬ Mounted req.stagingTargetPath h.mounts ∧ h'.mounts = h.mounts) ∨
        Unused req.stagingTargetPath h.mounts ∧
          Memory.dropLastOn? req.stagingTargetPath h.mounts = some h'.mounts)
      (fun e h' => h' = h ∧ (∃ text, e = .failedPrecondition text) ∧
        Mounted req.stagingTargetPath h.mounts ∧ ¬ Unused req.stagingTargetPath h.mounts) := by
  unfold unstage
  rw [Prog.delivers_bind, unstaging_eq_ok hid hpath, Host.delivers_ofExcept, Prog.either_ok,
    Host.delivers_locked]
  exact delivers_unstageLocked req _ h

/-- A request to unmount a staging path in use is refused before it does anything. -/
theorem delivers_unstage_used {req : NodeUnstageVolumeRequest} {h : Memory}
    (hid : req.volumeId ≠ "") (hpath : req.stagingTargetPath ≠ "")
    (hmounted : Mounted req.stagingTargetPath h.mounts)
    (hused : ¬ Unused req.stagingTargetPath h.mounts) :
    Delivers Answers (unstage req) h (fun _ _ => False)
      (fun e h' => h' = h ∧ ∃ text, e = .failedPrecondition text) := by
  refine (delivers_unstage hid hpath h).mono ?_ ?_
  · rintro _ h' (⟨hfree, -⟩ | ⟨hunused, -⟩)
    · exact absurd hmounted hfree
    · exact absurd hunused hused
  · rintro e h' ⟨hsame, htext, -⟩
    exact ⟨hsame, htext⟩

theorem Arrival.refused_of_used {req : NodeUnstageVolumeRequest} {s : State}
    (change : Memory → Memory) (hid : req.volumeId ≠ "") (hpath : req.stagingTargetPath ≠ "")
    (hmounted : Mounted req.stagingTargetPath s.2.mounts)
    (hused : ¬ Unused req.stagingTargetPath s.2.mounts) :
    (∃ text, (Arrival.outcome ⟨.unstage req, change⟩ s).1 = .error (.failedPrecondition text)) ∧
      (Arrival.outcome ⟨.unstage req, change⟩ s).2.2 =
        (Arrival.meet ⟨.unstage req, change⟩ s).2 := by
  have hrefused := Arrival.outcome_of_delivers (a := ⟨.unstage req, change⟩) (s := s)
    (delivers_unstage_used hid hpath hmounted hused)
  cases hresult : (Arrival.outcome ⟨.unstage req, change⟩ s).1 with
  | ok response =>
      rw [hresult] at hrefused
      exact False.elim hrefused
  | error e =>
      rw [hresult] at hrefused
      obtain ⟨hsame, text, rfl⟩ := hrefused
      exact ⟨⟨text, rfl⟩, hsame⟩

/-- A file system is never unmounted under its users. In a run that starts without mounts, names no
path in two roles and publishes file systems only while they are staged, the staging path of
everything that is bound is mounted at every moment. A request to unmount a staging path while
another path has it, or something that is mounted there, as its source is refused as it arrives, and
the host is as it was. -/
theorem unstage_spares_users {s : State} (hs : s.2.mounts = []) {arrivals : List Arrival}
    (hseparate : Separate arrivals) (horderly : Orderly s arrivals) :
    (∀ staging target, Bound s staging target arrivals →
      Mounted staging (after s arrivals).2.mounts) ∧
    ∀ staging, Mounted staging (after s arrivals).2.mounts →
      (∃ m ∈ (after s arrivals).2.mounts, m.target ≠ staging ∧
        (m.source = staging ∨
          ∃ n ∈ (after s arrivals).2.mounts, n.target = staging ∧ n.source = m.source)) →
      ∀ (req : NodeUnstageVolumeRequest) (change : Memory → Memory), req.volumeId ≠ "" →
        req.stagingTargetPath = staging →
        (∃ text, (Arrival.outcome ⟨.unstage req, change⟩ (after s arrivals)).1 =
          .error (.failedPrecondition text)) ∧
        (Arrival.outcome ⟨.unstage req, change⟩ (after s arrivals)).2.2 =
          (Arrival.meet ⟨.unstage req, change⟩ (after s arrivals)).2 := by
  have hdistinct : Distinct s.2.mounts := by
    rw [hs]
    exact List.nodup_nil
  have hnamed : ¬ Mounted "" s.2.mounts := by simp [hs, Mounted]
  constructor
  · intro staging target hbound
    exact (hbound.staged hdistinct hseparate horderly).1
  · rintro staging hmounted ⟨m, hm, htarget, hsource⟩ req change hid rfl
    have hpath : req.stagingTargetPath ≠ "" := by
      intro heq
      exact after_named arrivals hdistinct hnamed (heq ▸ hmounted)
    have hused : ¬ Unused req.stagingTargetPath (after s arrivals).2.mounts := by
      intro hunused
      obtain ⟨hself, hothers⟩ := hunused m hm htarget
      rcases hsource with hsource | ⟨n, hn, hntarget, hnsource⟩
      · exact hself hsource
      · exact hothers n hn hntarget hnsource.symm
    have hrefused := Arrival.outcome_of_delivers (a := ⟨.unstage req, change⟩)
      (s := after s arrivals) (delivers_unstage_used hid hpath hmounted hused)
    cases hresult : (Arrival.outcome ⟨.unstage req, change⟩ (after s arrivals)).1 with
    | ok response =>
        rw [hresult] at hrefused
        exact absurd hrefused id
    | error e =>
        rw [hresult] at hrefused
        obtain ⟨hsame, text, rfl⟩ := hrefused
        exact ⟨⟨text, rfl⟩, hsame⟩

/-- A node to which a volume is attached. -/
def attachedNode : State :=
  ([], Memory.addLink {} "/dev/disk/by-id/linode-data" "/dev/sda")

def stageData : Arrival :=
  ⟨.stage
    { volumeId := "7-data", stagingTargetPath := "/staging/data", volumeCapability := some {} }, id⟩

def publishData : Arrival :=
  ⟨.publish
    { volumeId := "7-data", stagingTargetPath := "/staging/data", targetPath := "/pods/web",
      volumeCapability := some {} }, id⟩

theorem data_separate : Separate [stageData, publishData] := by
  simp [Separate, stageData, publishData, Request.stagingPath?, Request.targetPath?]

theorem data_orderly : Orderly attachedNode [stageData, publishData] := by
  refine ⟨?_, ?_, trivial⟩
  · rintro staging target ⟨req, cap, hreq, -⟩
    cases hreq
  · rintro staging target ⟨req, cap, hreq, -, -, rfl, -⟩
    cases hreq
    unfold Mounted
    decide +kernel

theorem web_bound : Bound attachedNode "/staging/data" "/pods/web" [stageData, publishData] := by
  change Bound attachedNode "/staging/data" "/pods/web" ([stageData] ++ [publishData])
  refine .made ⟨_, {}, rfl, rfl, rfl, rfl, rfl⟩ ?_ ?_
  · unfold Mounted
    decide +kernel
  · unfold Mounted
    decide +kernel

theorem unstage_spares_web :
    Mounted "/staging/data" (after attachedNode [stageData, publishData]).2.mounts ∧
      (∃ text, (unstageData.outcome (after attachedNode [stageData, publishData])).1 =
        .error (.failedPrecondition text)) ∧
      (unstageData.outcome (after attachedNode [stageData, publishData])).2.2 =
        (unstageData.meet (after attachedNode [stageData, publishData])).2 := by
  obtain ⟨hbound, hrefused⟩ := unstage_spares_users rfl data_separate data_orderly
  have hstaged := hbound "/staging/data" "/pods/web" web_bound
  refine ⟨hstaged, hrefused "/staging/data" hstaged ?_ _ id (by decide) rfl⟩
  decide +kernel

end VolumePlugin.Node
