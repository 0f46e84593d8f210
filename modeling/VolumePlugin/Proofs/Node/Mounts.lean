import VolumePlugin.Proofs.Except
import VolumePlugin.Proofs.Node.Quiet
import VolumePlugin.Proofs.Node.Run

/-! # What the node service does to the mounts

Every request either fails and leaves the mounts as they were, or it succeeds in one of few ways. -/

namespace VolumePlugin.Node

open Host (Answers Job Memory Mount Mounted Quiet)
open Prog (Delivers Either Ensures)

/-- Whether nothing that is mounted elsewhere has the path as its source, or something that is
mounted on the path. -/
def Unused (path : String) (ms : List Mount) : Prop :=
  ∀ m ∈ ms, m.target ≠ path → m.source ≠ path ∧ ∀ n ∈ ms, n.target = path → m.source ≠ n.source

/-- How a request that succeeds changes the mounts. -/
inductive Moves : Request → List Mount → List Mount → Prop where
  | staged {req : NodeStageVolumeRequest} {cap : VolumeCapability} {ms : List Mount}
      (source : String) (hcap : req.volumeCapability = some cap) (hblock : cap.isBlock = false)
      (hpath : req.stagingTargetPath ≠ "") (hfree : ¬ Mounted req.stagingTargetPath ms) :
      Moves (.stage req) ms
        (ms ++ [⟨source, req.stagingTargetPath, cap.fsType, cap.mountFlags⟩])
  | stagedBlock {req : NodeStageVolumeRequest} {cap : VolumeCapability} {ms : List Mount}
      (hcap : req.volumeCapability = some cap) (hblock : cap.isBlock = true) :
      Moves (.stage req) ms ms
  | stagedBefore {req : NodeStageVolumeRequest} {ms : List Mount}
      (hmounted : Mounted req.stagingTargetPath ms) : Moves (.stage req) ms ms
  | unstaged {req : NodeUnstageVolumeRequest} {ms rest : List Mount}
      (hunused : Unused req.stagingTargetPath ms)
      (hrest : Memory.dropLastOn? req.stagingTargetPath ms = some rest) :
      Moves (.unstage req) ms rest
  | unstagedBefore {req : NodeUnstageVolumeRequest} {ms : List Mount}
      (hfree : ¬ Mounted req.stagingTargetPath ms) : Moves (.unstage req) ms ms
  | published {req : NodePublishVolumeRequest} {cap : VolumeCapability} {ms : List Mount}
      (hcap : req.volumeCapability = some cap) (hblock : cap.isBlock = false)
      (hpath : req.targetPath ≠ "") (hfree : ¬ Mounted req.targetPath ms) :
      Moves (.publish req) ms
        (ms ++ [⟨req.stagingTargetPath, req.targetPath, "", publishOptions req cap⟩])
  | publishedBlock {req : NodePublishVolumeRequest} {cap : VolumeCapability} {ms : List Mount}
      (device : String) (hcap : req.volumeCapability = some cap) (hblock : cap.isBlock = true)
      (hpath : req.targetPath ≠ "") (hfree : ¬ Mounted req.targetPath ms) :
      Moves (.publish req) ms (ms ++ [⟨device, req.targetPath, "", bindOptions req.readonly⟩])
  | publishedBefore {req : NodePublishVolumeRequest} {ms : List Mount}
      (hmounted : Mounted req.targetPath ms) : Moves (.publish req) ms ms
  | unpublished {req : NodeUnpublishVolumeRequest} {ms rest : List Mount}
      (hrest : Memory.dropLastOn? req.targetPath ms = some rest) :
      Moves (.unpublish req) ms rest
  | unpublishedBefore {req : NodeUnpublishVolumeRequest} {ms : List Mount}
      (hfree : ¬ Mounted req.targetPath ms) : Moves (.unpublish req) ms ms
  | expanded {req : NodeExpandVolumeRequest} {ms : List Mount} : Moves (.expand req) ms ms
  | measured {req : NodeGetVolumeStatsRequest} {ms : List Mount} : Moves (.stats req) ms ms

/-- The work moves mounts as its request does if it succeeds, and moves none if it fails. -/
def Delivered (r : Request) {α : Type} (before : List Mount) (job : Job α) (h : Memory) : Prop :=
  Delivers Answers job h (fun _ h' => Moves r before h'.mounts) (fun _ h' => h'.mounts = before)

section Rules

variable {α β : Type} {r : Request} {h : Memory} {before : List Mount}

theorem Delivered.ofExcept {result : Except CsiError α} {f : α → Job β} (hsame : h.mounts = before)
    (hf : ∀ a, result = .ok a → Delivered r before (f a) h) :
    Delivered r before (Job.ofExcept result >>= f) h := by
  cases result with
  | error e => exact hsame
  | ok a => exact hf a rfl

theorem Delivered.locked {job : Job α} (hjob : Delivered r before job h) :
    Delivered r before (Job.locked job) h :=
  (Host.delivers_locked ..).mpr hjob

/-- Quiet work may come before the rest. -/
theorem Delivered.quiet {job : Job α} {f : α → Job β} (hquiet : Prog.Asks Quiet job.run)
    (hsame : h.mounts = before)
    (hf : ∀ a h', h'.mounts = before → Delivered r before (f a) h') :
    Delivered r before (job >>= f) h :=
  (Prog.delivers_bind ..).mpr ((Host.delivers_of_quiet hquiet h).mono
    (fun a h' hsame' => hf a h' (hsame'.trans hsame)) (fun _ _ hsame' => hsame'.trans hsame))

theorem Delivered.isMountPoint {path : String} {f : Bool → Job β}
    (hf : Delivered r before (f (h.isMountPoint path)) h) :
    Delivered r before (isMountPoint path >>= f) h :=
  (Prog.delivers_bind ..).mpr ((Host.ensures_ask ..).mpr hf)

end Rules

/-! ## What requests must say -/

theorem requireText_eq_ok {what text : String} {a : Unit} (h : requireText what text = .ok a) :
    text ≠ "" := by
  unfold requireText at h
  split at h
  · cases h
  · assumption

theorem requireCapability_eq_ok {given : Option VolumeCapability} {cap : VolumeCapability}
    (h : requireCapability given = .ok cap) : given = some cap := by
  cases given with
  | none => cases h
  | some given => exact congrArg some (Except.ok.inj h)

theorem staging_eq_ok {req : NodeStageVolumeRequest} {s : Staging} (h : staging req = .ok s) :
    req.stagingTargetPath ≠ "" ∧ req.volumeCapability = some s.cap := by
  simp only [staging, except_bind_eq_ok] at h
  obtain ⟨_, -, _, hpath, cap, hcap, key, -, h⟩ := h
  have hs : s.cap = cap := by
    split at h
    · obtain ⟨_, -, h⟩ := except_bind_eq_ok.mp h
      rw [← Except.ok.inj h]
    · rw [← Except.ok.inj h]
  exact ⟨requireText_eq_ok hpath, hs ▸ requireCapability_eq_ok hcap⟩

theorem publishing_eq_ok {req : NodePublishVolumeRequest} {cap : VolumeCapability}
    (h : publishing req = .ok cap) : req.targetPath ≠ "" ∧ req.volumeCapability = some cap := by
  simp only [publishing, except_bind_eq_ok] at h
  obtain ⟨_, -, _, -, _, hpath, hcap⟩ := h
  exact ⟨requireText_eq_ok hpath, requireCapability_eq_ok hcap⟩

/-! ## Staging -/

theorem delivered_stage (req : NodeStageVolumeRequest) (h : Memory) :
    Delivered (.stage req) h.mounts (stage req) h := by
  apply Delivered.ofExcept rfl
  intro s hs
  obtain ⟨hpath, hcap⟩ := staging_eq_ok hs
  apply Delivered.locked
  apply Delivered.quiet (quiet_resolveDevice _ _) rfl
  intro device h₁ hsame₁
  apply Delivered.isMountPoint
  cases hmounted : h₁.isMountPoint req.stagingTargetPath with
  | true =>
      have hthere : Mounted req.stagingTargetPath h₁.mounts := Memory.isMountPoint_iff.mp hmounted
      exact hsame₁ ▸ .stagedBefore hthere
  | false =>
      have hfree : ¬ Mounted req.stagingTargetPath h.mounts := by
        rw [← hsame₁]
        exact Memory.isMountPoint_eq_false_iff.mp hmounted
      simp only [Bool.false_eq_true, if_false]
      cases hblock : s.cap.isBlock with
      | true => exact hsame₁ ▸ .stagedBlock hcap hblock
      | false =>
        simp only [Bool.false_eq_true, if_false]
        apply Delivered.quiet (quiet_mountSource _ _) hsame₁
        intro source h₂ hsame₂
        apply Delivered.quiet (quiet_makeDirectories _) hsame₂
        intro _ h₃ hsame₃
        have hmoves := Moves.staged source hcap hblock hpath hfree
        rw [← hsame₃] at hmoves ⊢
        exact (Prog.delivers_bind ..).mpr ((Host.ensures_ask ..).mpr hmoves)

/-! ## Unstaging -/

/-- The search for users reads the mounts and stops at the first source that has some. -/
theorem delivers_requireUnused (path : String) (sources : List String) (h : Memory) :
    Delivers Answers (requireUnused path sources) h
      (fun _ h' => h' = h ∧ ∀ m ∈ h.mounts, m.source ∈ sources → m.target = path)
      (fun e h' => h' = h ∧ (∃ text, e = .failedPrecondition text) ∧
        ∃ m ∈ h.mounts, m.source ∈ sources ∧ m.target ≠ path) := by
  induction sources with
  | nil => simp [requireUnused]
  | cons source rest ih =>
      unfold requireUnused
      rw [Prog.delivers_bind, Host.delivers_ofWork, Host.ensures_ask]
      simp only [Memory.answer, Prog.either_ok]
      cases husers : (h.targetsOf source).filter (· ≠ path) with
      | nil =>
          have hnone : ∀ m ∈ h.mounts, m.source = source → m.target = path := by
            intro m hm hsource
            by_contra htarget
            have huser := List.filter_eq_nil_iff.mp husers m.target
              (Memory.mem_targetsOf.mpr ⟨m, hm, hsource, rfl⟩)
            exact huser (by simpa using htarget)
          apply ih.mono
          · rintro _ h' ⟨hsame, hrest⟩
            refine ⟨hsame, fun m hm hsource => ?_⟩
            rcases List.mem_cons.mp hsource with hsource | hsource
            · exact hnone m hm hsource
            · exact hrest m hm hsource
          · rintro e h' ⟨hsame, htext, m, hm, hsource, htarget⟩
            exact ⟨hsame, htext, m, hm, List.mem_cons_of_mem _ hsource, htarget⟩
      | cons target others =>
          have hmem : target ∈ (h.targetsOf source).filter (· ≠ path) := by
            rw [husers]
            exact List.mem_cons_self
          obtain ⟨htarget, hne⟩ := List.mem_filter.mp hmem
          obtain ⟨m, hm, hsource, rfl⟩ := Memory.mem_targetsOf.mp htarget
          exact ⟨rfl, ⟨_, rfl⟩, m, hm, by simp [hsource], by simpa using hne⟩

theorem unused_iff {path : String} {h : Memory} :
    Unused path h.mounts ↔
      ∀ m ∈ h.mounts, m.source ∈ h.sourcesOf path ++ [path] → m.target = path := by
  simp only [List.mem_append, List.mem_singleton, Memory.mem_sourcesOf]
  constructor
  · intro hunused m hm hsource
    by_contra htarget
    obtain ⟨hpath, hother⟩ := hunused m hm htarget
    rcases hsource with ⟨n, hn, htarget', hsource⟩ | hsource
    · exact hother n hn htarget' hsource.symm
    · exact hpath hsource
  · intro hunused m hm htarget
    refine ⟨fun hsource => htarget (hunused m hm (.inr hsource)), ?_⟩
    intro n hn htarget' hsource
    exact htarget (hunused m hm (.inl ⟨n, hn, htarget', hsource.symm⟩))

/-- Where a staging path is in use, nothing at all happens to the host. -/
theorem delivers_unmountStaging (path : String) (h : Memory) :
    Delivers Answers (unmountStaging path) h
      (fun _ h' => (¬ Mounted path h.mounts ∧ h' = h) ∨
        (Unused path h.mounts ∧ ∃ rest, Memory.dropLastOn? path h.mounts = some rest ∧
          h' = { h with mounts := rest }))
      (fun e h' => h' = h ∧ (∃ text, e = .failedPrecondition text) ∧
        Mounted path h.mounts ∧ ¬ Unused path h.mounts) := by
  unfold unmountStaging isMountPoint
  rw [Prog.delivers_bind, Host.delivers_ofWork, Host.ensures_ask]
  simp only [Memory.answer, Prog.either_ok]
  cases hmounted : h.isMountPoint path with
  | false => exact .inl ⟨Memory.isMountPoint_eq_false_iff.mp hmounted, rfl⟩
  | true =>
      simp only [if_true]
      rw [Prog.delivers_bind, Host.delivers_ofWork, Host.ensures_ask]
      simp only [Memory.answer, Prog.either_ok]
      rw [Prog.delivers_bind]
      apply (delivers_requireUnused path (h.sourcesOf path ++ [path]) h).mono
      · rintro _ h' ⟨rfl, hunused⟩
        rw [Prog.delivers_bind, Host.delivers_ofWork, Host.ensures_ask]
        simp only [Memory.answer, Memory.unmount]
        cases hrest : Memory.dropLastOn? path h'.mounts with
        | none =>
            -- What is mounted can be unmounted.
            exact absurd (Memory.isMountPoint_iff.mp hmounted)
              (Memory.dropLastOn?_eq_none_iff.mp hrest)
        | some rest => exact .inr ⟨unused_iff.mpr hunused, rest, rfl, rfl⟩
      · rintro e h' ⟨hsame, htext, m, hm, hsource, htarget⟩
        exact ⟨hsame, htext, Memory.isMountPoint_iff.mp hmounted,
          fun hunused => htarget (unused_iff.mp hunused m hm hsource)⟩

/-- Closing mappings is no matter of the mounts. -/
theorem delivers_unstageLocked (req : NodeUnstageVolumeRequest) (key : Option VolumeKey)
    (h : Memory) :
    Delivers Answers (unstageLocked req key) h
      (fun _ h' => (¬ Mounted req.stagingTargetPath h.mounts ∧ h'.mounts = h.mounts) ∨
        Unused req.stagingTargetPath h.mounts ∧
          Memory.dropLastOn? req.stagingTargetPath h.mounts = some h'.mounts)
      (fun e h' => h' = h ∧ (∃ text, e = .failedPrecondition text) ∧
        Mounted req.stagingTargetPath h.mounts ∧ ¬ Unused req.stagingTargetPath h.mounts) := by
  refine (Prog.delivers_bind ..).mpr ((delivers_unmountStaging req.stagingTargetPath h).mono ?_ ?_)
  · intro mappings h' hcase
    apply Host.delivers_quiet_lift (quiet_leftOpen key mappings)
    intro more h₁ hsame₁
    apply Host.delivers_quiet_lift (quiet_closeMappings _)
    intro _ h₂ hsame₂
    have hsame : h₂.mounts = h'.mounts := hsame₂.trans hsame₁
    rcases hcase with ⟨hfree, rfl⟩ | ⟨hunused, rest, hrest, rfl⟩
    · exact .inl ⟨hfree, hsame⟩
    · exact .inr ⟨hunused, hrest.trans (congrArg some hsame.symm)⟩
  · exact fun _ _ hrefused => hrefused

theorem delivered_unstage (req : NodeUnstageVolumeRequest) (h : Memory) :
    Delivered (.unstage req) h.mounts (unstage req) h := by
  apply Delivered.ofExcept rfl
  intro key _
  apply Delivered.locked
  refine (delivers_unstageLocked req key h).mono ?_ ?_
  · rintro _ h' (⟨hfree, hsame⟩ | ⟨hunused, hrest⟩)
    · rw [hsame]
      exact .unstagedBefore hfree
    · exact .unstaged hunused hrest
  · rintro e h' ⟨rfl, -⟩
    rfl

/-! ## Publishing -/

/-- What remains when the device is known and the directories are there. -/
theorem delivered_bindDevice {req : NodePublishVolumeRequest} {cap : VolumeCapability}
    {before : List Mount} {h : Memory} (device : String)
    (hcap : req.volumeCapability = some cap) (hblock : cap.isBlock = true)
    (hpath : req.targetPath ≠ "") (hfree : ¬ Mounted req.targetPath before)
    (hsame : h.mounts = before) {failure : Host.Failure → CsiError}
    {answer : NodePublishVolumeResponse} :
    Delivered (.publish req) before (do
      Job.demand (Host.ask (.createFile req.targetPath)) failure
      Job.ofWork (Host.ask (.mount ⟨device, req.targetPath, "", bindOptions req.readonly⟩))
      pure answer) h := by
  apply Delivered.quiet (Host.asks_demand (Host.asks_ask trivial) _) hsame
  intro _ h' hsame'
  have hmoves := Moves.publishedBlock device hcap hblock hpath hfree
  rw [← hsame'] at hmoves ⊢
  exact (Prog.delivers_bind ..).mpr ((Host.ensures_ask ..).mpr hmoves)

theorem delivered_publish (req : NodePublishVolumeRequest) (h : Memory) :
    Delivered (.publish req) h.mounts (publish req) h := by
  apply Delivered.ofExcept rfl
  intro cap hcap
  obtain ⟨hpath, hcap⟩ := publishing_eq_ok hcap
  apply Delivered.locked
  apply Delivered.isMountPoint
  cases hmounted : h.isMountPoint req.targetPath with
  | true => exact .publishedBefore (Memory.isMountPoint_iff.mp hmounted)
  | false =>
      have hfree := Memory.isMountPoint_eq_false_iff.mp hmounted
      simp only [Bool.false_eq_true, if_false]
      cases hblock : cap.isBlock with
      | true =>
          simp only [if_true]
          unfold publishBlock
          rw [bind_assoc]
          apply Delivered.quiet (quiet_blockDevice req) rfl
          intro device h₁ hsame₁
          cases Host.Path.parent? req.targetPath with
          | none =>
              dsimp only
              rw [bind_assoc]
              exact delivered_bindDevice device hcap hblock hpath hfree hsame₁
          | some up =>
              dsimp only
              rw [bind_assoc]
              apply Delivered.quiet (quiet_makeDirectories up) hsame₁
              intro _ h₂ hsame₂
              rw [bind_assoc]
              exact delivered_bindDevice device hcap hblock hpath hfree hsame₂
      | false =>
          simp only [Bool.false_eq_true, if_false]
          unfold publishMount
          rw [bind_assoc]
          apply Delivered.quiet (quiet_makeDirectories _) rfl
          intro _ h₁ hsame₁
          have hmoves := Moves.published hcap hblock hpath hfree
          rw [← hsame₁] at hmoves ⊢
          exact (Prog.delivers_bind ..).mpr ((Host.ensures_ask ..).mpr hmoves)

theorem delivered_unpublish (req : NodeUnpublishVolumeRequest) (h : Memory) :
    Delivered (.unpublish req) h.mounts (unpublish req) h := by
  apply Delivered.ofExcept rfl
  intro _ _
  apply Delivered.locked
  apply Delivered.isMountPoint
  have hremove : Prog.Asks Quiet (Host.ask (.remove req.targetPath)) := Host.asks_ask trivial
  cases hmounted : h.isMountPoint req.targetPath with
  | true =>
      simp only [if_true]
      rw [Delivered, Prog.delivers_bind, Host.delivers_ofWork, Host.ensures_ask]
      simp only [Memory.answer, Memory.unmount]
      cases hrest : Memory.dropLastOn? req.targetPath h.mounts with
      | none => rfl
      | some rest =>
          apply Host.delivers_quiet_lift hremove
          intro _ h' hsame
          change Moves _ h.mounts h'.mounts
          rw [hsame]
          exact .unpublished hrest
  | false =>
      have hfree := Memory.isMountPoint_eq_false_iff.mp hmounted
      apply Host.delivers_quiet_lift hremove
      intro _ h' hsame
      change Moves _ h.mounts h'.mounts
      rw [hsame]
      exact .unpublishedBefore hfree

/-! ## Requests that change no mounts -/

theorem delivered_expand (req : NodeExpandVolumeRequest) (h : Memory) :
    Delivered (.expand req) h.mounts (expand req) h := by
  apply Delivered.ofExcept rfl
  intro _ _
  apply Delivered.locked
  apply Delivered.isMountPoint
  cases h.isMountPoint req.volumePath with
  | false => rfl
  | true =>
      simp only [Bool.not_true, Bool.false_eq_true, if_false]
      split
      · exact .expanded
      · have hread : Prog.Asks Quiet (Job.ofWork (Host.ask (.mountSources req.volumePath))).run :=
          Host.asks_ask trivial
        apply Delivered.quiet hread rfl
        intro sources h₁ hsame₁
        cases sources with
        | nil => exact hsame₁
        | cons device rest =>
            apply Delivered.quiet (quiet_growMapping device req.secrets) hsame₁
            intro _ h₂ hsame₂
            apply Delivered.quiet (quiet_growFileSystem device req.volumePath) hsame₂
            intro _ h₃ hsame₃
            exact hsame₃ ▸ .expanded

theorem delivered_stats (req : NodeGetVolumeStatsRequest) (h : Memory) :
    Delivered (.stats req) h.mounts (volumeStats req) h := by
  apply (Host.delivers_of_quiet (quiet_volumeStats req) h).mono
  · intro _ h' hsame
    rw [hsame]
    exact .measured
  · exact fun _ _ hsame => hsame

/-- Whatever the host answers, the mounts are as the request leaves them. -/
theorem delivered_job (r : Request) (h : Memory) : Delivered r h.mounts r.job h := by
  cases r with
  | stage req => exact delivered_stage req h
  | unstage req => exact delivered_unstage req h
  | publish req => exact delivered_publish req h
  | unpublish req => exact delivered_unpublish req h
  | expand req => exact delivered_expand req h
  | stats req => exact delivered_stats req h

theorem Arrival.outcome_mounts (a : Arrival) (s : State) :
    Either (fun _ s' => Moves a.request s.2.mounts s'.2.mounts)
      (fun _ s' => s'.2.mounts = s.2.mounts) (a.outcome s).1 (a.outcome s).2 :=
  (a.outcome_of_delivers (delivered_job a.request (a.meet s).2)).imp
    (fun _ hmoves => hmoves) (fun _ hsame => hsame)

/-- The mounts after a request, whether it succeeded or failed. -/
theorem Arrival.moves_or_same (a : Arrival) (s : State) :
    Moves a.request s.2.mounts (a.outcome s).2.2.mounts ∨
      (a.outcome s).2.2.mounts = s.2.mounts :=
  (a.outcome_mounts s).elim (fun _ hmoves => .inl hmoves) (fun _ hsame => .inr hsame)

end VolumePlugin.Node
