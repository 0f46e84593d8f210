import VolumePlugin.Host.Memory
import Mathlib.Data.List.Nodup

/-! # The mounts of the host in memory -/

namespace VolumePlugin.Host

/-- Whether something is mounted on a path. -/
def Mounted (path : String) (ms : List Mount) : Prop :=
  ∃ m ∈ ms, m.target = path

/-- At most one thing is mounted on each path. -/
def Distinct (ms : List Mount) : Prop :=
  (ms.map (·.target)).Nodup

namespace Memory

theorem isMountPoint_iff {h : Memory} {path : String} :
    h.isMountPoint path ↔ Mounted path h.mounts := by
  simp [isMountPoint, Mounted]

theorem isMountPoint_eq_false_iff {h : Memory} {path : String} :
    h.isMountPoint path = false ↔ ¬ Mounted path h.mounts := by
  rw [← isMountPoint_iff, Bool.not_eq_true]

theorem mem_sourcesOf {h : Memory} {path source : String} :
    source ∈ h.sourcesOf path ↔ ∃ m ∈ h.mounts, m.target = path ∧ m.source = source := by
  simp [sourcesOf, and_assoc]

theorem mem_targetsOf {h : Memory} {source target : String} :
    target ∈ h.targetsOf source ↔ ∃ m ∈ h.mounts, m.source = source ∧ m.target = target := by
  simp [targetsOf, and_assoc]

/-! ## Unmounting -/

theorem dropLastOn?_eq_none_iff {target : String} {ms : List Mount} :
    dropLastOn? target ms = none ↔ ¬ Mounted target ms := by
  induction ms with
  | nil => simp [dropLastOn?, Mounted]
  | cons m ms ih =>
      rw [dropLastOn?]
      cases hrest : dropLastOn? target ms with
      | some rest =>
          have hmounted : Mounted target ms := by
            by_contra hnot
            rw [ih.mpr hnot] at hrest
            cases hrest
          obtain ⟨n, hn, htarget⟩ := hmounted
          simp only [reduceCtorEq, false_iff, not_not]
          exact ⟨n, List.mem_cons_of_mem m hn, htarget⟩
      | none =>
          have hnot := ih.mp hrest
          by_cases hm : m.target = target
          · simp [hm, Mounted]
          · simpa [hm, Mounted] using hnot

/-- Unmounting a path leaves what is mounted elsewhere. -/
theorem mem_of_dropLastOn? {target : String} {ms rest : List Mount} {m : Mount}
    (hrest : dropLastOn? target ms = some rest) (hm : m ∈ ms) (htarget : m.target ≠ target) :
    m ∈ rest := by
  induction ms generalizing rest with
  | nil => cases hm
  | cons n ms ih =>
      rw [dropLastOn?] at hrest
      cases hlater : dropLastOn? target ms with
      | some later =>
          rw [hlater] at hrest
          obtain rfl := Option.some.inj hrest
          rcases List.mem_cons.mp hm with rfl | hm
          · exact List.mem_cons_self
          · exact List.mem_cons_of_mem n (ih hlater hm)
      | none =>
          rw [hlater] at hrest
          dsimp only at hrest
          split at hrest
          · next heq =>
              obtain rfl := Option.some.inj hrest
              rcases List.mem_cons.mp hm with rfl | hm
              · exact absurd heq htarget
              · exact hm
          · cases hrest

theorem dropLastOn?_append {target : String} {ms rest : List Mount}
    (hrest : dropLastOn? target ms = some rest) (before : List Mount) :
    dropLastOn? target (before ++ ms) = some (before ++ rest) := by
  induction before with
  | nil => exact hrest
  | cons m before ih => rw [List.cons_append, dropLastOn?, ih, List.cons_append]

/-- Where at most one thing is mounted on a path, unmounting it leaves nothing there, and everything
else as it was. -/
theorem dropLastOn?_eq_filter {target : String} {ms : List Mount} (hdistinct : Distinct ms)
    (hmounted : Mounted target ms) :
    dropLastOn? target ms = some (ms.filter (·.target ≠ target)) := by
  induction ms with
  | nil => simp [Mounted] at hmounted
  | cons m ms ih =>
      obtain ⟨hfirst, hrest⟩ := List.nodup_cons.mp hdistinct
      rw [dropLastOn?]
      by_cases hm : m.target = target
      · have hnot : ¬ Mounted target ms := by
          rintro ⟨n, hn, htarget⟩
          exact hfirst (List.mem_map.mpr ⟨n, hn, htarget.trans hm.symm⟩)
        have hkeep : ms.filter (·.target ≠ target) = ms := by
          apply List.filter_eq_self.mpr
          intro n hn
          simpa using fun htarget => hnot ⟨n, hn, htarget⟩
        rw [dropLastOn?_eq_none_iff.mpr hnot]
        simp only [hm, if_true, List.filter_cons]
        simpa using hkeep.symm
      · have hmounted' : Mounted target ms := by
          obtain ⟨n, hn, htarget⟩ := hmounted
          rcases List.mem_cons.mp hn with rfl | hn
          · exact absurd htarget hm
          · exact ⟨n, hn, htarget⟩
        rw [ih hrest hmounted']
        simp [hm]

end Memory

/-! ## Mounting and unmounting on one path -/

theorem distinct_append {ms : List Mount} {m : Mount} (h : Distinct ms)
    (hfree : ¬ Mounted m.target ms) : Distinct (ms ++ [m]) := by
  unfold Distinct
  rw [List.map_append, List.map_singleton, List.nodup_append]
  refine ⟨h, List.nodup_singleton _, ?_⟩
  intro target htarget other hother heq
  obtain ⟨n, hn, rfl⟩ := List.mem_map.mp htarget
  exact hfree ⟨n, hn, heq.trans (List.mem_singleton.mp hother)⟩

theorem mounted_append (ms : List Mount) (m : Mount) : Mounted m.target (ms ++ [m]) :=
  ⟨m, by simp, rfl⟩

theorem not_mounted_filter (path : String) (ms : List Mount) :
    ¬ Mounted path (ms.filter (·.target ≠ path)) := by
  rintro ⟨m, hm, htarget⟩
  simpa [htarget] using (List.mem_filter.mp hm).2

theorem filter_of_not_mounted {path : String} {ms : List Mount} (h : ¬ Mounted path ms) :
    ms.filter (·.target ≠ path) = ms := by
  apply List.filter_eq_self.mpr
  intro m hm
  simpa using fun htarget => h ⟨m, hm, htarget⟩

/-- The mounts without those on a path. -/
theorem eq_filter_of_dropLastOn? {path : String} {ms rest : List Mount} (h : Distinct ms)
    (hrest : Memory.dropLastOn? path ms = some rest) : rest = ms.filter (·.target ≠ path) := by
  have hmounted : Mounted path ms := by
    by_contra hnot
    rw [Memory.dropLastOn?_eq_none_iff.mpr hnot] at hrest
    cases hrest
  exact Option.some.inj (hrest.symm.trans (Memory.dropLastOn?_eq_filter h hmounted))

end VolumePlugin.Host
