import VolumePlugin.Proofs.Controller.History

/-! # What is known of a volume that was made larger

A volume that is too small is resized and then waited for. A volume of the wanted size is left
alone, even if it got that size from a request that did not wait to the end. -/

namespace VolumePlugin.Controller

open Cloud (Memory)
open Cloud.Memory (settle)

variable {σ : Type}

/-- A provider that shows what has become of a volume: once it has agreed to a size, no read of the
volume shows less. -/
structure ShowsSize (answer : (c : Cloud.Call) → σ → c.Answer × σ) (volume size : Nat)
    (agreed : σ → Prop) : Prop where
  resize : ∀ s, (answer (.resizeVolume volume size) s).1 = .ok () →
    agreed (answer (.resizeVolume volume size) s).2
  read : ∀ s, agreed s → agreed (answer (.getVolume volume) s).2 ∧
    ∀ v, (answer (.getVolume volume) s).1 = .ok v → size ≤ v.size

/-- The provider in memory does. -/
theorem memory_showsSize (volume size : Nat) :
    ShowsSize Memory.answer volume size fun m =>
      ∃ v, m.volume? volume = some v ∧ size ≤ v.size := by
  constructor
  · intro m hok
    simp only [Memory.answer, Memory.resizeVolume] at hok ⊢
    cases hv : m.volume? volume with
    | none => simp [hv] at hok
    | some v =>
        by_cases hlarge : size < v.size
        · simp [hv, hlarge] at hok
        · simp [hlarge, Memory.id_of_volume? hv]
  · rintro m ⟨v, hv, hsize⟩
    have hread : ∀ u, (m.getVolume volume).1 = .ok u → Memory.Shown u v ∧
        (m.getVolume volume).2.volume? volume = some (settle v) := by
      intro u hu
      obtain ⟨w, hw, hafter⟩ := Memory.getVolume_eq_ok hu
      obtain rfl : v = w := Option.some.inj (hv.symm.trans hw)
      exact hafter
    have hfound : ∃ u, (m.getVolume volume).1 = .ok u := by simp [Memory.getVolume, hv]
    obtain ⟨u, hu⟩ := hfound
    refine ⟨⟨settle v, (hread u hu).2, hsize⟩, fun u hu => ?_⟩
    have hshown : u.size = v.size := (hread u hu).1.congr (f := RemoteVolume.size) fun _ => rfl
    exact hshown ▸ hsize

section Recorded

variable {answer : (c : Cloud.Call) → σ → c.Answer × σ} {p : Poller} {t : Timeline} {s : σ}

/-- A resize that is granted is waited for, and the wait ends with a read. -/
theorem resize_converged {α : Type} {volume size : Nat} {before : List Exchange} {a b : α}
    (hok : ((do
        Job.call (.resizeVolume volume size)
        let _ ← Job.waitActive volume
        pure a : Job α).run.run (answerQuery p (recorded answer)) (t, (before, s))).1 = .ok b) :
    let calls := ((do
        Job.call (.resizeVolume volume size)
        let _ ← Job.waitActive volume
        pure a : Job α).run.run (answerQuery p (recorded answer)) (t, (before, s))).2.2.1
    ∃ v, lastShown? volume calls = some v ∧
      ⟨.resizeVolume volume size, .ok ()⟩ ∈ calls ∧ v.status = .active ∧
        ∀ agreed, ShowsSize answer volume size agreed → size ≤ v.size := by
  intro calls
  unfold Job.waitActive at hok
  obtain ⟨⟨⟩, hgranted, hrest⟩ := call_bind_eq_ok hok
  rw [hrest] at hok
  obtain ⟨v, t', ⟨log, s'⟩, hwait, hwaited⟩ := wait_bind_eq_ok hok
  have hcalls : calls = log := congrArg (·.2.2.1) (hrest.trans hwaited)
  obtain ⟨hmet, earlier, ⟨reads, rfl, -⟩, hlog⟩ := wait_recorded hwait
  rw [hcalls, show log = _ from hlog]
  have hactive : v.status = .active := by simpa [Goal.isMet] using hmet
  have hresized : ⟨.resizeVolume volume size, .ok ()⟩ ∈ (recorded answer
      (.resizeVolume volume size) (before, s)).2.1 :=
    List.mem_append_right _ (hgranted ▸ List.mem_singleton_self _)
  refine ⟨v, lastShown?_concat volume _ v, ?_, hactive, ?_⟩
  · exact List.mem_append_left _ (List.mem_append_left _ hresized)
  · intro agreed hagreed
    exact wait_recorded_shows hwait (hagreed.resize s hgranted) hagreed.read

end Recorded

/-- A request to make a volume larger that succeeds has seen it last with the wanted size and done
nothing, or it has had it resized and seen it last ready for use. The volume was then as large as
wanted if the provider shows the sizes that it has agreed to. -/
theorem expansion_converges (answer : (c : Cloud.Call) → σ → c.Answer × σ) (p : Poller)
    (t : Timeline) (s : σ) (req : ControllerExpandVolumeRequest)
    {response : ControllerExpandVolumeResponse}
    (hok : ((expandVolume req).run.run (answerQuery p answer) (t, s)).1 = .ok response) :
    let id := volumeNumber req.volumeId
    let calls := exchanges answer p (expandVolume req) t s
    ∃ size v, expandedSize req = .ok size ∧ lastShown? id calls = some v ∧
      (calls = [⟨.getVolume id, .ok v⟩] ∧ v.size = size ∨
        ⟨.resizeVolume id size, .ok ()⟩ ∈ calls ∧ v.status = .active ∧
          ∀ agreed, ShowsSize answer id size agreed → size ≤ v.size) := by
  rw [run_recorded p (expandVolume req).run t ([], s)] at hok
  intro id calls
  unfold calls exchanges
  unfold expandVolume existingVolume at hok ⊢
  obtain ⟨size, hsize, hrest⟩ := ofExcept_bind_eq_ok hok
  rw [hrest, bind_assoc, run_attempt_bind] at hok ⊢
  simp only [recorded] at hok ⊢
  rcases hread : answer (.getVolume (volumeNumber req.volumeId)) s with ⟨result, s₁⟩
  rw [hread] at hok
  cases result with
  | error e => cases hok
  | ok u =>
      refine ⟨size, ?_⟩
      simp only [pure_bind, List.nil_append, hsize, true_and] at hok ⊢
      by_cases hshrink : size < u.size
      · rw [if_pos hshrink] at hok
        cases hok
      · rw [if_neg hshrink] at hok ⊢
        by_cases hgrow : u.size < size
        · rw [if_pos hgrow] at hok ⊢
          obtain ⟨v, hlast, hresized⟩ := resize_converged hok
          exact ⟨v, hlast, .inr hresized⟩
        · rw [if_neg hgrow]
          have hsame : u.size = size := by omega
          exact ⟨u, lastShown?_concat id [] u, .inl ⟨rfl, hsame⟩⟩

/-- A provider with a volume of 10 GiB. -/
def smallVolume : Memory where
  nextId := 101
  volumes := [⟨100, "data", 10, "us-east", .active, none, Memory.devicePath "data", []⟩]

/-- The request to make the volume twice as large. -/
def doubling : ControllerExpandVolumeRequest where
  volumeId := "100-data"
  capacityRange := some { requiredBytes := 21474836480 }

theorem expansion_converges_doubling :
    ((expandVolume doubling).run.run (answerQuery ⟨10, 100, false, 0⟩ Memory.answer)
        ({}, smallVolume)).1 = .ok ⟨21474836480, true⟩ ∧
      ∃ v, lastShown? 100 (exchanges Memory.answer ⟨10, 100, false, 0⟩ (expandVolume doubling) {}
        smallVolume) = some v ∧ 20 ≤ v.size := by
  have hrun : ((expandVolume doubling).run.run (answerQuery ⟨10, 100, false, 0⟩ Memory.answer)
      ({}, smallVolume)).1 = .ok ⟨21474836480, true⟩ := by decide +kernel
  have hid : volumeNumber doubling.volumeId = 100 := by decide +kernel
  have hwanted : expandedSize doubling = .ok 20 := by decide +kernel
  obtain ⟨size, v, hsize, hlast, hstate⟩ :=
    expansion_converges Memory.answer ⟨10, 100, false, 0⟩ {} smallVolume doubling hrun
  rw [hid] at hlast hstate
  obtain rfl : 20 = size := Except.ok.inj (hwanted.symm.trans hsize)
  refine ⟨hrun, v, hlast, ?_⟩
  rcases hstate with ⟨-, hsame⟩ | ⟨-, -, hlarge⟩
  · exact Nat.le_of_eq hsame.symm
  · exact hlarge _ (memory_showsSize 100 20)

/-- The provider in memory, except that no read shows what it has resized. -/
def staleAnswer (c : Cloud.Call) (m : Memory) : c.Answer × Memory :=
  match c with
  | .resizeVolume _ _ => (.ok (), m)
  | c => Memory.answer c m

/-- The signal to shut down comes when the volume has been resized. Whoever asks again is told that
all is well, although all that was seen of the volume is that it is still being resized. A provider
that does not show what it has agreed to is believed, too. -/
theorem doubling_granted_while_resizing :
    let interrupted := (expandVolume doubling).run.run
      (answerQuery ⟨1000, 60000, false, 0⟩ Memory.answer)
      ({ signal := { value := true } }, smallVolume)
    interrupted.1 = .error
        (.unavailable "wait for status Active on volume 100 cancelled by shutdown") ∧
      ((expandVolume doubling).run.run (answerQuery ⟨1000, 60000, false, 0⟩ Memory.answer)
        ({}, interrupted.2.2)).1 = .ok ⟨21474836480, true⟩ ∧
      (lastShown? 100 (exchanges Memory.answer ⟨1000, 60000, false, 0⟩ (expandVolume doubling) {}
        interrupted.2.2)).map (·.status) = some .resizing ∧
      ((expandVolume doubling).run.run (answerQuery ⟨1000, 60000, false, 0⟩ staleAnswer)
        ({}, smallVolume)).1 = .ok ⟨21474836480, true⟩ ∧
      (lastShown? 100 (exchanges staleAnswer ⟨1000, 60000, false, 0⟩ (expandVolume doubling) {}
        smallVolume)).map (·.size) = some 10 := by
  decide +kernel

end VolumePlugin.Controller
