import VolumePlugin.Proofs.Host.Failures
import VolumePlugin.Proofs.Node.Mappings
import VolumePlugin.Proofs.Node.RoundTrip

/-! # Attempts to stage an encrypted volume

Any of the commands that an attempt runs may fail, and leave the device and its mapping in any of
several states. However often this happens, the next attempt in which nothing fails mounts the
mapping, and all attempts together format the device at most once. -/

namespace VolumePlugin

open Host
open Prog (Asks Delivers Either Ensures)

/-! ## Commands for encrypted devices that fail or not -/

namespace Luks

/-- How often a device was formatted. -/
def formats (outputs : List (Command × CommandOutput)) : Nat :=
  outputs.countP fun e => (formatted? e.1).isSome && e.2.success

section Commands

variable {f : Failures} {t : Trial} {device : String} {c : LuksContext}

theorem delivers_mustSucceed_amid (what : String) {arguments : List String} {key : Option String}
    (hsilent : (t.host.run ⟨"cryptsetup", arguments, key⟩).1 = Memory.silent) :
    Delivers (AnswersAmid f) (mustSucceed what arguments key) t
      (fun _ t' => t' = t.carried ⟨"cryptsetup", arguments, key⟩)
      (fun _ t' => f.Strike ∧ ∃ out, out.success = false ∧
        t' = t.failed ⟨"cryptsetup", arguments, key⟩ out) := by
  unfold mustSucceed cryptsetup
  rw [Prog.delivers_bind, delivers_run_amid]
  rcases t.run_cases f ⟨"cryptsetup", arguments, key⟩ with ⟨out, hstrike, hfailed, hrun⟩ | hrun
  · have hout : out.success = false := hfailed
    rw [hrun, hout]
    exact ⟨hstrike, out, hout, rfl⟩
  · rw [hrun, hsilent]
    exact rfl

theorem delivers_isFormatted_amid (hsilent : t.host.responses = []) :
    Delivers (AnswersAmid f) (isFormatted device) t
      (fun found t' => t' = t.carried (probeCommand device) ∧
        found = (t.host.fsTypes.lookup device).isSome)
      (fun _ t' => f.Strike ∧ ∃ out, t' = t.failed (probeCommand device) out) := by
  unfold isFormatted
  rw [Prog.delivers_bind, delivers_run_amid]
  rcases t.run_cases f ⟨"blkid", ["-p", device], none⟩ with ⟨out, hstrike, hfailed, hrun⟩ | hrun
  · obtain ⟨hzero, htwo⟩ : out.code ≠ some 0 ∧ out.code ≠ some 2 := hfailed
    rw [hrun]
    dsimp only
    split
    · next hcode => exact absurd hcode hzero
    · next hcode => exact absurd hcode htwo
    · exact ⟨hstrike, out, rfl⟩
  · have hanswer : (t.host.run ⟨"blkid", ["-p", device], none⟩).1.code =
        if (t.host.fsTypes.lookup device).isSome then some 0 else some 2 :=
      (congrArg (fun r => r.1.code) (run_probe hsilent device)).trans (code_blkid ..)
    rw [hrun]
    dsimp only
    rw [hanswer]
    cases (t.host.fsTypes.lookup device).isSome with
    | true => exact ⟨rfl, rfl⟩
    | false => exact ⟨rfl, rfl⟩

end Commands

end Luks

namespace Node

open Luks (formats formatted? mapperPath)

/-! ## What every attempt keeps -/

section Steadiness

variable {f : Failures} {start : Memory} {device : String} {made : List Mount} {t : Trial}

/-- What holds of a host during all attempts. Devices are where they were at the start, and nothing
was to be formatted that was not blank then. The device was formatted once or never, and it is no
longer blank if it was. -/
structure Steady (start : Memory) (device : String) (made : List Mount) (t : Trial) : Prop where
  anchored : Anchored start t.host
  commands : t.host.commands = start.commands ++ t.outputs.map Prod.fst
  mounts : t.host.mounts = start.mounts ++ made
  calls : t.host.mountCalls = start.mountCalls + made.length
  blank : ∀ e ∈ t.outputs, ∀ d, formatted? e.1 = some d → start.fsTypes.lookup d = none
  once : (formats t.outputs = 0 ∧ t.host.fsTypes.lookup device = start.fsTypes.lookup device) ∨
    (formats t.outputs = 1 ∧ (t.host.fsTypes.lookup device).isSome)

theorem formats_append (outputs : List (Command × CommandOutput)) (e : Command × CommandOutput) :
    formats (outputs ++ [e]) =
      formats outputs + if (formatted? e.1).isSome && e.2.success then 1 else 0 := by
  unfold formats
  rw [List.countP_append, List.countP_singleton]

/-- A command that is carried out keeps what holds, if it formats only what was blank and the device
no more than once. -/
theorem Steady.obeyed (hs : Steady start device made t) {c : Command}
    (hblank : ∀ d, formatted? c = some d → start.fsTypes.lookup d = none)
    (honce : (formats (t.carried c).outputs = 0 ∧
        (t.carried c).host.fsTypes.lookup device = start.fsTypes.lookup device) ∨
      (formats (t.carried c).outputs = 1 ∧
        ((t.carried c).host.fsTypes.lookup device).isSome)) :
    Steady start device made (t.carried c) where
  anchored := hs.anchored.trans (anchored_run t.host c)
  commands := by
    have hrecorded := (Memory.run_recorded t.host c).1
    simp [Trial.carried, hrecorded, hs.commands]
  mounts := (Memory.undisturbed_run t.host c).mounts.trans hs.mounts
  calls := (Memory.run_recorded t.host c).2.trans hs.calls
  blank := by
    intro e he d hd
    rcases List.mem_append.mp he with he | he
    · exact hs.blank e he d hd
    · rw [List.mem_singleton.mp he] at hd
      exact hblank d hd
  once := honce

/-- So a command that formats nothing keeps it. -/
theorem Steady.carried (hs : Steady start device made t) {c : Command}
    (hnone : formatted? c = none) : Steady start device made (t.carried c) := by
  have hsame : (t.carried c).host.fsTypes = t.host.fsTypes := Luks.fsTypes_run hnone t.host
  have hcount : formats (t.carried c).outputs = formats t.outputs := by
    rw [Trial.carried, formats_append]
    simp [hnone]
  refine hs.obeyed (by simp [hnone]) ?_
  rw [hsame, hcount]
  exact hs.once

/-- So does a command that fails, unless it was to format what held something at the start. -/
theorem Steady.failed (hs : Steady start device made t) {c : Command} {out : CommandOutput}
    (hblank : ∀ d, formatted? c = some d → out.success = false ∧ start.fsTypes.lookup d = none) :
    Steady start device made (t.failed c out) where
  anchored := hs.anchored.trans ⟨rfl, rfl, fun _ _ => Iff.rfl⟩
  commands := by simp [Trial.failed, Memory.logged, hs.commands]
  mounts := hs.mounts
  calls := hs.calls
  blank := by
    intro e he d hd
    rcases List.mem_append.mp he with he | he
    · exact hs.blank e he d hd
    · rw [List.mem_singleton.mp he] at hd
      exact (hblank d hd).2
  once := by
    have hcount : formats (t.failed c out).outputs = formats t.outputs := by
      rw [Trial.failed, formats_append]
      cases hd : formatted? c with
      | none => simp
      | some d => simp [(hblank d hd).1]
    rw [hcount]
    exact hs.once

/-- A blank device was blank at the start, and is formatted for the first time. -/
theorem Steady.formatted (hs : Steady start device made t) (hsilent : t.host.responses = [])
    (hblank : t.host.fsTypes.lookup device = none) (luks : LuksContext) :
    start.fsTypes.lookup device = none ∧
      Steady start device made (t.carried (Luks.formatCommand device luks)) := by
  have hfirst : formats t.outputs = 0 ∧
      t.host.fsTypes.lookup device = start.fsTypes.lookup device := by
    rcases hs.once with hfirst | ⟨-, hsome⟩
    · exact hfirst
    · rw [hblank] at hsome
      cases hsome
  have hstart : start.fsTypes.lookup device = none := hfirst.2.symm.trans hblank
  have hcommand : formatted? (Luks.formatCommand device luks) = some device := rfl
  have hrun := Luks.run_format hsilent device luks
  refine ⟨hstart, hs.obeyed ?_ (.inr ⟨?_, ?_⟩)⟩
  · intro d hd
    exact Option.some.inj hd ▸ hstart
  · rw [Trial.carried, formats_append, hfirst.1, hcommand, hrun]
    rfl
  · simp [Trial.carried, hrun, Memory.setFsType]

/-- A directory is made outside of the one of the devices, and something is mounted on it. -/
theorem Steady.mounted (hs : Steady start device [] t) {m : Mount}
    (hout : ¬ Path.Within "/dev" m.target) (formatted : List (String × String)) :
    Steady start device [m]
      ⟨{ t.host.addDirectories m.target with formatted := formatted }.mount m, t.outputs⟩ where
  anchored := by
    have hanchored := hs.anchored.trans (anchored_addDirectories t.host hout)
    exact ⟨hanchored.links, hanchored.responses, hanchored.paths⟩
  commands := by simp [Memory.mount, Memory.addDirectories_eq, hs.commands]
  mounts := by simp [Memory.mount, hs.mounts]
  calls := by simp [Memory.mount, Memory.addDirectories_eq, hs.calls]
  blank := hs.blank
  once := by simpa [Memory.mount, Memory.addDirectories_eq] using hs.once

/-! ## One attempt -/

theorem Steady.silent (hs : Steady start device made t) (hsilent : start.responses = []) :
    t.host.responses = [] :=
  hs.anchored.responses.trans hsilent

theorem Steady.delivers_openMapping (hs : Steady start device made t)
    (hsilent : start.responses = []) (luks : LuksContext) :
    Delivers (AnswersAmid f) (Luks.openMapping device luks) t
      (fun source t' => source = mapperPath luks.mapping ∧ Steady start device made t')
      (fun _ t' => Steady start device made t' ∧ f.Strike) := by
  unfold Luks.openMapping
  rw [Prog.delivers_bind, Prog.delivers_lift, ensures_ask_amid (c := .pathExists _) trivial]
  split
  · exact ⟨rfl, hs⟩
  · have hopen := congrArg Prod.fst (Luks.run_open (hs.silent hsilent) device luks)
    refine (Prog.delivers_bind ..).mpr ((Luks.delivers_mustSucceed_amid _ hopen).mono ?_ ?_)
    · rintro _ t' rfl
      exact ⟨rfl, hs.carried rfl⟩
    · rintro _ t' ⟨hstrike, out, -, rfl⟩
      exact ⟨hs.failed nofun, hstrike⟩

/-- The device is formatted, and what comes after that may fail. -/
theorem Steady.delivers_format (hs : Steady start device made t) (hsilent : start.responses = [])
    {luks : LuksContext} (hvalid : luks.validate = .ok ())
    (hblank : t.host.fsTypes.lookup device = none) :
    Delivers (AnswersAmid f) (Luks.format device luks) t
      (fun _ t' => Steady start device made t')
      (fun _ t' => Steady start device made t' ∧ f.Strike) := by
  have hformat := congrArg Prod.fst (Luks.run_format (hs.silent hsilent) device luks)
  obtain ⟨hstart, hformatted⟩ := hs.formatted (hs.silent hsilent) hblank luks
  unfold Luks.format
  rw [Prog.delivers_bind, delivers_ofExcept, hvalid, Prog.either_ok]
  refine (Prog.delivers_bind ..).mpr ((Luks.delivers_mustSucceed_amid _ hformat).mono ?_ ?_)
  · rintro _ t₁ rfl
    refine (Prog.delivers_bind ..).mpr ((hformatted.delivers_openMapping hsilent luks).mono ?_ ?_)
    · rintro _ t₂ ⟨-, hs₂⟩
      have hclose := congrArg Prod.fst (Luks.run_close (hs₂.silent hsilent) luks.mapping)
      refine (Luks.delivers_mustSucceed_amid _ hclose).mono ?_ ?_
      · rintro _ t₃ rfl
        exact hs₂.carried rfl
      · rintro _ t₃ ⟨hstrike, out, -, rfl⟩
        exact ⟨hs₂.failed nofun, hstrike⟩
    · exact fun _ _ hbad => hbad
  · rintro _ t₁ ⟨hstrike, out, hout, rfl⟩
    refine ⟨hs.failed ?_, hstrike⟩
    intro d hd
    obtain rfl : device = d := Option.some.inj hd
    exact ⟨hout, hstart⟩

theorem Steady.delivers_mountSource (hs : Steady start device made t)
    (hsilent : start.responses = []) {luks : LuksContext} (henabled : luks.enabled = true)
    (hvalid : luks.validate = .ok ()) :
    Delivers (AnswersAmid f) (mountSource device luks) t
      (fun source t' => source = mapperPath luks.mapping ∧ Steady start device made t')
      (fun _ t' => Steady start device made t' ∧ f.Strike) := by
  unfold mountSource
  rw [if_pos henabled]
  refine (Prog.delivers_bind ..).mpr
    ((Luks.delivers_isFormatted_amid (hs.silent hsilent)).mono ?_ ?_)
  · rintro found t₁ ⟨rfl, hfound⟩
    have hs₁ : Steady start device made (t.carried (Luks.probeCommand device)) := hs.carried rfl
    have hsame : (t.carried (Luks.probeCommand device)).host.fsTypes = t.host.fsTypes :=
      Luks.fsTypes_run rfl t.host
    cases found with
    | true => exact hs₁.delivers_openMapping hsilent luks
    | false =>
        have hblank : (t.carried (Luks.probeCommand device)).host.fsTypes.lookup device = none := by
          rw [hsame]
          simpa using hfound.symm
        refine (Prog.delivers_bind ..).mpr ((hs₁.delivers_format hsilent hvalid hblank).mono ?_ ?_)
        · exact fun _ _ hs₂ => hs₂.delivers_openMapping hsilent luks
        · exact fun _ _ hbad => hbad
  · rintro _ t₁ ⟨hstrike, out, rfl⟩
    exact ⟨hs.failed nofun, hstrike⟩

end Steadiness

/-- A request to stage an encrypted file system says all that is needed. The device of the volume is
there, and nothing is in the way: neither a mount, nor a mapping of that name, nor answers to
commands that are not the host's own. -/
structure Encryptable (req : NodeStageVolumeRequest) (key : VolumeKey) (cap : VolumeCapability)
    (device : String) (h : Memory) : Prop where
  handle : VolumeKey.parse req.volumeId = .ok key
  capability : req.volumeCapability = some cap
  fileSystem : cap.isBlock = false
  encrypted : (luksOf req key).enabled = true
  complete : (luksOf req key).validate = .ok ()
  path : req.stagingTargetPath ≠ ""
  outside : ¬ Path.Within "/dev" req.stagingTargetPath
  found : ownDevice? h req key = some device
  free : ¬ Mounted req.stagingTargetPath h.mounts
  closed : h.pathExists (mapperPath key.label) = false
  silent : h.responses = []

section Attempts

variable {f : Failures} {req : NodeStageVolumeRequest} {key : VolumeKey} {cap : VolumeCapability}
  {device : String} {start : Memory} {made : List Mount} {t : Trial}

/-- An attempt mounts the mapping unless it is mounted, or it fails because a command did. -/
theorem Encryptable.delivers_stage (hreq : Encryptable req key cap device start)
    (hs : Steady start device made t) (hmade : made = [] ∨ made = [stagedMapping req key cap]) :
    Delivers (AnswersAmid f) (stage req) t
      (fun _ t' => Steady start device [stagedMapping req key cap] t')
      (fun _ t' => Steady start device [] t' ∧ f.Strike) := by
  have hcommandless : Asks Commandless (Device.firstExisting
      (Device.candidates key.label (req.volumeContext.get? Setting.partition))) :=
    Device.asks_firstExisting (fun _ => trivial) (fun _ => trivial) _
  have hfound : Ensures (AnswersAmid f)
      (Device.firstExisting
        (Device.candidates key.label (req.volumeContext.get? Setting.partition))) t
      fun found t' => found = some device ∧ t' = t := by
    refine (ensures_amid hcommandless (ensures_firstExisting _ t.host)).mono ?_
    rintro found t' ⟨⟨hhost, hdevice⟩, houtputs⟩
    rw [hs.anchored.foundDevice?_eq] at hdevice
    exact ⟨hdevice.trans hreq.found, Trial.ext hhost houtputs⟩
  unfold stage
  rw [Prog.delivers_bind, staging_eq hreq.handle hreq.path hreq.capability hreq.complete,
    delivers_ofExcept, Prog.either_ok, delivers_locked_amid]
  unfold stageLocked
  apply (delivers_resolveDevice_of_found hfound).followed
  rintro _ t₀ ⟨rfl, rfl⟩
  unfold isMountPoint
  rw [Prog.delivers_bind, delivers_ofWork, ensures_ask_amid (c := .isMountPoint _) trivial]
  simp only [Memory.answer, Prog.either_ok]
  rcases hmade with rfl | rfl
  · have hfree : t₀.host.isMountPoint req.stagingTargetPath = false := by
      rw [Memory.isMountPoint_eq_false_iff, hs.mounts, List.append_nil]
      exact hreq.free
    rw [hfree, if_neg (by decide), hreq.fileSystem, if_neg (by decide)]
    refine (Prog.delivers_bind ..).mpr
      ((hs.delivers_mountSource hreq.silent hreq.encrypted hreq.complete).mono ?_ ?_)
    · rintro source t₁ ⟨rfl, hs₁⟩
      unfold makeDirectories
      rw [Prog.delivers_bind, delivers_demand, ensures_ask_amid (c := .makeDirectories _) trivial]
      refine (Prog.delivers_bind ..).mpr
        ((ensures_ask_amid (c := .formatAndMount _) trivial ..).mpr ?_)
      exact hs₁.mounted (m := stagedMapping req key cap) hreq.outside _
    · exact fun _ _ hbad => hbad
  · have hmounted : t₀.host.isMountPoint req.stagingTargetPath = true := by
      rw [Memory.isMountPoint_iff, hs.mounts]
      exact mounted_append start.mounts (stagedMapping req key cap)
    rw [hmounted, if_pos rfl]
    exact hs

/-! ## Any number of attempts -/

/-- The answer to a request to stage a volume, while commands fail in some way, and what there is
after it: the disks that the service has met, the host, and what its commands left behind. -/
def attempt (req : NodeStageVolumeRequest) (s : List String × Trial) (f : Failures) :
    Except CsiError NodeStageVolumeResponse × (List String × Trial) :=
  (stage req).run.run (answerQuery (Trial.answer f)) s

/-- One attempt after the other, in each of which commands fail in a way of its own. -/
def attempts (req : NodeStageVolumeRequest) (s : List String × Trial) (fs : List Failures) :
    List String × Trial :=
  fs.foldl (fun s f => (attempt req s f).2) s

theorem Encryptable.attempt (hreq : Encryptable req key cap device start)
    {s : List String × Trial} (hs : Steady start device made s.2)
    (hmade : made = [] ∨ made = [stagedMapping req key cap]) (f : Failures) :
    Either (fun _ s' => Steady start device [stagedMapping req key cap] s'.2)
      (fun _ s' => Steady start device [] s'.2 ∧ f.Strike)
      (Node.attempt req s f).1 (Node.attempt req s f).2 :=
  (Ensures.run answersAmid_sound (hreq.delivers_stage hs hmade)).imp
    (fun _ hok => hok) (fun _ hbad => hbad)

theorem Encryptable.attempts (hreq : Encryptable req key cap device start) (fs : List Failures) :
    ∀ {s : List String × Trial} {made : List Mount}, Steady start device made s.2 →
      (made = [] ∨ made = [stagedMapping req key cap]) →
      ∃ made', (made' = [] ∨ made' = [stagedMapping req key cap]) ∧
        Steady start device made' (Node.attempts req s fs).2 := by
  induction fs with
  | nil => exact fun hs hmade => ⟨_, hmade, hs⟩
  | cons f fs ih =>
      intro s made hs hmade
      refine (hreq.attempt hs hmade f).elim ?_ ?_
      · exact fun _ hs' => ih hs' (.inr rfl)
      · exact fun _ hs' => ih hs'.1 (.inl rfl)

end Attempts

end Node

end VolumePlugin
