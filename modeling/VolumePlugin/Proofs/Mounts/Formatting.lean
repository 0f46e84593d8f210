import Mathlib.Control.Monad.Basic
import VolumePlugin.Host.Memory
import VolumePlugin.Luks
import VolumePlugin.Mounts.Kernel
import VolumePlugin.Proofs.Prog
import VolumePlugin.Proofs.Text.Pieces

/-! # When a device gets a file system

Before a device is mounted, `blkid` says what it holds. Its exit code tells whether it found
anything, and what it prints is the type of a file system. A device can hold something that has no
such type, a table of partitions for one. -/

namespace VolumePlugin.Mounts

open Host (Command CommandOutput Failure)

variable {σ : Type}

/-! ## What `blkid` says -/

/-- The command that looks for a file system on a device. -/
def probeCommand (device : String) : Command :=
  ⟨"blkid", ["-p", "-s", "TYPE", "-o", "value", device], none⟩

theorem program_probeCommand_ne (fsType device : String) :
    (probeCommand device).program ≠ "mkfs." ++ fsType := by
  intro h
  have hfirst := congrArg (fun program : String => program.toList.head?) h
  simp only [probeCommand, String.toList_append] at hfirst
  cases hfirst

theorem formatCommand_eq (fsType device : String) :
    formatCommand fsType device =
      { program := "mkfs." ++ fsType
        arguments :=
          if "ext".toList <+: fsType.toList then ["-F", "-m0", device] else [device] } := by
  simp only [formatCommand, Text.dropStart?_isSome_iff]
  rfl

/-- Whether `blkid` could tell what a device holds. -/
def Told (outcome : Except Failure CommandOutput) : Prop :=
  ∃ out, outcome = .ok out ∧ (out.code = some 0 ∨ out.code = some 2)

/-- Whether `blkid` names no file system: the device holds nothing, or what it holds has no type. -/
def Nameless (outcome : Except Failure CommandOutput) : Prop :=
  ∃ out, outcome = .ok out ∧
    (out.code = some 2 ∨ out.code = some 0 ∧ Text.trim out.stdout = "")

/-- Whether a command did what it was told. -/
def Obeyed (outcome : Except Failure CommandOutput) : Prop :=
  ∃ out, outcome = .ok out ∧ out.success

theorem Nameless.told {outcome : Except Failure CommandOutput} (h : Nameless outcome) :
    Told outcome := by
  obtain ⟨out, hout, hcode⟩ := h
  exact ⟨out, hout, hcode.symm.imp_left And.left⟩

/-- What the outcome of `blkid` is taken for. -/
def fsTypeOf (device : String) : Except Failure CommandOutput → Except CsiError (Option String)
  | .error e => .error (.internal e.text)
  | .ok out =>
    if out.code = some 2 then .ok none
    else if out.code = some 0 then .ok (some (Text.trim out.stdout) |>.filter (· ≠ ""))
    else .error (.internal s!"blkid {device} failed: {Text.trim out.stderr}")

/-- A command that could not be run ends the work. -/
theorem run_bind_run {α : Type} (command : Command) (f : CommandOutput → Job α) :
    (run command >>= f).run =
      .ask (A := Query.Answer) (.run command) fun outcome =>
        match outcome with
        | .error e => .done (.error (.internal e.text))
        | .ok out => (f out).run := by
  refine congrArg (Prog.ask (A := Query.Answer) _) (funext fun outcome => ?_)
  cases outcome <;> rfl

theorem probeFsType_run (device : String) :
    (probeFsType device).run =
      .ask (A := Query.Answer) (.run (probeCommand device)) fun outcome =>
        .done (fsTypeOf device outcome) := by
  refine (run_bind_run ..).trans (congrArg (Prog.ask (A := Query.Answer) _) ?_)
  funext outcome
  cases outcome with
  | error e => rfl
  | ok out =>
      dsimp only
      split
      · next hcode =>
          simp only [fsTypeOf, hcode]
          rfl
      · next hcode =>
          simp only [fsTypeOf, hcode]
          rfl
      · next hfound hblank =>
          rw [fsTypeOf, if_neg hblank, if_neg hfound]
          rfl

/-- What the outcome of the command that makes a file system is taken for. -/
def formatResult (m : Host.Mount) : Except Failure CommandOutput → Except CsiError Unit
  | .error e => .error (.internal e.text)
  | .ok out =>
    let command := formatCommand m.fsType m.source
    if !out.success then
      .error (.mountFailed m.target s!"{command.program} {m.source}: {Text.trim out.stderr}")
    else .ok ()

theorem format_run (m : Host.Mount) :
    (format m).run =
      .ask (A := Query.Answer) (.run (formatCommand m.fsType m.source)) fun outcome =>
        .done (formatResult m outcome) := by
  refine (run_bind_run ..).trans (congrArg (Prog.ask (A := Query.Answer) _) ?_)
  funext outcome
  cases outcome with
  | error e => rfl
  | ok out =>
      simp only [formatResult]
      cases out.success <;> rfl

/-- What is left to do when the command that makes a file system has ended. -/
def afterFormat (m : Host.Mount) (outcome : Except Failure CommandOutput) :
    Prog Query.Answer (Except CsiError Unit) :=
  match formatResult m outcome with
  | .error e => .done (.error e)
  | .ok _ => (mount m).run

/-- What is left to do when `blkid` has ended. -/
def afterProbe (m : Host.Mount) (outcome : Except Failure CommandOutput) :
    Prog Query.Answer (Except CsiError Unit) :=
  match fsTypeOf m.source outcome with
  | .error e => .done (.error e)
  | .ok (some _) => (mount m).run
  | .ok none => .ask (.run (formatCommand m.fsType m.source)) (afterFormat m)

theorem formatAndMount_run (m : Host.Mount) :
    (formatAndMount m).run = .ask (.run (probeCommand m.source)) (afterProbe m) := by
  unfold formatAndMount
  rw [ExceptT.run_bind, probeFsType_run]
  refine congrArg (Prog.ask (A := Query.Answer) _) (funext fun outcome => ?_)
  dsimp only [Prog.done_bind, afterProbe]
  cases fsTypeOf m.source outcome with
  | error e => rfl
  | ok found =>
      cases found with
      | some fsType => rfl
      | none =>
          change (format m >>= fun _ => mount m).run = _
          rw [ExceptT.run_bind, format_run]
          refine congrArg (Prog.ask (A := Query.Answer) _) (funext fun outcome => ?_)
          dsimp only [Prog.done_bind, afterFormat]
          cases formatResult m outcome <;> rfl

section Outcomes

variable {m : Host.Mount} {outcome : Except Failure CommandOutput}

/-- If `blkid` cannot tell, nothing more is done. -/
theorem afterProbe_of_not_told (h : ¬ Told outcome) :
    ∃ e, afterProbe m outcome = .done (.error e) := by
  cases outcome with
  | error e => exact ⟨_, rfl⟩
  | ok out =>
      have hcode : ¬ (out.code = some 0 ∨ out.code = some 2) := fun hcode => h ⟨out, rfl, hcode⟩
      obtain ⟨h₀, h₂⟩ := not_or.mp hcode
      simp [afterProbe, fsTypeOf, h₀, h₂]

/-- A device that holds a file system is mounted as it is. -/
theorem afterProbe_of_named (h : Told outcome) (hnamed : ¬ Nameless outcome) :
    afterProbe m outcome = (mount m).run := by
  obtain ⟨out, rfl, hcode⟩ := h
  have h₂ : out.code ≠ some 2 := fun h₂ => hnamed ⟨out, rfl, .inl h₂⟩
  have h₀ := hcode.resolve_right h₂
  have hname : Text.trim out.stdout ≠ "" := fun hname => hnamed ⟨out, rfl, .inr ⟨h₀, hname⟩⟩
  simp [afterProbe, fsTypeOf, h₀, Option.filter_some, hname]

/-- Where `blkid` names no file system, one is made. -/
theorem afterProbe_of_nameless (h : Nameless outcome) :
    afterProbe m outcome =
      .ask (A := Query.Answer) (.run (formatCommand m.fsType m.source)) (afterFormat m) := by
  obtain ⟨out, rfl, h₂ | ⟨h₀, hname⟩⟩ := h
  · simp [afterProbe, fsTypeOf, h₂]
  · simp [afterProbe, fsTypeOf, h₀, Option.filter_some, hname]

theorem afterFormat_of_obeyed (h : Obeyed outcome) : afterFormat m outcome = (mount m).run := by
  obtain ⟨out, rfl, hout⟩ := h
  simp [afterFormat, formatResult, hout]

theorem afterFormat_of_not_obeyed (h : ¬ Obeyed outcome) :
    ∃ e, afterFormat m outcome = .done (.error e) := by
  cases outcome with
  | error e => exact ⟨_, rfl⟩
  | ok out =>
      have hout : out.success = false := by
        simpa using fun hout => h ⟨out, rfl, hout⟩
      simp [afterFormat, formatResult, hout]

end Outcomes

/-- What the outcome of `blkid` is taken for where a device is to be encrypted. -/
def formattedOf (device : String) : Except Failure CommandOutput → Except CsiError Bool
  | .error e => .error (.encryption e.text)
  | .ok out =>
    if out.code = some 2 then .ok false
    else if out.code = some 0 then .ok true
    else .error (Luks.failure s!"blkid {device}" out)

theorem isFormatted_run (device : String) :
    (Luks.isFormatted device).run =
      .ask (A := Host.Query.Answer) (.call (.run ⟨"blkid", ["-p", device], none⟩)) fun outcome =>
        .done (formattedOf device outcome) := by
  refine congrArg (Prog.ask (A := Host.Query.Answer) _) (funext fun outcome => ?_)
  cases outcome with
  | error e => rfl
  | ok out =>
      simp only [Prog.bind, Except.mapError, ExceptT.bindCont]
      split
      · next hcode =>
          simp only [formattedOf, hcode]
          rfl
      · next hcode =>
          simp only [formattedOf, hcode]
          rfl
      · next hfound hblank =>
          rw [formattedOf, if_neg hblank, if_neg hfound]
          rfl

/-- There the exit code alone decides. -/
theorem formattedOf_eq_false_iff {device : String} {out : CommandOutput} :
    formattedOf device (.ok out) = .ok false ↔ out.code = some 2 := by
  simp only [formattedOf]
  by_cases h₂ : out.code = some 2
  · simp [h₂]
  · by_cases h₀ : out.code = some 0 <;> simp [h₀, h₂]

/-! ## What is asked for -/

section Runs

variable (answer : (q : Query) → σ → q.Answer × σ) (m : Host.Mount) (s : σ)

/-- What `blkid` answers, and the surroundings after it. -/
def probed : Except Failure CommandOutput × σ :=
  answer (.run (probeCommand m.source)) s

/-- What the command that makes a file system answers after `blkid`, and the surroundings then. -/
def formatted : Except Failure CommandOutput × σ :=
  answer (.run (formatCommand m.fsType m.source)) (probed answer m s).2

/-- Mounting asks for mounts only. -/
theorem asks_mount : Prog.Asks (fun q => ∃ wanted, q = .mount wanted) (mount m).run := by
  have hrequest : ∀ wanted failure,
      Prog.Asks (fun q => ∃ wanted, q = .mount wanted) (request wanted failure).run :=
    fun wanted failure => ⟨⟨wanted, rfl⟩, fun _ => trivial⟩
  refine Prog.Asks.bind_run (hrequest _ _) fun _ => ?_
  by_cases hremount : (flags m.options).bind && (flags m.options).readOnly
  · simpa only [hremount, if_true] using hrequest _ _
  · simp only [hremount]
    trivial

/-- Mounting asks for one mount at least. -/
theorem exists_mem_asked_mount : ∃ wanted, Query.mount wanted ∈ (mount m).run.asked answer s :=
  ⟨_, .head _⟩

theorem run_notMem_asked_mount (command : Command) :
    Query.run command ∉ (mount m).run.asked answer s := by
  intro h
  obtain ⟨wanted, hwanted⟩ := (asks_mount m).of_mem_asked h
  cases hwanted

/-- How a run goes on after `blkid`. -/
theorem formatAndMount_eq :
    (formatAndMount m).run.asked answer s =
        .run (probeCommand m.source) ::
          (afterProbe m (probed answer m s).1).asked answer (probed answer m s).2 ∧
      (formatAndMount m).run.run answer s =
        (afterProbe m (probed answer m s).1).run answer (probed answer m s).2 := by
  rw [formatAndMount_run]
  exact ⟨rfl, rfl⟩

/-- How a run goes on after `blkid` if it names no file system. -/
theorem afterProbe_eq (h : Nameless (probed answer m s).1) :
    (afterProbe m (probed answer m s).1).asked answer (probed answer m s).2 =
        .run (formatCommand m.fsType m.source) ::
          (afterFormat m (formatted answer m s).1).asked answer (formatted answer m s).2 ∧
      (afterProbe m (probed answer m s).1).run answer (probed answer m s).2 =
        (afterFormat m (formatted answer m s).1).run answer (formatted answer m s).2 := by
  rw [afterProbe_of_nameless h]
  exact ⟨rfl, rfl⟩

/-- The only commands are `blkid` and, for a device of which it names no file system, the one that
makes one. -/
theorem mem_asked_run_iff (command : Command) :
    .run command ∈ (formatAndMount m).run.asked answer s ↔
      command = probeCommand m.source ∨
        Nameless (probed answer m s).1 ∧ command = formatCommand m.fsType m.source := by
  have hmount := fun t => run_notMem_asked_mount answer m t command
  rw [(formatAndMount_eq answer m s).1, List.mem_cons, Query.run.injEq]
  refine or_congr_right ?_
  by_cases hnameless : Nameless (probed answer m s).1
  · rw [(afterProbe_eq answer m s hnameless).1, List.mem_cons, Query.run.injEq,
      and_iff_right hnameless, or_iff_left]
    by_cases hobeyed : Obeyed (formatted answer m s).1
    · rw [afterFormat_of_obeyed hobeyed]
      exact hmount _
    · obtain ⟨e, he⟩ := afterFormat_of_not_obeyed (m := m) hobeyed
      rw [he]
      exact List.not_mem_nil
  · rw [iff_false_right fun h => hnameless h.1]
    by_cases htold : Told (probed answer m s).1
    · rw [afterProbe_of_named htold hnameless]
      exact hmount _
    · obtain ⟨e, he⟩ := afterProbe_of_not_told (m := m) htold
      rw [he]
      exact List.not_mem_nil

/-- Whether the device can be mounted: `blkid` told what it holds, and the file system that is
missing was made. -/
def Ready : Prop :=
  Told (probed answer m s).1 ∧ (Nameless (probed answer m s).1 → Obeyed (formatted answer m s).1)

/-- A device that is ready is what is mounted. -/
theorem exists_mount_of_ready (h : Ready answer m s) :
    ∃ wanted, .mount wanted ∈ (formatAndMount m).run.asked answer s := by
  obtain ⟨htold, hobeyed⟩ := h
  rw [(formatAndMount_eq answer m s).1]
  by_cases hnameless : Nameless (probed answer m s).1
  · obtain ⟨wanted, hwanted⟩ := exists_mem_asked_mount answer m (formatted answer m s).2
    rw [(afterProbe_eq answer m s hnameless).1, afterFormat_of_obeyed (hobeyed hnameless)]
    exact ⟨wanted, .tail _ (.tail _ hwanted)⟩
  · obtain ⟨wanted, hwanted⟩ := exists_mem_asked_mount answer m (probed answer m s).2
    rw [afterProbe_of_named htold hnameless]
    exact ⟨wanted, .tail _ hwanted⟩

/-- If the device is not ready, nothing is mounted, and the failure is reported. -/
theorem no_mount_of_not_ready (h : ¬ Ready answer m s) :
    (∀ wanted, .mount wanted ∉ (formatAndMount m).run.asked answer s) ∧
      ∃ e, ((formatAndMount m).run.run answer s).1 = .error e := by
  rw [(formatAndMount_eq answer m s).1, (formatAndMount_eq answer m s).2]
  by_cases htold : Told (probed answer m s).1
  · obtain ⟨hnameless, hobeyed⟩ := Classical.not_imp.mp fun hformat => h ⟨htold, hformat⟩
    obtain ⟨e, he⟩ := afterFormat_of_not_obeyed (m := m) hobeyed
    rw [(afterProbe_eq answer m s hnameless).1, (afterProbe_eq answer m s hnameless).2, he]
    exact ⟨by simp [Prog.asked], e, rfl⟩
  · obtain ⟨e, he⟩ := afterProbe_of_not_told (m := m) htold
    rw [he]
    exact ⟨by simp [Prog.asked], e, rfl⟩

/-- A file system is made exactly where `blkid` names none, and by one command. In terms of the exit
code of `blkid` alone, as it is read where a device is to be encrypted: one is made on a device that
it calls blank, and besides on one that it calls full but of which it prints no type. Where `blkid`
cannot tell what the device holds, or the file system cannot be made, nothing is mounted. -/
theorem formats_iff_nameless {τ : Type} (host : (q : Host.Query) → τ → q.Answer × τ) (t : τ) :
    let asked := (formatAndMount m).run.asked answer s
    let formats := ∃ command, command.program = "mkfs." ++ m.fsType ∧ .run command ∈ asked
    let mounts := ∃ wanted, .mount wanted ∈ asked
    (∀ command, .run command ∈ asked →
      command = ⟨"blkid", ["-p", "-s", "TYPE", "-o", "value", m.source], none⟩ ∨
      command = ⟨"mkfs." ++ m.fsType,
        if "ext".toList <+: m.fsType.toList then ["-F", "-m0", m.source] else [m.source],
        none⟩) ∧
      (formats ↔ Nameless (probed answer m s).1) ∧
      (∀ out own, (probed answer m s).1 = .ok out →
        (host (.call (.run ⟨"blkid", ["-p", m.source], none⟩)) t).1 = .ok own →
        own.code = out.code →
        (formats ↔ ((Luks.isFormatted m.source).run.run host t).1 = .ok false ∨
          out.code = some 0 ∧ Text.trim out.stdout = "")) ∧
      (mounts ↔ Told (probed answer m s).1 ∧
        (Nameless (probed answer m s).1 → Obeyed (formatted answer m s).1)) ∧
      (¬ mounts → ∃ e, ((formatAndMount m).run.run answer s).1 = .error e) := by
  intro asked formats mounts
  have hcommands := mem_asked_run_iff answer m s
  have hformats : formats ↔ Nameless (probed answer m s).1 := by
    constructor
    · rintro ⟨command, hprogram, hasked⟩
      rcases (hcommands command).mp hasked with rfl | ⟨hnameless, -⟩
      · exact absurd hprogram (program_probeCommand_ne _ _)
      · exact hnameless
    · intro hnameless
      refine ⟨_, ?_, (hcommands _).mpr (.inr ⟨hnameless, rfl⟩)⟩
      rw [formatCommand_eq]
  have hmounts : mounts ↔ Ready answer m s := by
    refine ⟨fun ⟨wanted, hwanted⟩ => Classical.byContradiction fun hready => ?_,
      exists_mount_of_ready answer m s⟩
    exact (no_mount_of_not_ready answer m s hready).1 wanted hwanted
  refine ⟨fun command hasked => ?_, hformats, fun out own hout hown hcode => ?_, hmounts,
    fun hno => ?_⟩
  · rw [← formatCommand_eq]
    exact ((hcommands command).mp hasked).imp_right And.right
  · rw [hformats, isFormatted_run, Prog.run, hown]
    simp only [Prog.run_done, formattedOf_eq_false_iff, hcode, hout, Nameless, Except.ok.injEq,
      exists_eq_left']
  · exact (no_mount_of_not_ready answer m s (mt hmounts.mpr hno)).2

end Runs

/-- A kernel on a host that is kept in memory. -/
def onHost : (q : Query) → Host.Memory → q.Answer × Host.Memory :=
  Kernel.answer fun command h => Host.Memory.answer (.run command) h

/-- A mount that is asked for there. -/
def dataMount : Host.Mount :=
  ⟨"/dev/sdc", "/mnt/data", "ext4", []⟩

/-- The device is blank on both readings of what `blkid` says. -/
theorem formats_iff_nameless_blank :
    let reading := (Luks.isFormatted dataMount.source).run.run
      (Host.answerQuery Host.Memory.answer) ([], {})
    reading.1 = .ok false ∧
      .run ⟨"mkfs.ext4", ["-F", "-m0", "/dev/sdc"], none⟩ ∈
        (formatAndMount dataMount).run.asked onHost {} := by
  have hreading : ((Luks.isFormatted dataMount.source).run.run
      (Host.answerQuery Host.Memory.answer) ([], {})).1 = .ok false := by decide +kernel
  obtain ⟨hcommands, -, hblank, -⟩ := formats_iff_nameless onHost dataMount {}
    (Host.answerQuery Host.Memory.answer) ([], {})
  obtain ⟨command, hprogram, hasked⟩ := (hblank { code := some 2 } { code := some 2 }
    (by decide +kernel) (by decide +kernel) rfl).mpr (.inl hreading)
  refine ⟨hreading, ?_⟩
  rcases hcommands command hasked with rfl | rfl
  · exact absurd hprogram (by decide)
  · exact hasked

/-- A host on which `blkid` finds something, a table of partitions for one, that has no type. -/
def partitioned : Host.Memory :=
  { responses := [("blkid", { code := some 0 })] }

/-- There the same answer of `blkid` says on the one reading that the device holds something, and on
the other one that a file system is to be put on it. -/
theorem partitioned_device_formatted :
    ((Luks.isFormatted dataMount.source).run.run (Host.answerQuery Host.Memory.answer)
        ([], partitioned)).1 = .ok true ∧
      .run ⟨"mkfs.ext4", ["-F", "-m0", "/dev/sdc"], none⟩ ∈
        (formatAndMount dataMount).run.asked onHost partitioned := by
  decide +kernel

end VolumePlugin.Mounts
