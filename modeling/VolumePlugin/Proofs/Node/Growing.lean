import VolumePlugin.Proofs.Luks
import VolumePlugin.Proofs.Moments
import VolumePlugin.Proofs.Mounts.Formatting
import VolumePlugin.Proofs.Node.Mounts

/-! # The order in which a file system is grown

A file system is grown last of all, when it is known to be mounted, of what type it is, and that its
mapping has been resized if its device is encrypted. What the host answers is not known here. -/

namespace VolumePlugin

open Host (Command CommandOutput Failure Job Mount Query)
open Mounts (Obeyed probeCommand)
open Prog (Asks Delivers Either Ensures TakenDown)

/-! ## Work on record -/

namespace Host

/-- A question with its answer. -/
abbrev Exchange :=
  Σ q : Query, q.Answer

/-- A command that was run, and what came of it. -/
def ran (c : Command) (outcome : Except Failure CommandOutput) : Exchange :=
  ⟨.call (.run c), outcome⟩

section Rules

variable {α : Type} {record : List Exchange}

theorem delivers_run_takenDown (c : Command) (failure : Failure → CsiError)
    (ok : CommandOutput → List Exchange → Prop) (bad : CsiError → List Exchange → Prop) :
    Delivers TakenDown (Job.demand (ask (.run c)) failure) record ok bad ↔
      (∀ out, ok out (record ++ [ran c (.ok out)])) ∧
        ∀ e, bad (failure e) (record ++ [ran c (.error e)]) := by
  refine (delivers_demand ..).trans ((Prog.ensures_takenDown ..).trans ?_)
  constructor
  · exact fun h => ⟨fun out => h (.ok out), fun e => h (.error e)⟩
  · rintro ⟨hok, hbad⟩ (e | out)
    · exact hbad e
    · exact hok out

/-- Of the lock, the record tells that it was taken and given back. -/
theorem delivers_locked_takenDown {task : Job α} {ok : α → List Exchange → Prop}
    {bad : CsiError → List Exchange → Prop}
    (h : Delivers TakenDown task (record ++ [⟨.lock, ()⟩])
      (fun a r => ok a (r ++ [⟨.unlock, ()⟩])) (fun e r => bad e (r ++ [⟨.unlock, ()⟩]))) :
    Delivers TakenDown (Job.locked task) record ok bad := by
  refine (Prog.ensures_takenDown ..).mpr fun _ => (Prog.ensures_bind task.run ..).mpr ?_
  refine Ensures.mono h fun result r hr => ?_
  refine (Prog.ensures_takenDown Query.unlock (fun _ => .done result) _).mpr fun _ => ?_
  cases result <;> exact hr

end Rules

end Host

open Host

/-! ## Commands that grow file systems -/

namespace Node

/-- Whether a command was run that makes a file system larger. -/
def grows : Exchange → Bool
  | ⟨.call (.run c), _⟩ => c.program = "resize2fs" || c.program = "xfs_growfs"
  | _ => false

/-- Whether no file system was made larger, or was tried to. -/
def Spared (record : List Exchange) : Prop :=
  ∀ e ∈ record, grows e = false

theorem Spared.append {record more : List Exchange} (h : Spared record) (hmore : Spared more) :
    Spared (record ++ more) :=
  List.forall_mem_append.mpr ⟨h, hmore⟩

theorem spared_singleton {e : Exchange} (h : grows e = false) : Spared [e] :=
  List.forall_mem_singleton.mpr h

/-- The command that belongs to a type of file system. -/
inductive Matching (fsType device path : String) : Command → Prop where
  | ext (h : fsType ∈ ["ext2", "ext3", "ext4"]) :
      Matching fsType device path ⟨"resize2fs", [device], none⟩
  | xfs (h : fsType = "xfs") : Matching fsType device path ⟨"xfs_growfs", [path], none⟩

theorem growCommand?_eq_some {fsType device path : String} {command : Command}
    (h : growCommand? fsType device path = some command) :
    Matching fsType device path command ∧ ∀ outcome, grows (ran command outcome) = true := by
  unfold growCommand? at h
  split at h
  · obtain rfl := Option.some.inj h
    exact ⟨.ext (by simp), fun _ => rfl⟩
  · obtain rfl := Option.some.inj h
    exact ⟨.ext (by simp), fun _ => rfl⟩
  · obtain rfl := Option.some.inj h
    exact ⟨.ext (by simp), fun _ => rfl⟩
  · obtain rfl := Option.some.inj h
    exact ⟨.xfs rfl, fun _ => rfl⟩
  · cases h

/-! ## Mappings that have been resized -/

/-- The command that describes a mapping. -/
def statusCommand (name : String) : Command :=
  ⟨"cryptsetup", ["status", name], none⟩

/-- The command that makes a mapping as large as its device. -/
def resizeCommand (name : String) (key : Option String) : Command :=
  ⟨"cryptsetup", if key.isSome then ["resize", "--key-file", "-", name] else ["resize", name], key⟩

/-- Whether a description is that of an open mapping of an encrypted device. -/
def TellsLuks (out : CommandOutput) : Prop :=
  (out.success && (Text.lines out.stdout.toList).any Luks.saysLuks) = true

/-- Whether a device has been asked about if it may be a mapping, and has been resized by the name
that is read off its path if it is one of an encrypted device. -/
def Fitted (device : String) (key : Option String) (record : List Exchange) : Prop :=
  ∀ name, Luks.isMapperPath device = true → Path.fileName? device = some name →
    ∃ out, ran (statusCommand name) (.ok out) ∈ record ∧
      (TellsLuks out → ∃ resized : CommandOutput, resized.success = true ∧
        ran (resizeCommand (Luks.mappingName device) key) (.ok resized) ∈ record)

section Work

variable {record : List Exchange} {device path : String}

theorem delivers_resize (name : String) (key : Option String) (hspared : Spared record) :
    Delivers TakenDown (Luks.resize name key) record
      (fun _ r => Spared r ∧ record ⊆ r ∧ ∃ resized : CommandOutput, resized.success = true ∧
        ran (resizeCommand name key) (.ok resized) ∈ r)
      (fun _ r => Spared r) := by
  have hran : ∀ outcome, Spared (record ++ [ran (resizeCommand name key) outcome]) :=
    fun outcome => hspared.append (spared_singleton rfl)
  unfold Luks.resize Luks.mustSucceed Luks.cryptsetup
  rw [Prog.delivers_bind, delivers_run_takenDown]
  refine ⟨fun out => ?_, fun e => hran (.error e)⟩
  cases hsuccess : out.success with
  | false => exact hran (.ok out)
  | true =>
      exact ⟨hran (.ok out), List.subset_append_left .., out, hsuccess, List.mem_concat_self⟩

theorem delivers_isLuksMapping (device : String) (hspared : Spared record) :
    Delivers TakenDown (Luks.isLuksMapping device) record
      (fun isLuks r => Spared r ∧ record ⊆ r ∧ ∀ name, Path.fileName? device = some name →
        ∃ out, ran (statusCommand name) (.ok out) ∈ r ∧ (TellsLuks out → isLuks = true))
      (fun _ r => Spared r) := by
  unfold Luks.isLuksMapping
  cases Path.fileName? device with
  | none => exact ⟨hspared, List.Subset.refl _, nofun⟩
  | some name =>
      have hran : ∀ outcome, Spared (record ++ [ran (statusCommand name) outcome]) :=
        fun outcome => hspared.append (spared_singleton rfl)
      unfold Luks.cryptsetup
      rw [Prog.delivers_bind, delivers_run_takenDown]
      refine ⟨fun out => ⟨hran (.ok out), List.subset_append_left .., ?_⟩, fun e => hran (.error e)⟩
      rintro _ ⟨⟩
      exact ⟨out, List.mem_concat_self, id⟩

theorem delivers_growMapping (device : String) (secrets : Attributes) (hspared : Spared record) :
    Delivers TakenDown (growMapping device secrets) record
      (fun _ r => Spared r ∧ record ⊆ r ∧ Fitted device (secrets.get? Setting.luksKey) r)
      (fun _ r => Spared r) := by
  unfold growMapping
  split
  · refine (Prog.delivers_bind ..).mpr
      ((delivers_isLuksMapping device hspared).mono ?_ fun _ _ hspared => hspared)
    rintro isLuks r ⟨hspared, hsub, hstatus⟩
    cases isLuks with
    | false =>
        refine ⟨hspared, hsub, fun name _ hname => ?_⟩
        obtain ⟨out, hout, hluks⟩ := hstatus name hname
        exact ⟨out, hout, fun htells => nomatch hluks htells⟩
    | true =>
        apply (delivers_resize _ _ hspared).mono
        · rintro _ r' ⟨hspared, hsub', hresized⟩
          refine ⟨hspared, List.Subset.trans hsub hsub', fun name _ hname => ?_⟩
          obtain ⟨out, hout, -⟩ := hstatus name hname
          exact ⟨out, hsub' hout, fun _ => hresized⟩
        · exact fun _ _ hspared => hspared
  · next hmapper =>
      exact ⟨hspared, List.Subset.refl _, fun _ h => absurd h hmapper⟩

/-! ## The command that grows a file system -/

theorem delivers_fsTypeOf (device : String) (hspared : Spared record) :
    Delivers TakenDown (fsTypeOf device) record
      (fun fsType r => Spared r ∧ record ⊆ r ∧ ∃ out : CommandOutput, out.success = true ∧
        fsType = Text.trim out.stdout ∧ ran (probeCommand device) (.ok out) ∈ r)
      (fun _ r => Spared r) := by
  have hran : ∀ outcome, Spared (record ++ [ran (probeCommand device) outcome]) :=
    fun outcome => hspared.append (spared_singleton rfl)
  unfold fsTypeOf
  rw [Prog.delivers_bind, delivers_run_takenDown]
  refine ⟨fun out => ?_, fun e => hran (.error e)⟩
  cases hsuccess : out.success with
  | false => exact hran (.ok out)
  | true =>
      exact ⟨hran (.ok out), List.subset_append_left .., out, hsuccess, rfl, List.mem_concat_self⟩

/-- What has to be known of the device at a path before its file system is looked at. -/
structure Known (req : NodeExpandVolumeRequest) (device : String) (record : List Exchange) :
    Prop where
  fileSystem : req.volumeCapability.any VolumeCapability.isBlock = false
  mounted : ⟨.call (.isMountPoint req.volumePath), .ok true⟩ ∈ record
  source : ∃ others, ⟨.call (.mountSources req.volumePath), .ok (device :: others)⟩ ∈ record
  fitted : Fitted device (req.secrets.get? Setting.luksKey) record

/-- What has to be known before a command is run that grows the file system at a path. -/
structure Cleared (req : NodeExpandVolumeRequest) (device : String) (before : List Exchange)
    (command : Command) : Prop extends Known req device before where
  probed : ∃ out : CommandOutput, out.success = true ∧
    ran ⟨"blkid", ["-p", "-s", "TYPE", "-o", "value", device], none⟩ (.ok out) ∈ before ∧
    Matching (Text.trim out.stdout) device req.volumePath command

theorem Fitted.mono {key : Option String} {record' : List Exchange} (h : Fitted device key record)
    (hsub : record ⊆ record') : Fitted device key record' := by
  intro name hmapper hname
  obtain ⟨out, hout, hresized⟩ := h name hmapper hname
  refine ⟨out, hsub hout, fun htells => ?_⟩
  obtain ⟨resized, hsuccess, hran⟩ := hresized htells
  exact ⟨resized, hsuccess, hsub hran⟩

theorem Known.mono {req : NodeExpandVolumeRequest} {record' : List Exchange}
    (h : Known req device record) (hsub : record ⊆ record') : Known req device record' where
  fileSystem := h.fileSystem
  mounted := hsub h.mounted
  source := h.source.imp fun _ hsource => hsub hsource
  fitted := h.fitted.mono hsub

/-- Whether one command to grow the file system was run, after all was known that has to be, and
what came of it. -/
def Grown (req : NodeExpandVolumeRequest) (record : List Exchange)
    (outcome : Except Failure CommandOutput) : Prop :=
  ∃ device before command after, record = before ++ ran command outcome :: after ∧
    Spared before ∧ Spared after ∧ grows (ran command outcome) = true ∧
    Cleared req device before command

theorem Grown.append {req : NodeExpandVolumeRequest} {outcome : Except Failure CommandOutput}
    (h : Grown req record outcome) {more : List Exchange} (hmore : Spared more) :
    Grown req (record ++ more) outcome := by
  obtain ⟨device, before, command, after, rfl, hbefore, hafter, hgrows, hcleared⟩ := h
  exact ⟨device, before, command, after ++ more, by simp, hbefore, hafter.append hmore, hgrows,
    hcleared⟩

/-- Whether the work has come to its end: the device is to be handed over as it is, or the file
system has been grown. -/
def Settled (req : NodeExpandVolumeRequest) (record : List Exchange) : Prop :=
  (req.volumeCapability.any VolumeCapability.isBlock = true ∧ Spared record) ∨
    ∃ out : CommandOutput, out.success = true ∧ Grown req record (.ok out)

/-- Whether the work has been given up, before a file system was to be grown or because that went
wrong. -/
def GivenUp (req : NodeExpandVolumeRequest) (record : List Exchange) : Prop :=
  Spared record ∨ ∃ outcome, ¬ Obeyed outcome ∧ Grown req record outcome

theorem delivers_growFileSystem {req : NodeExpandVolumeRequest} (hspared : Spared record)
    (hknown : Known req device record) :
    Delivers TakenDown (growFileSystem device req.volumePath) record (fun _ r => Settled req r)
      (fun _ r => GivenUp req r) := by
  unfold growFileSystem
  refine (Prog.delivers_bind ..).mpr
    ((delivers_fsTypeOf device hspared).mono ?_ fun _ _ hspared => .inl hspared)
  rintro fsType r ⟨hspared, hsub, probe, hprobe, rfl, hprobed⟩
  split
  · exact .inl hspared
  · next command hcommand =>
      obtain ⟨hmatching, hgrows⟩ := growCommand?_eq_some hcommand
      have hcleared : Cleared req device r command :=
        ⟨hknown.mono hsub, probe, hprobe, hprobed, hmatching⟩
      have hgrown : ∀ outcome, Grown req (r ++ [ran command outcome]) outcome := fun outcome =>
        ⟨device, r, command, [], rfl, hspared, List.forall_mem_nil _, hgrows outcome, hcleared⟩
      rw [Prog.delivers_bind, delivers_run_takenDown]
      refine ⟨fun out => ?_, fun e => .inr ⟨.error e, nofun, hgrown _⟩⟩
      cases hsuccess : out.success with
      | true => exact .inr ⟨out, hsuccess, hgrown _⟩
      | false =>
          refine .inr ⟨.ok out, ?_, hgrown _⟩
          rintro ⟨out', ⟨⟩, hobeyed⟩
          rw [hsuccess] at hobeyed
          cases hobeyed

theorem delivers_isMountPoint_takenDown (path : String) (ok : Bool → List Exchange → Prop)
    (bad : CsiError → List Exchange → Prop) :
    Delivers TakenDown (isMountPoint path) record ok bad ↔ ∀ mounted : Except CsiError Bool,
      Either ok bad mounted (record ++ [⟨.call (.isMountPoint path), mounted⟩]) :=
  Prog.ensures_takenDown ..

theorem delivers_mountSources_takenDown (path : String) (ok : List String → List Exchange → Prop)
    (bad : CsiError → List Exchange → Prop) :
    Delivers TakenDown (Job.ofWork (ask (.mountSources path))) record ok bad ↔
      ∀ sources : Except CsiError (List String),
        Either ok bad sources (record ++ [⟨.call (.mountSources path), sources⟩]) :=
  Prog.ensures_takenDown ..

theorem delivers_expandLocked (req : NodeExpandVolumeRequest) (hspared : Spared record) :
    Delivers TakenDown (expandLocked req) record (fun _ r => Settled req r)
      (fun _ r => GivenUp req r) := by
  unfold expandLocked
  rw [Prog.delivers_bind, delivers_isMountPoint_takenDown]
  intro mounted
  have hasked : Spared (record ++ [⟨.call (.isMountPoint req.volumePath), mounted⟩]) :=
    hspared.append (spared_singleton rfl)
  match mounted with
  | .error e => exact .inl hasked
  | .ok false => exact .inl hasked
  | .ok true =>
      rw [Prog.either_ok, Bool.not_true, if_neg Bool.false_ne_true]
      cases hblock : req.volumeCapability.any VolumeCapability.isBlock with
      | true => exact .inl ⟨hblock, hasked⟩
      | false =>
          rw [if_neg Bool.false_ne_true, Prog.delivers_bind, delivers_mountSources_takenDown]
          intro sources
          have hlooked : Spared (record ++ [⟨.call (.isMountPoint req.volumePath), .ok true⟩] ++
              [⟨.call (.mountSources req.volumePath), sources⟩]) :=
            hasked.append (spared_singleton rfl)
          match sources with
          | .error e => exact .inl hlooked
          | .ok [] => exact .inl hlooked
          | .ok (device :: others) =>
              refine (Prog.delivers_bind ..).mpr
                ((delivers_growMapping device req.secrets hlooked).mono ?_ fun _ _ h => .inl h)
              rintro _ r ⟨hspared, hsub, hfitted⟩
              have hknown : Known req device r :=
                ⟨hblock, hsub (by simp), ⟨others, hsub (by simp)⟩, hfitted⟩
              exact (Prog.delivers_bind ..).mpr (delivers_growFileSystem hspared hknown)

theorem Settled.append {req : NodeExpandVolumeRequest} (h : Settled req record)
    {more : List Exchange} (hmore : Spared more) : Settled req (record ++ more) := by
  rcases h with ⟨hblock, hspared⟩ | ⟨out, hsuccess, hgrown⟩
  · exact .inl ⟨hblock, hspared.append hmore⟩
  · exact .inr ⟨out, hsuccess, hgrown.append hmore⟩

theorem GivenUp.append {req : NodeExpandVolumeRequest} (h : GivenUp req record)
    {more : List Exchange} (hmore : Spared more) : GivenUp req (record ++ more) := by
  rcases h with hspared | ⟨outcome, hfailed, hgrown⟩
  · exact .inl (hspared.append hmore)
  · exact .inr ⟨outcome, hfailed, hgrown.append hmore⟩

/-- Work on a request comes to its end or is given up, and nothing else. -/
theorem delivers_expand (req : NodeExpandVolumeRequest) :
    Delivers TakenDown (expand req) [] (fun _ r => Settled req r) (fun _ r => GivenUp req r) := by
  unfold expand
  cases expanding req with
  | error e => exact .inl (List.forall_mem_nil _)
  | ok _ =>
      apply delivers_locked_takenDown
      exact (delivers_expandLocked req (spared_singleton rfl)).mono
        (fun _ _ hsettled => hsettled.append (spared_singleton rfl))
        (fun _ _ hgivenUp => hgivenUp.append (spared_singleton rfl))

/-! ## What a record tells -/

theorem ran_inj {c c' : Command} {outcome outcome' : Except Failure CommandOutput}
    (h : ran c outcome = ran c' outcome') : c = c' ∧ outcome = outcome' := by
  cases h
  exact ⟨rfl, rfl⟩

theorem Spared.notMem (h : Spared record) {e : Exchange} (hgrows : grows e = true) :
    e ∉ record := by
  intro he
  rw [h e he] at hgrows
  cases hgrows

theorem Spared.countP_eq_zero (h : Spared record) : record.countP grows = 0 := by
  rw [List.countP_eq_zero]
  intro e he
  rw [h e he]
  decide

section Records

variable {req : NodeExpandVolumeRequest} {outcome : Except Failure CommandOutput}

theorem Grown.countP_eq_one (h : Grown req record outcome) :
    record.countP grows = 1 := by
  obtain ⟨device, before, command, after, rfl, hbefore, hafter, hgrows, -⟩ := h
  rw [List.countP_append, hbefore.countP_eq_zero, List.countP_cons_of_pos hgrows,
    hafter.countP_eq_zero]

/-- The command that the record tells of is the only one. -/
theorem Grown.only (h : Grown req record outcome) {before after : List Exchange}
    {command : Command} {outcome' : Except Failure CommandOutput}
    (hrecord : record = before ++ ran command outcome' :: after)
    (hgrows : grows (ran command outcome') = true) :
    outcome' = outcome ∧ ∃ device, Cleared req device before command := by
  obtain ⟨device, before₀, command₀, after₀, rfl, hbefore, hafter, -, hcleared⟩ := h
  obtain ⟨rfl, hsame, -⟩ := (List.append_cons_inj_of_notMem (hbefore.notMem hgrows)
    (hafter.notMem hgrows)).mp hrecord
  obtain ⟨rfl, rfl⟩ := ran_inj hsame
  exact ⟨rfl, device, hcleared⟩

theorem spared_or_grown {result : Except CsiError NodeExpandVolumeResponse}
    (h : Either (fun _ r => Settled req r) (fun _ r => GivenUp req r) result record) :
    Spared record ∨ ∃ outcome, Grown req record outcome :=
  h.elim (fun _ hsettled => hsettled.imp And.right fun ⟨out, _, hgrown⟩ => ⟨.ok out, hgrown⟩)
    (fun _ hgivenUp => hgivenUp.imp_right fun ⟨outcome, _, hgrown⟩ => ⟨outcome, hgrown⟩)

theorem Settled.obeyed (h : Settled req record)
    (hblock : req.volumeCapability.any VolumeCapability.isBlock = false) :
    ∃ before command outcome after, record = before ++ ran command outcome :: after ∧
      grows (ran command outcome) = true ∧ Obeyed outcome := by
  rcases h with ⟨hblock', -⟩ | ⟨out, hsuccess, hgrown⟩
  · rw [hblock] at hblock'
    cases hblock'
  · obtain ⟨device, before, command, after, hrecord, -, -, hgrows, -⟩ := hgrown
    exact ⟨before, command, .ok out, after, hrecord, hgrows, out, rfl, hsuccess⟩

theorem GivenUp.not_obeyed (h : GivenUp req record) {command : Command}
    (hmem : ran command outcome ∈ record) (hgrows : grows (ran command outcome) = true) :
    ¬ Obeyed outcome := by
  rcases h with hspared | ⟨outcome', hfailed, hgrown⟩
  · exact absurd hmem (hspared.notMem hgrows)
  · obtain ⟨before, after, hrecord⟩ := List.append_of_mem hmem
    rw [(hgrown.only hrecord hgrows).1]
    exact hfailed

end Records

end Work

/-! ## The mounts -/

/-- Whether a question mounts and unmounts nothing. -/
def Unmoving (q : Query) : Prop :=
  Host.Quiet q ∨ q = .lock ∨ q = .unlock

theorem unmoving_expand (req : NodeExpandVolumeRequest) : Asks Unmoving (expand req).run := by
  have hlocked : Asks Unmoving (expandLocked req).run := by
    apply Asks.bind_run (asks_ask (.inl trivial))
    intro mounted
    cases mounted with
    | false => trivial
    | true =>
        rw [Bool.not_true, if_neg Bool.false_ne_true]
        split
        · trivial
        · apply Asks.bind_run (asks_ask (.inl trivial))
          intro sources
          cases sources with
          | nil => trivial
          | cons device others =>
              apply ((quiet_growMapping device req.secrets).mono fun _ => .inl).bind_run
              intro _
              exact ((quiet_growFileSystem device req.volumePath).mono fun _ => .inl).bind_run
                fun _ => trivial
  apply (asks_ofExcept _).bind_run
  exact fun _ => asks_locked (.inr (.inl rfl)) (.inr (.inr rfl)) hlocked

/-! ## Requests to grow a file system -/

/-- Whatever the host answers, at most one command to grow a file system is run, and only after all
is known that has to be. The request succeeds if and only if that command does, unless the device is
handed over as it is. Nothing is mounted or unmounted. The mapping that is resized is the one that
was asked about if and only if its path is written as usual. -/
theorem growing_in_order (req : NodeExpandVolumeRequest) {σ : Type}
    (answer : (q : Query) → σ → q.Answer × σ) (s : σ) :
    let record := (expand req).run.transcript answer s
    let result := (expand req).run.run answer s
    record.countP grows ≤ 1 ∧
    (∀ before command outcome after, record = before ++ ran command outcome :: after →
      grows (ran command outcome) = true → ∃ device, Cleared req device before command) ∧
    (∀ response, result.1 = .ok response →
      req.volumeCapability.any VolumeCapability.isBlock = false →
      ∃ before command outcome after, record = before ++ ran command outcome :: after ∧
        grows (ran command outcome) = true ∧ Obeyed outcome) ∧
    (∀ e, result.1 = .error e → ∀ command outcome, ran command outcome ∈ record →
      grows (ran command outcome) = true → ¬ Obeyed outcome) ∧
    (∀ mounts : σ → List Mount, (∀ q s, Unmoving q → mounts (answer q s).2 = mounts s) →
      mounts result.2 = mounts s) ∧
    ∀ device name, Luks.isMapperPath device = true → Path.fileName? device = some name →
      (Luks.mappingName device = name ↔ device = Luks.mapperPath name) := by
  intro record result
  have hend : Either (fun _ r => Settled req r) (fun _ r => GivenUp req r) result.1 record :=
    (delivers_expand req).run_transcript answer s
  refine ⟨?_, ?_, ?_, ?_, fun mounts hmounts => ?_, fun device name => Luks.mappingName_eq_iff⟩
  · rcases spared_or_grown hend with hspared | ⟨outcome, hgrown⟩
    · exact hspared.countP_eq_zero.trans_le (Nat.zero_le 1)
    · exact hgrown.countP_eq_one.le
  · intro before command outcome after hrecord hgrows
    rcases spared_or_grown hend with hspared | ⟨outcome', hgrown⟩
    · exact absurd (by simp [hrecord]) (hspared.notMem hgrows)
    · exact (hgrown.only hrecord hgrows).2
  · intro response hok
    rw [hok] at hend
    exact Settled.obeyed hend
  · intro e herror command outcome
    rw [herror] at hend
    exact GivenUp.not_obeyed hend
  · exact (unmoving_expand req).run_keeps hmounts s

/-- A node on which the file system in a mapping is mounted from a path of that mapping. -/
def encryptedNode (path : String) : State :=
  ([], { (Memory.addFile {} "/dev/mapper/vault").setFsType path "ext4" with
    mounts := [⟨path, "/staging/vault", "ext4", []⟩] })

def expandVault : NodeExpandVolumeRequest :=
  { volumeId := "7-vault", volumePath := "/staging/vault" }

theorem vault_grown_in_order :
    ((expand expandVault).run.run (answerQuery Memory.answer)
        (encryptedNode "/dev/mapper/vault")).1 = .ok { capacityBytes := 0 } ∧
      ∃ before command outcome after,
        (expand expandVault).run.transcript (answerQuery Memory.answer)
          (encryptedNode "/dev/mapper/vault") = before ++ ran command outcome :: after ∧
        Obeyed outcome ∧ ∃ device, Cleared expandVault device before command := by
  have hok : ((expand expandVault).run.run (answerQuery Memory.answer)
      (encryptedNode "/dev/mapper/vault")).1 = .ok { capacityBytes := 0 } := by
    decide +kernel
  obtain ⟨-, hcleared, hobeyed, -⟩ := growing_in_order expandVault (answerQuery Memory.answer)
    (encryptedNode "/dev/mapper/vault")
  obtain ⟨before, command, outcome, after, hrecord, hgrows, hdone⟩ := hobeyed _ hok rfl
  exact ⟨hok, before, command, outcome, after, hrecord, hdone, hcleared _ _ _ _ hrecord hgrows⟩

/-- A path with a slash too many. The mapping is asked about by its name, but another name is
resized. -/
theorem vault_not_resized :
    Luks.isMapperPath "/dev/mapper//vault" = true ∧
      Path.fileName? "/dev/mapper//vault" = some "vault" ∧
      ((⟨.expand expandVault, id⟩ : Arrival).outcome (encryptedNode "/dev/mapper//vault")).1.isOk ∧
      ((⟨.expand expandVault, id⟩ : Arrival).outcome
          (encryptedNode "/dev/mapper//vault")).2.2.commands =
        [statusCommand "vault", resizeCommand "/vault" none, probeCommand "/dev/mapper//vault",
          ⟨"resize2fs", ["/dev/mapper//vault"], none⟩] ∧
      ((encryptedNode "/dev/mapper//vault").2.run (statusCommand "vault")).1.success = true ∧
      TellsLuks ((encryptedNode "/dev/mapper//vault").2.run (statusCommand "vault")).1 := by
  unfold TellsLuks
  decide +kernel

end Node

end VolumePlugin
