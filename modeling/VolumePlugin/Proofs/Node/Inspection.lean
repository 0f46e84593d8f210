import VolumePlugin.Proofs.Node.Closing
import VolumePlugin.Proofs.Node.Growing

/-! # Mappings that are asked about and acted on

A mapping is closed or resized right after it was asked about and described as that of an encrypted
device. It is asked about by the last name of its path, but acted on by what is left of the path
without the directory of mappings. Both are one name if and only if the path is written in the one
way in which the paths of mappings are put together. What the host answers is not known here. -/

namespace VolumePlugin

open Host
open Prog (Asks Delivers Ensures TakenDown)

/-! ## What a record tells of mappings -/

namespace Host

/-- Whether an exchange is about a command for mappings. -/
def forMapping : Exchange → Bool
  | ⟨.call (.run c), _⟩ => c.program = "cryptsetup"
  | _ => false

/-- The sources of the mounts on a path, if that is what an exchange is about. -/
def sourcesTold (path : String) : Exchange → List String
  | ⟨.call (.mountSources target), .ok sources⟩ => if target = path then sources else []
  | _ => []

/-- The commands for mappings that a record tells of, each with what came of it. -/
def mappingCommands (record : List Exchange) : List Exchange :=
  record.filter forMapping

/-- The sources of the mounts on a path that a record tells of. -/
def sourcesIn (path : String) (record : List Exchange) : List String :=
  record.flatMap (sourcesTold path)

/-- What a record tells of mappings: the commands for them, and the sources of the mounts on a
path. -/
def told (path : String) (record : List Exchange) : List Exchange × List String :=
  (mappingCommands record, sourcesIn path record)

/-- Whether a question neither is a command for mappings nor asks for the sources of mounts. -/
def Aside : Query → Prop
  | .call (.run c) => c.program ≠ "cryptsetup"
  | .call (.mountSources _) => False
  | _ => True

section Telling

variable {path : String} {record : List Exchange} {commands : List Exchange}
  {sources : List String}

theorem told_append (hrecord : told path record = (commands, sources)) (more : List Exchange) :
    told path (record ++ more) =
      (commands ++ mappingCommands more, sources ++ sourcesIn path more) := by
  obtain ⟨rfl, rfl⟩ := Prod.mk.inj hrecord
  simp [told, mappingCommands, sourcesIn]

theorem forMapping_of_aside {q : Query} (hq : Aside q) (a : q.Answer) :
    forMapping ⟨q, a⟩ = false := by
  cases q with
  | call c =>
      cases c with
      | run command => exact decide_eq_false hq
      | _ => rfl
  | _ => rfl

theorem sourcesTold_of_aside {q : Query} (hq : Aside q) (a : q.Answer) :
    sourcesTold path ⟨q, a⟩ = [] := by
  cases q with
  | call c =>
      cases c with
      | mountSources target => exact hq.elim
      | _ => rfl
  | _ => rfl

theorem told_aside (hrecord : told path record = (commands, sources)) {q : Query} (hq : Aside q)
    (a : q.Answer) : told path (record ++ [⟨q, a⟩]) = (commands, sources) := by
  rw [told_append hrecord]
  simp [mappingCommands, sourcesIn, forMapping_of_aside hq, sourcesTold_of_aside hq]

theorem told_ran (hrecord : told path record = (commands, sources)) (arguments : List String)
    (key : Option String) (outcome : Except Failure CommandOutput) :
    told path (record ++ [ran ⟨"cryptsetup", arguments, key⟩ outcome]) =
      (commands ++ [ran ⟨"cryptsetup", arguments, key⟩ outcome], sources) :=
  (told_append hrecord _).trans (congrArg (commands ++ _, ·) (List.append_nil sources))

theorem told_mountSources (hrecord : told path record = (commands, sources))
    (found : List String) :
    told path (record ++ [⟨.call (.mountSources path), .ok found⟩]) =
      (commands, sources ++ found) := by
  rw [told_append hrecord]
  simp [mappingCommands, forMapping, sourcesIn, sourcesTold]

theorem told_mountSources_error (hrecord : told path record = (commands, sources))
    (e : CsiError) :
    told path (record ++ [⟨.call (.mountSources path), .error e⟩]) = (commands, sources) :=
  (told_append hrecord _).trans (by simp [mappingCommands, forMapping, sourcesIn, sourcesTold])

theorem ensures_aside {α : Type} {work : Work α} (hwork : Asks Aside work)
    (hrecord : told path record = (commands, sources)) :
    Ensures TakenDown work record fun _ r => told path r = (commands, sources) :=
  hwork.keeps (fun r => told path r = (commands, sources))
    (fun _ _ a _ hq hr h => (congrArg (told path) hr).trans (told_aside h hq a)) hrecord

theorem delivers_aside {α : Type} {job : Job α} (hjob : Asks Aside job.run)
    (hrecord : told path record = (commands, sources)) :
    Delivers TakenDown job record (fun _ r => told path r = (commands, sources))
      (fun _ r => told path r = (commands, sources)) :=
  Ensures.mono (ensures_aside hjob hrecord) fun result _ hr => by cases result <;> exact hr

end Telling

end Host

/-! ## Mappings that are asked about -/

/-- Whether a path was found to be that of a mapping of an encrypted device, with the commands that
were run to find out. A path that ends in no name is not asked about. -/
inductive Inspected (path : String) : Bool → List Exchange → Prop where
  | nameless (hname : Path.fileName? path = none) : Inspected path false []
  | unknown {name : String} (hname : Path.fileName? path = some name) (e : Failure) :
      Inspected path false [ran (Node.statusCommand name) (.error e)]
  | other {name : String} (hname : Path.fileName? path = some name) {out : CommandOutput}
      (hother : ¬ Node.TellsLuks out) :
      Inspected path false [ran (Node.statusCommand name) (.ok out)]
  | encrypted {name : String} (hname : Path.fileName? path = some name) {out : CommandOutput}
      (htells : Node.TellsLuks out) : Inspected path true [ran (Node.statusCommand name) (.ok out)]

/-- The commands that are run for the mapping of a path: it is asked about, and acted on if it is
that of an encrypted device. -/
inductive Tended (act : String → Command) (path : String) : List Exchange → Prop where
  | left {part : List Exchange} (hpart : Inspected path false part) : Tended act path part
  | acted {part : List Exchange} (hpart : Inspected path true part)
      (outcome : Except Failure CommandOutput) :
      Tended act path (part ++ [ran (act (Luks.mappingName path)) outcome])

section Mappings

variable {target : String} {record : List Exchange} {commands : List Exchange}
  {sources : List String}

theorem delivers_inspected (path : String) (hrecord : told target record = (commands, sources)) :
    Delivers TakenDown (Luks.isLuksMapping path) record
      (fun isLuks r => ∃ part, Inspected path isLuks part ∧
        told target r = (commands ++ part, sources))
      (fun _ r => ∃ part, Inspected path false part ∧
        told target r = (commands ++ part, sources)) := by
  unfold Luks.isLuksMapping
  cases hname : Path.fileName? path with
  | none => exact ⟨[], .nameless hname, by rw [List.append_nil, hrecord]⟩
  | some name =>
      unfold Luks.cryptsetup
      rw [Prog.delivers_bind, delivers_run_takenDown]
      refine ⟨fun out => ⟨_, ?_, told_ran hrecord ..⟩, fun e => ⟨_, .unknown hname e,
        told_ran hrecord ..⟩⟩
      cases htells : out.success && (Text.lines out.stdout.toList).any Luks.saysLuks with
      | true => exact .encrypted hname htells
      | false => exact .other hname (by simp [Node.TellsLuks, htells])

theorem delivers_acted (what : String) (arguments : List String) (key : Option String)
    (hrecord : told target record = (commands, sources)) :
    Delivers TakenDown (Luks.mustSucceed what arguments key) record
      (fun _ r => ∃ outcome,
        told target r = (commands ++ [ran ⟨"cryptsetup", arguments, key⟩ outcome], sources))
      (fun _ r => ∃ outcome,
        told target r = (commands ++ [ran ⟨"cryptsetup", arguments, key⟩ outcome], sources)) := by
  unfold Luks.mustSucceed Luks.cryptsetup
  rw [Prog.delivers_bind, delivers_run_takenDown]
  refine ⟨fun out => ?_, fun e => ⟨.error e, told_ran hrecord ..⟩⟩
  cases out.success with
  | true => exact ⟨.ok out, told_ran hrecord ..⟩
  | false => exact ⟨.ok out, told_ran hrecord ..⟩

theorem ensures_closeMapping_tended (path : String)
    (hrecord : told target record = (commands, sources)) :
    Ensures TakenDown (Node.closeMapping path) record fun _ r =>
      ∃ part, Tended Luks.closeCommand path part ∧
        told target r = (commands ++ part, sources) := by
  unfold Node.closeMapping
  rw [Prog.bind_eq, Prog.ensures_bind]
  refine Ensures.mono (delivers_inspected path hrecord) ?_
  rintro (e | isLuks) r ⟨part, hpart, hr⟩
  · exact ⟨part, .left hpart, hr⟩
  · cases isLuks with
    | false => exact ⟨part, .left hpart, hr⟩
    | true =>
        dsimp only
        rw [Prog.bind_eq, Prog.ensures_bind]
        refine Ensures.mono (delivers_acted _ _ _ hr) fun result r' hr' => ?_
        obtain ⟨outcome, hr'⟩ := hr'.elim (fun _ => id) (fun _ => id)
        exact ⟨_, .acted hpart outcome, by rw [hr', List.append_assoc]; rfl⟩

theorem ensures_closeMappings_tended (paths : List String)
    (hrecord : told target record = (commands, sources)) :
    Ensures TakenDown (Node.closeMappings paths) record fun _ r =>
      ∃ parts, List.Forall₂ (Tended Luks.closeCommand) paths parts ∧
        told target r = (commands ++ parts.flatten, sources) := by
  induction paths generalizing record commands with
  | nil => exact ⟨[], .nil, by rw [List.flatten_nil, List.append_nil, hrecord]⟩
  | cons path rest ih =>
      unfold Node.closeMappings
      rw [Prog.bind_eq, Prog.ensures_bind]
      refine (ensures_closeMapping_tended path hrecord).mono ?_
      rintro _ r ⟨part, hpart, hr⟩
      refine (ih hr).mono ?_
      rintro _ r' ⟨parts, hparts, hr'⟩
      exact ⟨part :: parts, .cons hpart hparts, by rw [hr', List.flatten_cons, List.append_assoc]⟩

/-- Whether a record tells of some sources of mounts, and of commands for the mappings of some of
them. -/
def Resized (target : String) (key : Option String) (record : List Exchange) : Prop :=
  ∃ sources parts, told target record = (parts.flatten, sources) ∧
    List.Forall₂ (Tended (Node.resizeCommand · key))
      ((sources.take 1).filter Luks.isMapperPath) parts

theorem resized_of_tended {key : Option String} {device : String} {others : List String}
    {part : List Exchange} (hmapper : Luks.isMapperPath device = true)
    (hpart : Tended (Node.resizeCommand · key) device part)
    (hrecord : told target record = (part, device :: others)) : Resized target key record := by
  refine ⟨device :: others, [part], by rw [hrecord, List.flatten_singleton], ?_⟩
  rw [List.take_succ_cons, List.take_zero, List.filter_cons_of_pos hmapper]
  exact .cons hpart .nil

theorem delivers_growMapping_tended (device : String) (others : List String) (secrets : Attributes)
    (hrecord : told target record = ([], device :: others)) :
    Delivers TakenDown (Node.growMapping device secrets) record
      (fun _ r => Resized target (secrets.get? Setting.luksKey) r)
      (fun _ r => Resized target (secrets.get? Setting.luksKey) r) := by
  unfold Node.growMapping
  split
  · next hmapper =>
    refine (Prog.delivers_bind ..).mpr ((delivers_inspected device hrecord).mono ?_ ?_)
    · rintro isLuks r ⟨part, hpart, hr⟩
      cases isLuks with
      | false => exact resized_of_tended hmapper (.left hpart) hr
      | true =>
          refine (delivers_acted _ _ _ hr).mono ?_ ?_
          · rintro _ r' ⟨outcome, hr'⟩
            exact resized_of_tended hmapper (.acted hpart outcome) hr'
          · rintro _ r' ⟨outcome, hr'⟩
            exact resized_of_tended hmapper (.acted hpart outcome) hr'
    · rintro e r ⟨part, hpart, hr⟩
      exact resized_of_tended hmapper (.left hpart) hr
  · next hmapper =>
    refine ⟨device :: others, [], hrecord, ?_⟩
    rw [List.take_succ_cons, List.take_zero, List.filter_cons_of_neg hmapper]
    exact .nil

end Mappings

/-! ## Requests -/

namespace Node

section Requests

variable {target : String} {record : List Exchange} {commands : List Exchange}
  {sources : List String}

/-- What is found to be mounted on a staging path is what the host says. -/
theorem delivers_unmountStaging_told (path : String) (hrecord : told path record = ([], [])) :
    Delivers TakenDown (unmountStaging path) record
      (fun found r => ∃ sources, told path r = ([], sources) ∧
        found = sources.filter Luks.isMapperPath)
      (fun _ r => ∃ sources, told path r = ([], sources)) := by
  unfold unmountStaging
  rw [Prog.delivers_bind, delivers_isMountPoint_takenDown]
  intro mounted
  have hasked := told_aside hrecord (q := .call (.isMountPoint path)) trivial mounted
  match mounted with
  | .error e => exact ⟨[], hasked⟩
  | .ok false => exact ⟨[], hasked, rfl⟩
  | .ok true =>
      rw [Prog.either_ok, if_pos rfl, Prog.delivers_bind, delivers_mountSources_takenDown]
      intro answer
      cases answer with
      | error e => exact ⟨[], told_mountSources_error hasked e⟩
      | ok sources =>
          rw [Prog.either_ok]
          have hsources := told_mountSources hasked sources
          rw [List.nil_append] at hsources
          have hunused : Asks Aside (requireUnused path (sources ++ [path])).run :=
            asks_requireUnused (fun _ => trivial) path _
          refine (Prog.delivers_bind ..).mpr ((delivers_aside hunused hsources).mono ?_
            fun _ r hr => ⟨sources, hr⟩)
          rintro _ r hr
          refine (Prog.delivers_bind ..).mpr ((delivers_aside (asks_ask trivial) hr).mono ?_
            fun _ r hr => ⟨sources, hr⟩)
          exact fun _ r hr => ⟨sources, hr, rfl⟩

theorem ensures_leftOpen_told (key : Option VolumeKey) (found : List String)
    (hrecord : told target record = (commands, sources)) :
    Ensures TakenDown (leftOpen key found) record fun more r =>
      told target r = (commands, sources) ∧
        ∀ path ∈ more, ∃ k, key = some k ∧ path = Luks.mapperPath k.label := by
  refine (ensures_aside (asks_leftOpen (fun _ => trivial) key found) hrecord).and ?_
  unfold leftOpen
  cases key with
  | none => exact fun _ hpath => absurd hpath List.not_mem_nil
  | some key =>
      dsimp only
      split
      · exact fun _ hpath => absurd hpath List.not_mem_nil
      · rw [Prog.bind_eq, Prog.ensures_bind]
        refine Prog.ensures_of_forall (fun there r => ?_) _ _
        cases there with
        | false => exact fun _ hpath => absurd hpath List.not_mem_nil
        | true => exact fun path hpath => ⟨key, rfl, List.mem_singleton.mp hpath⟩

/-- Whether a record tells of what is mounted on a staging path, and of commands for the mappings
among it and for mappings that have the name of a volume. -/
def Closed (path : String) (key : Option VolumeKey) (record : List Exchange) : Prop :=
  ∃ sources more parts, told path record = (parts.flatten, sources) ∧
    (∀ path ∈ more, ∃ k, key = some k ∧ path = Luks.mapperPath k.label) ∧
    List.Forall₂ (Tended Luks.closeCommand) (sources.filter Luks.isMapperPath ++ more) parts

theorem delivers_unstageLocked_closed (req : NodeUnstageVolumeRequest) (key : Option VolumeKey)
    (hrecord : told req.stagingTargetPath record = ([], [])) :
    Delivers TakenDown (unstageLocked req key) record
      (fun _ r => Closed req.stagingTargetPath key r)
      (fun _ r => mappingCommands r = []) := by
  unfold unstageLocked
  refine (Prog.delivers_bind ..).mpr ((delivers_unmountStaging_told _ hrecord).mono ?_ ?_)
  · rintro found r ⟨sources, hr, rfl⟩
    rw [Prog.delivers_bind, Prog.delivers_lift]
    refine (ensures_leftOpen_told key _ hr).mono ?_
    rintro more r ⟨hr, hmore⟩
    rw [Prog.delivers_bind, Prog.delivers_lift]
    refine (ensures_closeMappings_tended _ hr).mono ?_
    rintro _ r ⟨parts, hparts, hr⟩
    exact ⟨sources, more, parts, hr, hmore, hparts⟩
  · rintro e r ⟨sources, hr⟩
    exact congrArg Prod.fst hr

theorem delivers_unstage_closed (req : NodeUnstageVolumeRequest) :
    Delivers TakenDown (unstage req) []
      (fun _ r => Closed req.stagingTargetPath (VolumeKey.parse req.volumeId).toOption r)
      (fun _ r => mappingCommands r = []) := by
  unfold unstage
  rw [Prog.delivers_bind, delivers_ofExcept]
  cases hreq : unstaging req with
  | error e => exact rfl
  | ok key =>
      rw [Prog.either_ok, unstaging_key hreq]
      apply delivers_locked_takenDown
      refine (delivers_unstageLocked_closed req _ rfl).mono ?_ ?_
      · rintro _ r ⟨sources, more, parts, hr, hmore, hparts⟩
        exact ⟨sources, more, parts, told_aside (q := .unlock) hr trivial (), hmore, hparts⟩
      · intro e r hr
        simpa [mappingCommands, forMapping] using hr

theorem delivers_expandLocked_resized (req : NodeExpandVolumeRequest)
    (hrecord : told req.volumePath record = ([], [])) :
    Delivers TakenDown (expandLocked req) record
      (fun _ r => Resized req.volumePath (req.secrets.get? Setting.luksKey) r)
      (fun _ r => Resized req.volumePath (req.secrets.get? Setting.luksKey) r) := by
  have hnothing : ∀ r, told req.volumePath r = ([], []) →
      Resized req.volumePath (req.secrets.get? Setting.luksKey) r :=
    fun r hr => ⟨[], [], hr, .nil⟩
  unfold expandLocked
  rw [Prog.delivers_bind, delivers_isMountPoint_takenDown]
  intro mounted
  have hasked := told_aside (q := .call (.isMountPoint req.volumePath)) hrecord trivial mounted
  match mounted with
  | .error e => exact hnothing _ hasked
  | .ok false => exact hnothing _ hasked
  | .ok true =>
      rw [Prog.either_ok, Bool.not_true, if_neg Bool.false_ne_true]
      split
      · exact hnothing _ hasked
      · rw [Prog.delivers_bind, delivers_mountSources_takenDown]
        intro answer
        match answer with
        | .error e => exact hnothing _ (told_mountSources_error hasked e)
        | .ok [] => exact hnothing _ (told_mountSources hasked [])
        | .ok (device :: others) =>
            have hfound := told_mountSources hasked (device :: others)
            have hmapping := delivers_growMapping_tended device others req.secrets hfound
            refine (Prog.delivers_bind ..).mpr (hmapping.mono ?_ fun _ _ hr => hr)
            rintro _ r ⟨sources, parts, hr, hparts⟩
            have hgrows : Asks Aside (growFileSystem device req.volumePath).run :=
              asks_growFileSystem (fun _ => id) device req.volumePath
            refine (Prog.delivers_bind ..).mpr ((delivers_aside hgrows hr).mono ?_ ?_)
            · exact fun _ r hr => ⟨sources, parts, hr, hparts⟩
            · exact fun _ r hr => ⟨sources, parts, hr, hparts⟩

theorem delivers_expand_resized (req : NodeExpandVolumeRequest) :
    Delivers TakenDown (expand req) []
      (fun _ r => Resized req.volumePath (req.secrets.get? Setting.luksKey) r)
      (fun _ r => Resized req.volumePath (req.secrets.get? Setting.luksKey) r) := by
  unfold expand
  rw [Prog.delivers_bind, delivers_ofExcept]
  cases expanding req with
  | error e => exact ⟨[], [], rfl, .nil⟩
  | ok _ =>
      rw [Prog.either_ok]
      apply delivers_locked_takenDown
      refine (delivers_expandLocked_resized req rfl).mono ?_ ?_
      · rintro _ r ⟨sources, parts, hr, hparts⟩
        exact ⟨sources, parts, told_aside (q := .unlock) hr trivial (), hparts⟩
      · rintro _ r ⟨sources, parts, hr, hparts⟩
        exact ⟨sources, parts, told_aside (q := .unlock) hr trivial (), hparts⟩

end Requests

/-- Whatever the host answers, a mapping is closed or resized right after it was asked about by the
last name of its path, and by what the path is without the directory of mappings. A request to
unstage a volume does so for all mappings that were mounted on the staging path, and a request to
grow a file system for the mapping that is mounted first. The two names of a mapping are the same if
and only if its path is written as usual, which it is for every label that makes one step. -/
theorem mappings_tended_by_name {σ : Type} (answer : (q : Query) → σ → q.Answer × σ) (s : σ) :
    (∀ req : NodeUnstageVolumeRequest,
      let result := (unstage req).run.run answer s
      let record := (unstage req).run.transcript answer s
      (result.1.isOk = true →
        Closed req.stagingTargetPath (VolumeKey.parse req.volumeId).toOption record) ∧
      (result.1.isOk = false → mappingCommands record = [])) ∧
    (∀ req : NodeExpandVolumeRequest,
      Resized req.volumePath (req.secrets.get? Setting.luksKey)
        ((expand req).run.transcript answer s)) ∧
    (∀ path name, Luks.isMapperPath path = true → Path.fileName? path = some name →
      (Luks.mappingName path = name ↔ path = Luks.mapperPath name)) ∧
    ∀ label, Path.Step label → Luks.isMapperPath (Luks.mapperPath label) = true ∧
      Path.fileName? (Luks.mapperPath label) = some label ∧
      Luks.mappingName (Luks.mapperPath label) = label := by
  refine ⟨fun req => ?_, fun req => ?_, fun path name => Luks.mappingName_eq_iff, ?_⟩
  · have hend := (delivers_unstage_closed req).run_transcript answer s
    dsimp only
    revert hend
    cases ((unstage req).run.run answer s).1 with
    | ok response => exact fun hclosed => ⟨fun _ => hclosed, nofun⟩
    | error e => exact fun hnothing => ⟨nofun, fun _ => hnothing⟩
  · exact ((delivers_expand_resized req).run_transcript answer s).elim (fun _ => id) (fun _ => id)
  · intro label hlabel
    exact ⟨Luks.isMapperPath_mapperPath hlabel, Luks.fileName?_mapperPath hlabel,
      Luks.mappingName_mapperPath_of_not_mem hlabel.slash⟩

def unstageVault : NodeUnstageVolumeRequest :=
  { volumeId := "7-vault", stagingTargetPath := "/staging/vault" }

theorem vault_closed_by_name :
    ((⟨.unstage unstageVault, id⟩ : Arrival).outcome
        (encryptedNode "/dev/mapper/vault")).2.2.commands =
      [statusCommand "vault", Luks.closeCommand "vault"] ∧
      Closed "/staging/vault" (some ⟨7, "vault"⟩) ((unstage unstageVault).run.transcript
        (answerQuery Memory.answer) (encryptedNode "/dev/mapper/vault")) ∧
      Path.Step "vault" ∧ Luks.mappingName (Luks.mapperPath "vault") = "vault" := by
  obtain ⟨hunstage, -, -, hlabel⟩ := mappings_tended_by_name (answerQuery Memory.answer)
    (encryptedNode "/dev/mapper/vault")
  have hstep : Path.Step "vault" := by decide
  exact ⟨by decide +kernel, (hunstage unstageVault).1 (by decide +kernel), hstep,
    (hlabel "vault" hstep).2.2⟩

/-- With a slash too many in the path, the mapping is asked about by its name, but another name is
closed. -/
theorem vault_misnamed :
    Luks.isMapperPath "/dev/mapper//vault" = true ∧
      Path.fileName? "/dev/mapper//vault" = some "vault" ∧
      ((⟨.unstage unstageVault, id⟩ : Arrival).outcome
          (encryptedNode "/dev/mapper//vault")).1.isOk = true ∧
      ((⟨.unstage unstageVault, id⟩ : Arrival).outcome
          (encryptedNode "/dev/mapper//vault")).2.2.commands =
        [statusCommand "vault", Luks.closeCommand "/vault", statusCommand "vault"] := by
  decide +kernel

end Node

end VolumePlugin
