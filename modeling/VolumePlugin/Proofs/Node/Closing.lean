import VolumePlugin.Proofs.Moments
import VolumePlugin.Proofs.Node.Backing

/-! # Mappings that are closed while they are in use

Whoever unstages a volume closes the mappings that were mounted on the staging path, which nobody
else uses by then. The mapping that has the name of the volume is closed as well if it is there, and
for that one nobody looks whether it is in use. -/

namespace VolumePlugin

open Host
open Prog (Asks Delivers Ensures Sometime Throughout)

/-! ## Questions that close mappings -/

namespace Host

/-- The name of the mapping that a question has closed. -/
def closing? : Query → Option String
  | .call (.run c) => Luks.closed? c
  | _ => none

/-- Whether a question closes no mapping but those of some names. -/
def Closes (names : List String) (q : Query) : Prop :=
  ∀ name, closing? q = some name → name ∈ names

section Locked

variable {α : Type} {holds : Query → Memory → Prop} {task : Job α} {h : Memory}

/-- Nothing happens on the host while the lock is taken or given back. -/
theorem throughout_locked (hlock : ∀ h, holds .lock h) (hunlock : ∀ h, holds .unlock h)
    (htask : Throughout Answers holds task.run h) :
    Throughout Answers holds (Job.locked task).run h := by
  refine ⟨hlock h, fun _ h' hsame => ?_⟩
  obtain rfl : h' = h := hsame
  change Throughout Answers holds (task.run.bind fun result =>
    (Prog.question (A := Query.Answer) .unlock).bind fun _ => .done result) h'
  rw [Prog.throughout_bind]
  refine ⟨htask, ?_⟩
  exact Prog.ensures_of_forall (fun _ h' => ⟨hunlock h', fun _ _ _ => trivial⟩) _ _

theorem sometime_locked (htask : Sometime Answers holds task.run h) :
    Sometime Answers holds (Job.locked task).run h := by
  refine .inr fun _ h' hsame => ?_
  obtain rfl : h' = h := hsame
  exact htask.first

end Locked

end Host

namespace Node

variable {names : List String}

theorem closes_unmountStaging (path : String) :
    Asks (Closes names) (unmountStaging path).run :=
  asks_unmountStaging nofun nofun (fun _ => nofun) nofun

theorem closes_leftOpen (key : Option VolumeKey) (mappings : List String) :
    Asks (Closes names) (leftOpen key mappings) :=
  asks_leftOpen (fun _ => nofun) key mappings

theorem closes_isLuksMapping (path : String) :
    Asks (Closes names) (Luks.isLuksMapping path).run := by
  unfold Luks.isLuksMapping
  split
  · trivial
  · exact (asks_demand (asks_ask nofun) _).bind_run fun _ => trivial

theorem closes_closeMapping {path : String} (hpath : Luks.mappingName path ∈ names) :
    Asks (Closes names) (closeMapping path) := by
  have hclose : Closes names (.call (.run (Luks.closeCommand (Luks.mappingName path)))) :=
    fun name hname => Option.some.inj hname ▸ hpath
  refine (closes_isLuksMapping path).bind fun result => ?_
  split
  · exact (Luks.asks_mustSucceed _ hclose).bind fun _ => trivial
  · trivial

theorem closes_closeMappings (paths : List String) :
    Asks (Closes (paths.map Luks.mappingName)) (closeMappings paths) := by
  induction paths with
  | nil => trivial
  | cons path rest ih =>
      refine (closes_closeMapping (by simp)).bind fun _ => ih.mono fun q hq => ?_
      exact fun name hname => List.mem_cons_of_mem _ (hq name hname)

/-! ## What is closed -/

/-- The mappings that are mounted on a path. -/
def stagedMappings (path : String) (h : Memory) : List String :=
  (h.sourcesOf path).filter Luks.isMapperPath

theorem stagedMappings_of_free {path : String} {h : Memory} (hfree : ¬ Mounted path h.mounts) :
    stagedMappings path h = [] := by
  refine List.filter_eq_nil_iff.mpr fun source hsource => ?_
  obtain ⟨m, hm, htarget, -⟩ := Memory.mem_sourcesOf.mp hsource
  exact absurd ⟨m, hm, htarget⟩ hfree

theorem delivers_unmountStaging_mappings (path : String) (h : Memory) :
    Delivers Answers (unmountStaging path) h (fun found _ => found = stagedMappings path h)
      (fun _ _ => True) := by
  unfold unmountStaging isMountPoint
  rw [Prog.delivers_bind, Host.delivers_ofWork, Host.ensures_ask]
  simp only [Memory.answer, Prog.either_ok]
  cases hmounted : h.isMountPoint path with
  | false => exact (stagedMappings_of_free (Memory.isMountPoint_eq_false_iff.mp hmounted)).symm
  | true =>
      simp only [if_true]
      rw [Prog.delivers_bind, Host.delivers_ofWork, Host.ensures_ask]
      simp only [Memory.answer, Prog.either_ok]
      rw [Prog.delivers_bind]
      refine (delivers_requireUnused path (h.sourcesOf path ++ [path]) h).mono ?_
        fun _ _ _ => trivial
      rintro _ h' ⟨rfl, -⟩
      rw [Prog.delivers_bind, Host.delivers_ofWork, Host.ensures_ask]
      cases (Memory.answer (.unmount path) h').1 with
      | ok _ => exact rfl
      | error e => trivial

/-- The host without what is mounted on a path. -/
def unmounted (path : String) (h : Memory) : Memory :=
  { h with mounts := h.mounts.filter (·.target ≠ path) }

/-- A staging path that was not refused has nothing mounted on it afterwards. -/
theorem delivers_unmountStaging_unused (path : String) {h : Memory}
    (hdistinct : Distinct h.mounts) :
    Delivers Answers (unmountStaging path) h
      (fun found h' => (Mounted path h.mounts → Unused path h.mounts) ∧
        found = stagedMappings path h ∧ h' = unmounted path h)
      (fun _ _ => Mounted path h.mounts ∧ ¬ Unused path h.mounts) := by
  refine ((delivers_unmountStaging path h).and (delivers_unmountStaging_mappings path h)).mono ?_ ?_
  · rintro found h' ⟨⟨hfree, rfl⟩ | ⟨hunused, rest, hrest, rfl⟩, hfound⟩
    · refine ⟨fun hmounted => absurd hmounted hfree, hfound, ?_⟩
      rw [unmounted, filter_of_not_mounted hfree]
    · refine ⟨fun _ => hunused, hfound, ?_⟩
      rw [unmounted, eq_filter_of_dropLastOn? hdistinct hrest]
  · rintro e h' ⟨⟨-, -, hmounted, hused⟩, -⟩
    exact ⟨hmounted, hused⟩

/-- The mapping that has the name of a volume, if it is there and not found already. -/
def named (key : Option VolumeKey) (found : List String) (h : Memory) : List String :=
  (key.toList.map fun key => Luks.mapperPath key.label).filter fun path =>
    path ∉ found ∧ h.pathExists path

theorem ensures_leftOpen_named (key : Option VolumeKey) (found : List String) (h : Memory) :
    Ensures Answers (leftOpen key found) h fun more h' => more = named key found h ∧ h' = h := by
  unfold leftOpen named
  cases key with
  | none => exact ⟨rfl, rfl⟩
  | some key =>
      dsimp only
      by_cases hmem : found.contains (Luks.mapperPath key.label)
      · rw [if_pos hmem]
        exact ⟨by simp_all, rfl⟩
      · rw [if_neg hmem, Prog.bind_eq, Prog.ensures_bind, Host.ensures_ask]
        change Ensures Answers (if h.pathExists (Luks.mapperPath key.label) then
          pure [Luks.mapperPath key.label] else pure []) h _
        cases hthere : h.pathExists (Luks.mapperPath key.label) with
        | true => exact ⟨by simp_all, rfl⟩
        | false => exact ⟨by simp_all, rfl⟩

/-! ## Mappings in use -/

/-- Whether the mapping of a name is the source of a mount. -/
def InUse (name : String) (ms : List Mount) : Prop :=
  ∃ m ∈ ms, m.source = Luks.mapperPath name

instance (name : String) (ms : List Mount) : Decidable (InUse name ms) :=
  inferInstanceAs (Decidable (∃ m ∈ ms, m.source = Luks.mapperPath name))

/-- Whether the mapping of a name is mounted at another path. -/
def UsedElsewhere (name path : String) (ms : List Mount) : Prop :=
  ∃ m ∈ ms, m.target ≠ path ∧ m.source = Luks.mapperPath name

theorem inUse_filter {name path : String} {ms : List Mount} :
    InUse name (ms.filter (·.target ≠ path)) ↔ UsedElsewhere name path ms := by
  simp [InUse, UsedElsewhere, and_assoc]

section Unstaging

variable {req : NodeUnstageVolumeRequest} {h : Memory}

/-- The names of the mappings that are closed without a look at their users: the name of the volume,
if nobody has found its mapping on the staging path, and the name that is read off a path which is
mounted there but is not the path of that name. -/
inductive Unguarded (req : NodeUnstageVolumeRequest) (h : Memory) : String → Prop where
  | left {key : VolumeKey} (hkey : VolumeKey.parse req.volumeId = .ok key)
      (hthere : h.pathExists (Luks.mapperPath key.label))
      (hother : Luks.mapperPath key.label ∉ stagedMappings req.stagingTargetPath h) :
      Unguarded req h (Luks.mappingName (Luks.mapperPath key.label))
  | misread {path : String} (hstaged : path ∈ stagedMappings req.stagingTargetPath h)
      (hname : path ≠ Luks.mapperPath (Luks.mappingName path)) :
      Unguarded req h (Luks.mappingName path)

/-- A request to unstage a volume has a mapping closed that is mounted at another path. It was not
refused, and nobody has looked for users of the mapping. -/
structure Careless (req : NodeUnstageVolumeRequest) (h : Memory) (name : String) : Prop where
  used : UsedElsewhere name req.stagingTargetPath h.mounts
  unrefused : Mounted req.stagingTargetPath h.mounts → Unused req.stagingTargetPath h.mounts
  unguarded : Unguarded req h name

/-- Nobody else uses what was mounted on the staging path, since the request was not refused. -/
theorem careless_of_staged {path : String}
    (hunrefused : Mounted req.stagingTargetPath h.mounts → Unused req.stagingTargetPath h.mounts)
    (hpath : path ∈ stagedMappings req.stagingTargetPath h)
    (hused : UsedElsewhere (Luks.mappingName path) req.stagingTargetPath h.mounts) :
    Careless req h (Luks.mappingName path) := by
  refine ⟨hused, hunrefused, .misread hpath fun heq => ?_⟩
  obtain ⟨n, hn, htarget, hnsource⟩ := Memory.mem_sourcesOf.mp (List.mem_filter.mp hpath).1
  obtain ⟨m, hm, hother, hsource⟩ := hused
  exact (hunrefused ⟨n, hn, htarget⟩ m hm hother).2 n hn htarget
    (hsource.trans (heq.symm.trans hnsource.symm))

theorem careless_of_named {key : Option VolumeKey} {path : String}
    (hkey : key = (VolumeKey.parse req.volumeId).toOption)
    (hunrefused : Mounted req.stagingTargetPath h.mounts → Unused req.stagingTargetPath h.mounts)
    (hpath : path ∈ named key (stagedMappings req.stagingTargetPath h) h)
    (hused : UsedElsewhere (Luks.mappingName path) req.stagingTargetPath h.mounts) :
    Careless req h (Luks.mappingName path) := by
  obtain ⟨hlabel, hcond⟩ := List.mem_filter.mp hpath
  obtain ⟨k, hk, rfl⟩ := List.mem_map.mp hlabel
  simp only [Bool.decide_and, Bool.and_eq_true, decide_eq_true_eq] at hcond
  refine ⟨hused, hunrefused, .left ?_ hcond.2 hcond.1⟩
  cases hparse : VolumeKey.parse req.volumeId with
  | error e => simp [hkey, hparse, Except.toOption] at hk
  | ok k' =>
      rw [hkey, hparse] at hk
      simpa [Except.toOption, eq_comm] using hk

theorem unstaging_key {key : Option VolumeKey} (hreq : unstaging req = .ok key) :
    key = (VolumeKey.parse req.volumeId).toOption := by
  unfold unstaging at hreq
  obtain ⟨_, -, hreq⟩ := except_bind_eq_ok.mp hreq
  obtain ⟨_, -, hreq⟩ := except_bind_eq_ok.mp hreq
  exact (Except.ok.inj hreq).symm

/-- What is closed while it is in use is closed unguarded. -/
theorem throughout_unstage (req : NodeUnstageVolumeRequest) (hdistinct : Distinct h.mounts) :
    Throughout Answers
      (fun q h' => ∀ name, closing? q = some name → InUse name h'.mounts → Careless req h name)
      (unstage req).run h := by
  unfold unstage
  rw [Prog.throughout_bind_run]
  refine ⟨trivial, ?_⟩
  rw [Host.delivers_ofExcept]
  cases hreq : unstaging req with
  | error e => trivial
  | ok key =>
      rw [Prog.either_ok]
      apply throughout_locked (fun _ _ hname => nomatch hname) (fun _ _ hname => nomatch hname)
      unfold unstageLocked
      rw [Prog.throughout_bind_run]
      -- Nothing is closed before it is known what there is to close.
      have hnothing : ∀ (q : Query) (h' : Memory), Closes [] q → True → ∀ name,
          closing? q = some name → InUse name h'.mounts → Careless req h name :=
        fun q h' hq _ name hname => absurd (hq name hname) List.not_mem_nil
      refine ⟨(closes_unmountStaging _).throughout (fun _ => True) (fun _ _ _ _ _ _ _ => trivial)
        hnothing trivial, ?_⟩
      refine (delivers_unmountStaging_unused _ hdistinct).mono ?_ fun _ _ _ => trivial
      rintro found h₁ ⟨hunrefused, rfl, rfl⟩
      rw [Prog.throughout_bind_run, Prog.delivers_lift]
      refine ⟨(asks_lift (closes_leftOpen key _)).throughout (fun _ => True)
        (fun _ _ _ _ _ _ _ => trivial) hnothing trivial, ?_⟩
      refine (ensures_leftOpen_named key _ _).mono ?_
      rintro more h₁ ⟨rfl, rfl⟩
      rw [Prog.throughout_bind_run, Prog.delivers_lift]
      refine ⟨?_, Prog.ensures_of_forall (fun _ _ => trivial) _ _⟩
      have hasks := (closes_closeMappings (stagedMappings req.stagingTargetPath h ++
        named key (stagedMappings req.stagingTargetPath h) h)).and (quiet_closeMappings _)
      refine (asks_lift hasks).throughout
        (fun h' => h'.mounts = h.mounts.filter (·.target ≠ req.stagingTargetPath)) ?_ ?_ rfl
      · exact fun q h' a h'' hq ha hsame => (mounts_of_quiet q h' a h'' hq.2 ha).trans hsame
      · intro q h' hq hsame name hname hused
        obtain ⟨path, hpath, rfl⟩ := List.mem_map.mp (hq.1 name hname)
        rw [hsame, inUse_filter] at hused
        rcases List.mem_append.mp hpath with hstaged | hnamed
        · exact careless_of_staged hunrefused hstaged hused
        · exact careless_of_named (unstaging_key hreq) hunrefused hnamed hused

/-- A mapping that is there is asked to be closed, where commands do what they are told. -/
theorem sometime_closeMapping {name : String} (hplain : Luks.Plain name)
    (hsilent : h.responses = []) (hthere : h.files.contains (Luks.mapperPath name)) :
    Sometime Answers (fun q h' => closing? q = some name ∧ h'.mounts = h.mounts)
      (closeMapping (Luks.mapperPath name)) h := by
  have hlook := Luks.delivers_isLuksMapping_mapperPath
    (obliging_of_silent "" ⟨true, "", "", "", name, .unstage⟩ hsilent) hplain
  refine .bind (Ensures.mono hlook ?_)
  rintro (e | found) h₁ hfound
  · exact False.elim hfound
  · obtain ⟨hu, -, hnot⟩ := hfound
    cases found with
    | false => exact absurd hthere (hnot rfl)
    | true =>
        refine Sometime.first (Sometime.first_run (.inl ⟨?_, hu.mounts⟩))
        rw [Luks.mappingName_mapperPath hplain]
        rfl

/-- The mapping that has the name of a volume is closed whoever uses it, if no mapping is mounted on
the staging path. -/
theorem sometime_unstage {key : VolumeKey} (hdistinct : Distinct h.mounts)
    (hreq : unstaging req = .ok (some key)) (hplain : Luks.Plain key.label)
    (hsilent : h.responses = []) (hstaged : stagedMappings req.stagingTargetPath h = [])
    (hthere : h.files.contains (Luks.mapperPath key.label))
    (hunrefused : Mounted req.stagingTargetPath h.mounts → Unused req.stagingTargetPath h.mounts)
    (hused : UsedElsewhere key.label req.stagingTargetPath h.mounts) :
    Sometime Answers (fun q h' => closing? q = some key.label ∧ InUse key.label h'.mounts)
      (unstage req).run h := by
  unfold unstage
  refine .bind_run ?_
  rw [Host.delivers_ofExcept, hreq, Prog.either_ok]
  refine sometime_locked ?_
  unfold unstageLocked
  refine .bind_run ?_
  refine (delivers_unmountStaging_unused _ hdistinct).mono ?_ ?_
  · rintro found h₁ ⟨-, rfl, rfl⟩
    refine .bind_run ?_
    rw [Prog.delivers_lift, hstaged]
    refine (ensures_leftOpen_named _ _ _).mono ?_
    rintro more h₁ ⟨rfl, rfl⟩
    have hnamed : named (some key) [] (unmounted req.stagingTargetPath h) =
        [Luks.mapperPath key.label] := by
      simp [named, unmounted, Memory.pathExists, hthere]
    have hcloses := sometime_closeMapping (h := unmounted req.stagingTargetPath h) hplain hsilent
      hthere
    rw [hnamed]
    refine (Sometime.lift (Sometime.first ?_)).first_run
    exact hcloses.mono fun q h' hclosed => ⟨hclosed.1, hclosed.2 ▸ inUse_filter.mpr hused⟩
  · rintro e h' ⟨hmounted, hnot⟩
    exact hnot (hunrefused hmounted)

end Unstaging

/-! ## Runs -/

/-- What the work on a request asks, each question with the state in which it is asked. -/
def Arrival.moments (a : Arrival) (s : State) : List (Query × State) :=
  a.request.job.run.moments (answerQuery Memory.answer) (a.meet s)

/-- At some moment of the work on a request, it has a mapping closed that is the source of a mount
at that moment. -/
def ClosesInUse (a : Arrival) (s : State) (name : String) : Prop :=
  ∃ moment ∈ a.moments s, closing? moment.1 = some name ∧ InUse name moment.2.2.mounts

instance (a : Arrival) (s : State) (name : String) : Decidable (ClosesInUse a s name) :=
  inferInstanceAs (Decidable (∃ moment ∈ a.moments s,
    closing? moment.1 = some name ∧ InUse name moment.2.2.mounts))

/-- When a request to unstage a volume closes a mapping in use, in a run that starts without mounts.
Every mapping that it closes while the mapping is mounted anywhere is mounted at another path, and
was closed without a look at its users, which is taken only at what is mounted on the staging path.
On a host where no command fails, a request for a path on which no mapping is mounted closes the
open mapping that has the name of its volume, and the mapping is in use then if and only if it is
mounted at another path and the request is not refused for the sake of its own path. -/
theorem unstage_closes_in_use_iff {s : State} (hs : s.2.mounts = []) (past : List Arrival)
    (req : NodeUnstageVolumeRequest) (change : Memory → Memory) :
    let a : Arrival := ⟨.unstage req, change⟩
    let h := (a.meet (after s past)).2
    (∀ name, ClosesInUse a (after s past) name → Careless req h name) ∧
      ∀ key, unstaging req = .ok (some key) → Luks.Plain key.label → h.responses = [] →
        stagedMappings req.stagingTargetPath h = [] →
        h.files.contains (Luks.mapperPath key.label) →
        (ClosesInUse a (after s past) key.label ↔
          UsedElsewhere key.label req.stagingTargetPath h.mounts ∧
            (Mounted req.stagingTargetPath h.mounts → Unused req.stagingTargetPath h.mounts)) := by
  intro a h
  have hdistinct : Distinct h.mounts := by
    apply after_distinct past
    rw [hs]
    exact List.nodup_nil
  have hcareless : ∀ name, ClosesInUse a (after s past) name → Careless req h name := by
    rintro name ⟨moment, hmoment, hcloses, hused⟩
    exact (throughout_unstage req hdistinct).run answers_sound (t := a.meet (after s past))
      moment hmoment name hcloses hused
  refine ⟨hcareless, fun key hreq hplain hsilent hstaged hthere => ⟨fun hcloses => ?_, ?_⟩⟩
  · obtain ⟨hused, hunrefused, -⟩ := hcareless key.label hcloses
    exact ⟨hused, hunrefused⟩
  · rintro ⟨hused, hunrefused⟩
    exact (sometime_unstage hdistinct hreq hplain hsilent hstaged hthere hunrefused hused).run
      answers_sound (t := a.meet (after s past))

/-- A request for a volume that is staged at another path than the request says. -/
def unstageElsewhere : NodeUnstageVolumeRequest :=
  { volumeId := "7-data", stagingTargetPath := "/staging/other" }

/-- The node after the encrypted volume has been staged. -/
def secretNode : State :=
  after attachedNode [(Request.stage secretJourney.stage).alone]

theorem unstageElsewhere_closes :
    attachedNode.2.mounts = [] ∧
      UsedElsewhere "data" "/staging/other" secretNode.2.mounts ∧
      ClosesInUse ⟨.unstage unstageElsewhere, id⟩ secretNode "data" := by
  have hiff := (unstage_closes_in_use_iff (s := attachedNode) rfl
    [(Request.stage secretJourney.stage).alone] unstageElsewhere id).2 ⟨7, "data"⟩
    (by decide +kernel) (by decide) (by decide +kernel) (by decide +kernel) (by decide +kernel)
  have hused : UsedElsewhere "data" "/staging/other" secretNode.2.mounts := by
    unfold UsedElsewhere
    decide +kernel
  have hfree : ¬ Mounted "/staging/other" secretNode.2.mounts := by
    unfold Mounted
    decide +kernel
  exact ⟨rfl, hused, hiff.mpr ⟨hused, fun hmounted => absurd hmounted hfree⟩⟩

/-- On a host without mounts and open mappings, a volume is staged and then unstaged from another
path, and its mapping is closed although it is mounted. -/
theorem mapping_closed_under_mount :
    attachedNode.2.mounts = [] ∧
      (∀ name, attachedNode.2.pathExists (Luks.mapperPath name) = false) ∧
      secretNode.2.mounts =
        [⟨Luks.mapperPath "data", "/staging/data", Setting.defaultFsType, []⟩] ∧
      ClosesInUse ⟨.unstage unstageElsewhere, id⟩ secretNode "data" :=
  ⟨rfl, closed_of_outside (by decide) (by decide +kernel), by decide +kernel, by decide +kernel⟩

end Node

end VolumePlugin
