import VolumePlugin.Device
import VolumePlugin.Proofs.Host.Failures
import VolumePlugin.Proofs.Node.Questions

/-! # Looking for devices

A service looks for one device after the other, on a host that changes in between and whose commands
do what they like. It has the host look at a disk again when it first misses a device while the disk
is there, and never again after that. -/

namespace VolumePlugin.Device

open Host (Call Command Query Work answerQuery freshDisks)
open Prog (Asks)

/-! ## Disks that are met for the first time -/

/-- One more disk is met for the first time unless it was known or is in the list already. -/
theorem freshDisks_concat (known disks : List String) (disk : String) :
    freshDisks known (disks ++ [disk]) =
      if disk ∈ known ++ freshDisks known disks then freshDisks known disks
      else freshDisks known disks ++ [disk] := by
  simp [freshDisks]

theorem nodup_append_freshDisks {known : List String} (h : known.Nodup) (disks : List String) :
    (known ++ freshDisks known disks).Nodup := by
  induction disks using List.reverseRecOn with
  | nil => simpa [freshDisks] using h
  | append_singleton disks disk ih =>
      rw [freshDisks_concat]
      split
      · exact ih
      · next hnew =>
          rw [← List.append_assoc, ← List.concat_eq_append]
          exact ih.concat hnew

theorem mem_append_freshDisks (known : List String) {disks : List String} {disk : String}
    (h : disk ∈ disks) : disk ∈ known ++ freshDisks known disks := by
  induction disks using List.reverseRecOn with
  | nil => cases h
  | append_singleton disks last ih =>
      rw [freshDisks_concat]
      split
      · next hlast =>
          rcases List.mem_append.mp h with h | h
          · exact ih h
          · exact List.mem_singleton.mp h ▸ hlast
      · rw [← List.append_assoc]
        exact List.mem_append.mpr ((List.mem_append.mp h).imp_left ih)

/-! ## What is seen of a host -/

section Hosts

variable {σ α β : Type} (answer : (c : Call) → σ → c.Answer × σ)

/-- A host that does not change when its files are looked at. What its commands answer, and what
they do, is left open. -/
structure Inspectable : Prop where
  pathExists (path : String) (s : σ) : (answer (.pathExists path) s).2 = s
  resolveLinks (path : String) (s : σ) : (answer (.resolveLinks path) s).2 = s
  glob (pattern : String) (s : σ) : (answer (.glob pattern) s).2 = s

def there (s : σ) (path : String) : Bool :=
  (answer (.pathExists path) s).1

/-- What a path leads to, or the path itself if that cannot be found out. -/
def leadsTo (s : σ) (path : String) : String :=
  match (answer (.resolveLinks path) s).1 with
  | .ok device => device
  | .error _ => path

/-- The disks that the host shows, none if it cannot list them. -/
def disks (s : σ) : List String :=
  match (answer (.glob "/dev/sd*") s).1 with
  | .ok disks => disks
  | .error _ => []

/-- The host after commands. -/
def afterCommands (commands : List Command) (s : σ) : σ :=
  commands.foldl (fun s c => (answer (.run c) s).2) s

/-- The commands that work runs, in order. -/
def commandsOf (work : Work α) (s : List String × σ) : List Command :=
  (work.asked (answerQuery answer) s).filterMap fun
    | .call (.run c) => some c
    | _ => none

/-- A search for the first of some paths that exists, and what becomes of the host before it. -/
structure Search (σ : Type) where
  change : σ → σ
  paths : List String

namespace Search

/-- What a search finds, with the disks that are known and the host after it. -/
def outcome (a : Search σ) (s : List String × σ) : Option String × (List String × σ) :=
  (verify a.paths).run (answerQuery answer) (s.1, a.change s.2)

def commands (a : Search σ) (s : List String × σ) : List Command :=
  commandsOf answer (verify a.paths) (s.1, a.change s.2)

end Search

def after (s : List String × σ) (searches : List (Search σ)) : List String × σ :=
  searches.foldl (fun s a => (a.outcome answer s).2) s

/-- The commands that all searches run, in order. -/
def allCommands : List String × σ → List (Search σ) → List Command
  | _, [] => []
  | s, a :: rest => a.commands answer s ++ allCommands (a.outcome answer s).2 rest

variable {answer}

theorem commandsOf_bind (work : Work α) (f : α → Work β) (s : List String × σ) :
    commandsOf answer (work.bind f) s =
      commandsOf answer work s ++ commandsOf answer (f (work.run (answerQuery answer) s).1)
        (work.run (answerQuery answer) s).2 := by
  simp only [commandsOf, Prog.asked_bind, List.filterMap_append]

theorem commandsOf_of_commandless {work : Work α} (h : Asks Host.Commandless work)
    (s : List String × σ) : commandsOf answer work s = [] := by
  refine List.filterMap_eq_nil_iff.mpr fun q hq => ?_
  have hkind := h.of_mem_asked hq
  split
  · exact hkind.elim
  · rfl

theorem run_ask (c : Call) (known : List String) (s : σ) :
    (Host.ask c).run (answerQuery answer) (known, s) =
      ((answer c s).1, (known, (answer c s).2)) := rfl

/-! ## Looking at disks again -/

theorem run_trigger (fresh known : List String) (s : σ) :
    (trigger fresh).run (answerQuery answer) (known, s) =
      ((), (known, afterCommands answer (fresh.map triggerCommand) s)) := by
  induction fresh generalizing s with
  | nil => rfl
  | cons disk rest ih =>
      unfold trigger
      rw [Prog.bind_eq, Prog.run_bind, run_ask, ih]
      rfl

theorem commandsOf_trigger (fresh known : List String) (s : σ) :
    commandsOf answer (trigger fresh) (known, s) = fresh.map triggerCommand := by
  induction fresh generalizing s with
  | nil => rfl
  | cons disk rest ih =>
      unfold trigger
      rw [Prog.bind_eq, commandsOf_bind, run_ask, ih]
      rfl

theorem triggerCommand_eq (disk : String) :
    triggerCommand disk =
      { program := "udevadm"
        arguments := ["trigger", "--action=change", "--property-match=DEVNAME=" ++ disk] } := rfl

theorem triggerCommand_inj {disk disk' : String} (h : triggerCommand disk = triggerCommand disk') :
    disk = disk' := by
  have harguments : toString disk = toString disk' := by
    simpa [triggerCommand] using congrArg Command.arguments h
  exact harguments

/-! ## One search -/

theorem commandless_firstExisting (paths : List String) :
    Asks Host.Commandless (firstExisting paths) :=
  asks_firstExisting (fun _ => trivial) (fun _ => trivial) paths

section Searching

variable (hinspect : Inspectable answer)

include hinspect

theorem run_findExisting (paths known : List String) (s : σ) :
    (findExisting paths).run (answerQuery answer) (known, s) =
      (paths.find? (there answer s), (known, s)) := by
  induction paths with
  | nil => rfl
  | cons path rest ih =>
      unfold findExisting
      rw [Prog.bind_eq, Prog.run_bind, run_ask, hinspect.pathExists]
      change (if there answer s path then _ else _ : Work _).run _ _ = _
      cases hpath : there answer s path with
      | true =>
          rw [List.find?_cons_of_pos hpath]
          rfl
      | false =>
          rw [List.find?_cons_of_neg (by simp [hpath])]
          exact ih

theorem run_firstExisting (paths known : List String) (s : σ) :
    (firstExisting paths).run (answerQuery answer) (known, s) =
      ((paths.find? (there answer s)).map (leadsTo answer s), (known, s)) := by
  unfold firstExisting
  rw [Prog.bind_eq, Prog.run_bind, run_findExisting hinspect]
  cases paths.find? (there answer s) with
  | none => rfl
  | some path =>
      dsimp only
      rw [Prog.bind_eq, Prog.run_bind, run_ask, hinspect.resolveLinks, Option.map_some, leadsTo]
      cases (answer (.resolveLinks path) s).1 <;> rfl

theorem run_triggerNew (known : List String) (s : σ) :
    let fresh := freshDisks known (disks answer s)
    triggerNew.run (answerQuery answer) (known, s) =
        ((), (known ++ fresh, afterCommands answer (fresh.map triggerCommand) s)) ∧
      commandsOf answer triggerNew (known, s) = fresh.map triggerCommand := by
  intro fresh
  have hpattern : diskPattern = "/dev/sd*" := rfl
  unfold triggerNew
  rw [Prog.bind_eq, Prog.run_bind, commandsOf_bind, run_ask, hpattern, hinspect.glob]
  cases hlisted : (answer (.glob "/dev/sd*") s).1 with
  | error e =>
      have hfresh : fresh = [] := by simp [fresh, disks, hlisted, freshDisks]
      rw [hfresh, List.append_nil]
      exact ⟨rfl, rfl⟩
  | ok listed =>
      have hfresh : fresh = freshDisks known listed := by simp only [fresh, disks, hlisted]
      rw [hfresh]
      exact ⟨run_trigger .., commandsOf_trigger ..⟩

theorem verify_of_there {paths : List String} {s : σ} {path : String}
    (hfirst : paths.find? (there answer s) = some path) (known : List String) :
    (verify paths).run (answerQuery answer) (known, s) =
        (some (leadsTo answer s path), (known, s)) ∧
      commandsOf answer (verify paths) (known, s) = [] := by
  have hrun := run_firstExisting hinspect paths known s
  rw [hfirst, Option.map_some] at hrun
  unfold verify
  rw [Prog.bind_eq, Prog.run_bind, commandsOf_bind,
    commandsOf_of_commandless (commandless_firstExisting paths), hrun]
  exact ⟨rfl, rfl⟩

/-- A search that misses has the host look at the disks that are new, and then looks once more. -/
theorem verify_of_missing {paths : List String} {s : σ}
    (hmissing : paths.find? (there answer s) = none) (known : List String) :
    let fresh := freshDisks known (disks answer s)
    let later := afterCommands answer (fresh.map triggerCommand) s
    (verify paths).run (answerQuery answer) (known, s) =
        ((paths.find? (there answer later)).map (leadsTo answer later), (known ++ fresh, later)) ∧
      commandsOf answer (verify paths) (known, s) = fresh.map triggerCommand := by
  intro fresh later
  have hrun := run_firstExisting hinspect paths known s
  rw [hmissing, Option.map_none] at hrun
  obtain ⟨htriggered, hcommands⟩ := run_triggerNew hinspect known s
  unfold verify
  rw [Prog.bind_eq, Prog.run_bind, commandsOf_bind,
    commandsOf_of_commandless (commandless_firstExisting paths), hrun]
  dsimp only
  rw [Prog.bind_eq, Prog.run_bind, commandsOf_bind, htriggered, hcommands,
    run_firstExisting hinspect, commandsOf_of_commandless (commandless_firstExisting paths),
    List.nil_append, List.append_nil]
  exact ⟨rfl, rfl⟩

end Searching

/-! ## One search after the other -/

theorem allCommands_concat (s : List String × σ) (past : List (Search σ)) (a : Search σ) :
    allCommands answer s (past ++ [a]) =
      allCommands answer s past ++ a.commands answer (after answer s past) := by
  induction past generalizing s with
  | nil => simp [allCommands, after]
  | cons first rest ih =>
      rw [List.cons_append, allCommands, ih, allCommands, List.append_assoc]
      rfl

/-- The known disks are those that the host was told to look at, each of them once. -/
structure Told (s : List String × σ) (commands : List Command) : Prop where
  commands_eq : commands = s.1.map triggerCommand
  nodup : s.1.Nodup

section Run

variable (hinspect : Inspectable answer)

include hinspect

/-- All that a search can do: it finds something at once, or has the host look at new disks. -/
theorem Search.outcome_cases (a : Search σ) (s : List String × σ) :
    (∃ path, a.paths.find? (there answer (a.change s.2)) = some path ∧
      a.outcome answer s = (some (leadsTo answer (a.change s.2) path), (s.1, a.change s.2)) ∧
      a.commands answer s = []) ∨
    (a.paths.find? (there answer (a.change s.2)) = none ∧
      ∃ later, later = afterCommands answer (a.commands answer s) (a.change s.2) ∧
        a.outcome answer s = ((a.paths.find? (there answer later)).map (leadsTo answer later),
          (s.1 ++ freshDisks s.1 (disks answer (a.change s.2)), later)) ∧
        a.commands answer s =
          (freshDisks s.1 (disks answer (a.change s.2))).map triggerCommand) := by
  cases hfirst : a.paths.find? (there answer (a.change s.2)) with
  | some path => exact .inl ⟨path, rfl, verify_of_there hinspect hfirst s.1⟩
  | none =>
      obtain ⟨hrun, hcommands⟩ := verify_of_missing hinspect hfirst s.1
      exact .inr ⟨rfl, _, rfl, by rw [Search.commands, hcommands]; exact hrun, hcommands⟩

theorem Told.outcome {s : List String × σ} {commands : List Command} (h : Told s commands)
    (a : Search σ) : Told (a.outcome answer s).2 (commands ++ a.commands answer s) := by
  obtain ⟨path, -, hrun, hcommands⟩ | ⟨-, later, -, hrun, hcommands⟩ := a.outcome_cases hinspect s
  · rw [hrun, hcommands, List.append_nil]
    exact ⟨h.commands_eq, h.nodup⟩
  · rw [hrun, hcommands, h.commands_eq, ← List.map_append]
    exact ⟨rfl, nodup_append_freshDisks h.nodup _⟩

/-- What a service knows and what it has told the host go together from the first search on. -/
theorem told_after (s : σ) (searches : List (Search σ)) :
    Told (after answer ([], s) searches) (allCommands answer ([], s) searches) := by
  induction searches using List.reverseRecOn with
  | nil => exact ⟨rfl, List.nodup_nil⟩
  | append_singleton past a ih =>
      rw [allCommands_concat, after, List.foldl_concat]
      exact ih.outcome hinspect a

/-- What a search finds is what is there when it ends. -/
theorem Search.outcome_eq (a : Search σ) (s : List String × σ) :
    let later := afterCommands answer (a.commands answer s) (a.change s.2)
    (a.outcome answer s).1 = (a.paths.find? (there answer later)).map (leadsTo answer later) ∧
      (a.outcome answer s).2.2 = later := by
  obtain ⟨path, hfirst, hrun, hcommands⟩ | ⟨-, later, rfl, hrun, -⟩ := a.outcome_cases hinspect s
  · rw [hrun, hcommands]
    exact ⟨(congrArg (Option.map _) hfirst).symm, rfl⟩
  · rw [hrun]
    exact ⟨rfl, rfl⟩

theorem Search.commands_of_there {a : Search σ} {s : List String × σ}
    (h : ∃ path ∈ a.paths, there answer (a.change s.2) path = true) : a.commands answer s = [] := by
  obtain ⟨-, -, -, hcommands⟩ | ⟨hmissing, -⟩ := a.outcome_cases hinspect s
  · exact hcommands
  · obtain ⟨path, hpath, hthere⟩ := h
    exact absurd hthere (List.find?_eq_none.mp hmissing path hpath)

theorem Search.mem_known_of_missing {a : Search σ} {s : List String × σ}
    (h : ∀ path ∈ a.paths, there answer (a.change s.2) path = false) {disk : String}
    (hdisk : disk ∈ disks answer (a.change s.2)) : disk ∈ (a.outcome answer s).2.1 := by
  obtain ⟨path, hfirst, -⟩ | ⟨-, later, -, hrun, -⟩ := a.outcome_cases hinspect s
  · have hthere : there answer (a.change s.2) path = true := List.find?_some hfirst
    rw [h path (List.mem_of_find?_eq_some hfirst)] at hthere
    cases hthere
  · rw [hrun]
    exact mem_append_freshDisks s.1 hdisk

end Run

/-- Of whatever host is searched for devices, and whatever its commands do, `udevadm` is run for no
disk twice, and nothing else is run. A search finds what the first path that exists leads to when it
ends, and nothing only if none of the paths exists then. Where one exists at once, no command is
run, so the host is as it was. Where none does, `udevadm` has been run for every disk that is there
when the search ends. -/
theorem disks_triggered_once (hinspect : Inspectable answer) (s : σ) (searches : List (Search σ)) :
    let triggers (disk : String) : Command :=
      { program := "udevadm"
        arguments := ["trigger", "--action=change", "--property-match=DEVNAME=" ++ disk] }
    (allCommands answer ([], s) searches).Nodup ∧
    (∀ c ∈ allCommands answer ([], s) searches, ∃ disk, c = triggers disk) ∧
    ∀ past search future, searches = past ++ search :: future →
      let state := after answer ([], s) past
      let before := search.change state.2
      let commands := search.commands answer state
      let later := afterCommands answer commands before
      let found := (search.outcome answer state).1
      (search.outcome answer state).2.2 = later ∧
      found = (search.paths.find? (there answer later)).map (leadsTo answer later) ∧
      (found = none ↔ ∀ path ∈ search.paths, there answer later path = false) ∧
      ((∃ path ∈ search.paths, there answer before path = true) → commands = [] ∧ later = before) ∧
      ((∀ path ∈ search.paths, there answer before path = false) →
        ∀ disk ∈ disks answer before,
          triggers disk ∈ allCommands answer ([], s) (past ++ [search])) := by
  intro triggers
  have htold := told_after hinspect s searches
  refine ⟨?_, ?_, ?_⟩
  · rw [htold.commands_eq]
    exact htold.nodup.map fun _ _ => triggerCommand_inj
  · intro c hc
    rw [htold.commands_eq] at hc
    obtain ⟨disk, -, rfl⟩ := List.mem_map.mp hc
    exact ⟨disk, triggerCommand_eq disk⟩
  · intro past search future _ state before commands later found
    obtain ⟨hfound, hlater⟩ := search.outcome_eq hinspect state
    refine ⟨hlater, hfound, ?_, fun hthere => ?_, fun hmissing disk hdisk => ?_⟩
    · change (search.outcome answer state).1 = none ↔ _
      rw [hfound, Option.map_eq_none_iff, List.find?_eq_none]
      simp only [Bool.not_eq_true]
      rfl
    · have hquiet := Search.commands_of_there hinspect hthere
      refine ⟨hquiet, ?_⟩
      change afterCommands answer (search.commands answer state) before = before
      rw [hquiet]
      rfl
    · -- The disks that are told of now are the known ones after the search, whoever told of them.
      have hafter : after answer ([], s) (past ++ [search]) = (search.outcome answer state).2 :=
        List.foldl_concat ..
      have hknown := Search.mem_known_of_missing hinspect hmissing hdisk
      have htrigger : triggers disk = triggerCommand disk := (triggerCommand_eq disk).symm
      rw [htrigger, (told_after hinspect s (past ++ [search])).commands_eq, hafter]
      exact List.mem_map_of_mem hknown

end Hosts

theorem inspectable_memory : Inspectable Host.Memory.answer :=
  ⟨fun _ _ => rfl, fun _ _ => rfl, fun _ _ => rfl⟩

/-- A host in memory on which the link of a device comes about when a disk is looked at. -/
def attentive : (c : Call) → Host.Memory → c.Answer × Host.Memory
  | .run c, h =>
    (.ok (h.run c).1, (h.run c).2.addLink "/dev/disk/by-id/linode-plate" "/dev/sdb")
  | c, h => Host.Memory.answer c h

/-- A device is found after two disks are looked at, then at once, and a third disk is no help to
find another device. -/
def plateSearches : List (Search Host.Memory) :=
  [⟨id, candidates "plate" none⟩, ⟨id, candidates "plate" none⟩,
    ⟨fun h => h.addFile "/dev/sdc", candidates "cup" none⟩]

def twoDisks : Host.Memory :=
  (Host.Memory.addFile {} "/dev/sda").addFile "/dev/sdb"

/-- The second search of the three runs no command, and no disk is looked at by two of them. -/
theorem disks_triggered_once_attentive :
    Inspectable attentive ∧
      (allCommands attentive ([], twoDisks) plateSearches).Nodup ∧
      allCommands attentive ([], twoDisks) plateSearches =
        [⟨"udevadm", ["trigger", "--action=change", "--property-match=DEVNAME=/dev/sda"], none⟩,
          ⟨"udevadm", ["trigger", "--action=change", "--property-match=DEVNAME=/dev/sdb"], none⟩,
          ⟨"udevadm", ["trigger", "--action=change", "--property-match=DEVNAME=/dev/sdc"], none⟩] ∧
      (plateSearches[0].outcome attentive ([], twoDisks)).1 = some "/dev/sdb" ∧
      (∃ path ∈ plateSearches[1].paths,
        there attentive (after attentive ([], twoDisks) (plateSearches.take 1)).2 path = true) ∧
      plateSearches[1].commands attentive
        (after attentive ([], twoDisks) (plateSearches.take 1)) = [] := by
  have hinspect : Inspectable attentive :=
    ⟨inspectable_memory.pathExists, inspectable_memory.resolveLinks, inspectable_memory.glob⟩
  obtain ⟨hnodup, -, hsearch⟩ := disks_triggered_once hinspect twoDisks plateSearches
  obtain ⟨-, hfirst, -⟩ := hsearch [] _ _ rfl
  obtain ⟨-, -, -, hthere, -⟩ := hsearch [plateSearches[0]] _ _ rfl
  have hlink : ∃ path ∈ plateSearches[1].paths,
      there attentive (after attentive ([], twoDisks) (plateSearches.take 1)).2 path = true := by
    decide +kernel
  exact ⟨hinspect, hnodup, by decide +kernel, hfirst.trans (by decide +kernel), hlink,
    (hthere hlink).1⟩

end VolumePlugin.Device
