import VolumePlugin.Proofs.Host.Path

/-! # What commands do to the host in memory

Commands mount nothing, make no link or directory, and change no answers to other commands. -/

namespace VolumePlugin.Host

/-! ## What stays -/

/-- What every command leaves as it is. -/
structure Undisturbed (h h' : Memory) : Prop where
  mounts : h'.mounts = h.mounts
  links : h'.links = h.links
  responses : h'.responses = h.responses
  directories : ∀ path, h'.directories.contains path → h.directories.contains path

/-- No files and no directories appear. -/
structure Fewer (h h' : Memory) : Prop where
  files : ∀ path, h'.files.contains path → h.files.contains path
  directories : ∀ path, h'.directories.contains path → h.directories.contains path

theorem Undisturbed.refl (h : Memory) : Undisturbed h h :=
  ⟨rfl, rfl, rfl, fun _ hp => hp⟩

theorem Undisturbed.trans {h h' h'' : Memory} (hu : Undisturbed h h') (hu' : Undisturbed h' h'') :
    Undisturbed h h'' :=
  ⟨hu'.mounts.trans hu.mounts, hu'.links.trans hu.links, hu'.responses.trans hu.responses,
    fun path hp => hu.directories path (hu'.directories path hp)⟩

theorem Fewer.refl (h : Memory) : Fewer h h :=
  ⟨fun _ hp => hp, fun _ hp => hp⟩

theorem Fewer.trans {h h' h'' : Memory} (hf : Fewer h h') (hf' : Fewer h' h'') : Fewer h h'' :=
  ⟨fun path hp => hf.files path (hf'.files path hp),
    fun path hp => hf.directories path (hf'.directories path hp)⟩

/-- Whether a path is neither a file nor a directory. -/
def Absent (path : String) (h : Memory) : Prop :=
  ¬ h.files.contains path ∧ ¬ h.directories.contains path

theorem Absent.fewer {path : String} {h h' : Memory} (ha : Absent path h) (hf : Fewer h h') :
    Absent path h' :=
  ⟨fun hp => ha.1 (hf.files path hp), fun hp => ha.2 (hf.directories path hp)⟩

theorem undisturbed_removePath (h : Memory) (path : String) : Undisturbed h (h.removePath path) :=
  ⟨rfl, rfl, rfl, fun _ hp => (PathSet.contains_erase.mp hp).2⟩

theorem fewer_removePath (h : Memory) (path : String) : Fewer h (h.removePath path) :=
  ⟨fun _ hp => (PathSet.contains_erase.mp hp).2, fun _ hp => (PathSet.contains_erase.mp hp).2⟩

theorem absent_removePath (h : Memory) (path : String) : Absent path (h.removePath path) := by
  constructor
  · intro hp
    exact (PathSet.contains_erase.mp hp).1 rfl
  · intro hp
    exact (PathSet.contains_erase.mp hp).1 rfl

/-! ## Directories -/

namespace Memory

theorem addDirectories_eq (h : Memory) (path : String) :
    h.addDirectories path =
      { h with directories :=
          ((Path.ancestors path).filter (· ≠ "")).foldl PathSet.insert h.directories } := by
  unfold addDirectories
  induction (Path.ancestors path).filter (· ≠ "") generalizing h with
  | nil => rfl
  | cons up rest ih => exact ih (h.addDirectory up)

theorem contains_foldl_insert {ups : List String} {set : PathSet} {other : String} :
    (ups.foldl PathSet.insert set).contains other ↔
      set.contains other ∨ ∃ up ∈ ups, Path.components up = Path.components other := by
  induction ups generalizing set with
  | nil => simp
  | cons up ups ih =>
      rw [List.foldl_cons, ih, PathSet.contains_insert]
      simp only [List.mem_cons, exists_eq_or_imp]
      tauto

@[simp] theorem mounts_addDirectories (h : Memory) (path : String) :
    (h.addDirectories path).mounts = h.mounts := by
  rw [addDirectories_eq]

@[simp] theorem commands_addDirectories (h : Memory) (path : String) :
    (h.addDirectories path).commands = h.commands := by
  rw [addDirectories_eq]

/-- Directories are made only where a path leads. -/
theorem directories_addDirectories {h : Memory} {path other : String}
    (hother : ¬ Path.Within other path)
    (hmade : (h.addDirectories path).directories.contains other) :
    h.directories.contains other := by
  rw [addDirectories_eq] at hmade
  rcases contains_foldl_insert.mp hmade with hold | ⟨up, hup, heq⟩
  · exact hold
  · have hwithin := Path.within_of_mem_ancestors (List.mem_filter.mp hup).1
    unfold Path.Within at hwithin
    rw [heq] at hwithin
    exact absurd hwithin hother

/-! ## Commands -/

variable {h : Memory} {c : Command}

/-- The host on which a command was run, whatever came of it. -/
def logged (h : Memory) (c : Command) : Memory :=
  { h with commands := h.commands ++ [c] }

theorem run_of_response? {out : CommandOutput} (hout : h.response? c.line = some out) :
    h.run c = (out, { h with commands := h.commands ++ [c] }) := by
  have hlogged : ({ h with commands := h.commands ++ [c] } : Memory).response? c.line = some out :=
    hout
  unfold run
  dsimp only
  rw [hlogged]

theorem run_of_response?_eq_none (hnone : h.response? c.line = none) :
    h.run c = ({ h with commands := h.commands ++ [c] } : Memory).carryOut c := by
  have hlogged : ({ h with commands := h.commands ++ [c] } : Memory).response? c.line = none :=
    hnone
  unfold run
  dsimp only
  rw [hlogged]

theorem response?_congr {h' : Memory} (hsame : h'.responses = h.responses) (line : String) :
    h'.response? line = h.response? line := by
  unfold response?
  rw [hsame]

theorem undisturbed_cryptsetup (h : Memory) (arguments : List String) :
    Undisturbed h (h.cryptsetup arguments).2 := by
  unfold cryptsetup
  split
  · exact ⟨rfl, rfl, rfl, fun _ hp => hp⟩
  · split
    · exact ⟨rfl, rfl, rfl, fun _ hp => hp⟩
    · exact undisturbed_removePath h _
    · exact .refl h
    · exact .refl h

theorem undisturbed_carryOut (h : Memory) (c : Command) : Undisturbed h (h.carryOut c).2 := by
  unfold carryOut
  split
  · split
    · exact .refl h
    · exact .refl h
  · exact undisturbed_cryptsetup h c.arguments
  · exact .refl h

theorem undisturbed_run (h : Memory) (c : Command) : Undisturbed h (h.run c).2 := by
  cases hresponse : h.response? c.line with
  | some out =>
      rw [run_of_response? hresponse]
      exact ⟨rfl, rfl, rfl, fun _ hp => hp⟩
  | none =>
      rw [run_of_response?_eq_none hresponse]
      have hcarried := undisturbed_carryOut { h with commands := h.commands ++ [c] } c
      exact ⟨hcarried.mounts, hcarried.links, hcarried.responses, hcarried.directories⟩

/-- What fails is only the description of a mapping that is not there. -/
theorem success_cryptsetup {arguments : List String}
    (hstatus : ∀ name, arguments ≠ ["status", name]) (h : Memory) :
    (h.cryptsetup arguments).1.success := by
  unfold cryptsetup
  split
  · rfl
  · split
    · rfl
    · rfl
    · exact absurd rfl (hstatus _)
    · rfl

theorem cryptsetup_status (h : Memory) (name : String) :
    h.cryptsetup ["status", name] =
      (if h.files.contains (mapping name) then
          { code := some 0, stdout := s!"{mapping name} is active.\n  type:    LUKS2\n" }
        else { code := some 4, stderr := s!"{mapping name} is inactive." }, h) :=
  rfl

/-- The description of a mapping is all that comes of it. -/
theorem run_status (h : Memory) (name : String) :
    (h.run ⟨"cryptsetup", ["status", name], none⟩).2 =
      { h with commands := h.commands ++ [⟨"cryptsetup", ["status", name], none⟩] } := by
  cases hresponse : h.response? (Command.line ⟨"cryptsetup", ["status", name], none⟩) with
  | some out => rw [run_of_response? hresponse]
  | none =>
      rw [run_of_response?_eq_none hresponse]
      rfl

/-- A host that is asked to close a mapping removes its path, or does nothing. -/
theorem fewer_close (h : Memory) (name : String) :
    Fewer h (h.run ⟨"cryptsetup", ["luksClose", name], none⟩).2 := by
  cases hresponse : h.response? (Command.line ⟨"cryptsetup", ["luksClose", name], none⟩) with
  | some out =>
      rw [run_of_response? hresponse]
      exact ⟨fun _ hp => hp, fun _ hp => hp⟩
  | none =>
      rw [run_of_response?_eq_none hresponse]
      have hfewer := fewer_removePath h (mapping name)
      exact ⟨hfewer.files, hfewer.directories⟩

end Memory

end VolumePlugin.Host
