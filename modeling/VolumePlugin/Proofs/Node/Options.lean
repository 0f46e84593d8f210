import VolumePlugin.Mounts.Options
import VolumePlugin.Proofs.Node.Serving

/-! # The options of mounts

What a list of options means is put together from what its options mean. A path that is published is
bound with the options of the request before those of the capability, and no option takes back what
another one asks for. -/

namespace VolumePlugin.Mounts

/-! ## Flags -/

namespace Flags

theorem union_assoc (f g h : Flags) : (f.union g).union h = f.union (g.union h) := by
  simp [union, Bool.or_assoc]

theorem union_comm (f g : Flags) : f.union g = g.union f := by
  simp [union, Bool.or_comm]

theorem union_self (f : Flags) : f.union f = f := by
  simp [union]

theorem empty_union (f : Flags) : union {} f = f := by
  simp [union]

theorem union_empty (f : Flags) : f.union {} = f := by
  simp [union]

end Flags

theorem flags_append (a b : List String) : flags (a ++ b) = (flags a).union (flags b) := by
  rw [flags, flags, flags, List.filterMap_append]
  induction a.filterMap flagsOf? with
  | nil => exact (Flags.empty_union _).symm
  | cons f fs ih => rw [List.cons_append, List.foldr_cons, ih, List.foldr_cons, Flags.union_assoc]

theorem flags_cons (o : String) (a : List String) : flags (o :: a) = (flags [o]).union (flags a) :=
  flags_append [o] a

/-- An option adds nothing to a list that has it. -/
theorem flags_union_of_mem {o : String} {a : List String} (h : o ∈ a) :
    (flags [o]).union (flags a) = flags a := by
  induction a with
  | nil => cases h
  | cons p rest ih =>
      rw [flags_cons p]
      rcases List.mem_cons.mp h with rfl | h
      · rw [← Flags.union_assoc, Flags.union_self]
      · rw [← Flags.union_assoc, Flags.union_comm (flags [o]), Flags.union_assoc, ih h]

theorem flags_union_of_subset {a b : List String} (h : a ⊆ b) :
    (flags a).union (flags b) = flags b := by
  induction a with
  | nil => exact Flags.empty_union _
  | cons o rest ih =>
      rw [List.cons_subset] at h
      rw [flags_cons, Flags.union_assoc, ih h.2, flags_union_of_mem h.1]

/-- Neither the order of options nor their repetition changes the flags. -/
theorem flags_eq_of_mem_iff {a b : List String} (h : ∀ o, o ∈ a ↔ o ∈ b) : flags a = flags b := by
  have hab : (flags a).union (flags b) = flags b := flags_union_of_subset fun o => (h o).mp
  have hba : (flags b).union (flags a) = flags a := flags_union_of_subset fun o => (h o).mpr
  rw [← hab, Flags.union_comm, hba]

/-- A flag is set if and only if one of the options sets it. -/
theorem flags_set_iff (isSet : Flags → Bool) (hnone : isSet {} = false)
    (hunion : ∀ f g, isSet (f.union g) = (isSet f || isSet g)) (options : List String) :
    isSet (flags options) = true ↔ ∃ o ∈ options, isSet (flags [o]) = true := by
  induction options with
  | nil => simpa [flags] using hnone
  | cons o rest ih =>
      rw [flags_cons, hunion, Bool.or_eq_true, ih]
      simp

theorem flags_singleton (o : String) : flags [o] = (flagsOf? o).getD {} := by
  cases h : flagsOf? o with
  | none => simp [flags, h]
  | some f => simp [flags, h, Flags.union_empty]

theorem readOnly_flags_iff (options : List String) :
    (flags options).readOnly = true ↔ "ro" ∈ options := by
  have hone : ∀ o, (flags [o]).readOnly = true ↔ o = "ro" := by
    intro o
    rw [flags_singleton]
    unfold flagsOf?
    split <;> simp_all
  rw [flags_set_iff Flags.readOnly rfl fun _ _ => rfl]
  simp [hone]

theorem bind_flags_of_mem {options : List String} (h : "bind" ∈ options) :
    (flags options).bind = true :=
  (flags_set_iff Flags.bind rfl (fun _ _ => rfl) options).mpr ⟨"bind", h, rfl⟩

/-! ## Data -/

/-- Parts of what is handed to a file system, taken together. -/
def joined : List String → Option String
  | [] => none
  | parts => some (",".intercalate parts)

theorem data?_eq_joined (options : List String) : data? options = joined (unknownOptions options) :=
  rfl

theorem joined_append (a b : List String) :
    joined (a ++ b) = joined ((joined a).toList ++ (joined b).toList) := by
  match a, b with
  | [], [] => rfl
  | [], o :: rest => simp [joined]
  | o :: rest, [] => simp [joined]
  | o :: rest, o' :: rest' =>
      have hparts : ",".intercalate ((o :: rest) ++ (o' :: rest')) =
          ",".intercalate (o :: rest) ++ "," ++ ",".intercalate (o' :: rest') :=
        String.intercalate_append_of_ne_nil (List.cons_ne_nil _ _) (List.cons_ne_nil _ _)
      rw [List.cons_append] at hparts
      simp [joined, hparts]

theorem data?_append (a b : List String) :
    data? (a ++ b) = joined ((data? a).toList ++ (data? b).toList) := by
  have happend : unknownOptions (a ++ b) = unknownOptions a ++ unknownOptions b :=
    List.filter_append ..
  rw [data?_eq_joined, happend, joined_append]
  rfl

end VolumePlugin.Mounts

namespace VolumePlugin.Node

open Host (Memory Mount Mounted Query)
open Mounts (flags)
open Prog (Asks Either)

/-! ## Bound paths -/

/-- Whether options bind a path, and forbid to write to it where the request or the capability does
so and nowhere else. -/
structure Binds (req : NodePublishVolumeRequest) (cap : VolumeCapability) (options : List String) :
    Prop where
  bind : (flags options).bind = true
  readOnly : (flags options).readOnly = true ↔ req.readonly = true ∨ "ro" ∈ cap.mountFlags

theorem binds_publishOptions (req : NodePublishVolumeRequest) (cap : VolumeCapability) :
    Binds req cap (publishOptions req cap) := by
  unfold publishOptions bindOptions
  refine ⟨Mounts.bind_flags_of_mem ?_, ?_⟩
  · split <;> simp
  · rw [Mounts.readOnly_flags_iff]
    split <;> simp [*]

/-- Whether a question is about no mount but one. -/
def MountsOnly (m : Mount) : Query → Prop
  | .call (.mount m') => m' = m
  | .call (.formatAndMount _) => False
  | _ => True

/-- A request for a file system has nothing mounted but the staging path. -/
theorem mountsOnly_publish {req : NodePublishVolumeRequest} {cap : VolumeCapability}
    (hcap : req.volumeCapability = some cap) (hblock : cap.isBlock = false) :
    Asks (MountsOnly ⟨req.stagingTargetPath, req.targetPath, "", publishOptions req cap⟩)
      (publish req).run := by
  unfold publish
  cases hreq : publishing req with
  | error e => trivial
  | ok given =>
      obtain rfl : given = cap := Option.some.inj ((publishing_eq_ok hreq).2.symm.trans hcap)
      refine Host.asks_locked trivial trivial
        (Asks.bind_run (Host.asks_ask trivial) fun mounted => ?_)
      split
      · trivial
      · rw [hblock]
        have hdirectories : Asks (MountsOnly ⟨req.stagingTargetPath, req.targetPath, "",
            publishOptions req given⟩) (makeDirectories req.targetPath).run :=
          Host.asks_demand (Host.asks_ask trivial) _
        have hmount : Asks (MountsOnly ⟨req.stagingTargetPath, req.targetPath, "",
            publishOptions req given⟩) (publishMount req given).run :=
          hdirectories.bind_run fun _ => Host.asks_ask rfl
        exact hmount.bind_run fun _ => trivial

theorem Moves.binds {req : NodePublishVolumeRequest} {cap : VolumeCapability} {ms ms' : List Mount}
    (h : Moves (.publish req) ms ms') (hcap : req.volumeCapability = some cap)
    (hblock : cap.isBlock = false) :
    (Mounted req.targetPath ms ∧ ms' = ms) ∨
      ∃ m, ms' = ms ++ [m] ∧ m.target = req.targetPath ∧ Binds req cap m.options := by
  cases h with
  | published hcap' =>
      obtain rfl := Option.some.inj (hcap'.symm.trans hcap)
      exact .inr ⟨_, rfl, rfl, binds_publishOptions req _⟩
  | publishedBlock device hcap' hblock' =>
      obtain rfl := Option.some.inj (hcap'.symm.trans hcap)
      rw [hblock] at hblock'
      cases hblock'
  | publishedBefore hmounted => exact .inl ⟨hmounted, rfl⟩

/-- Options mean what their parts mean together, whatever their order is. So a file system is always
bound to the path of a workload, read-only if and only if the request or the capability says so. -/
theorem options_compose :
    (∀ a b, flags (a ++ b) = (flags a).union (flags b) ∧
      Mounts.data? (a ++ b) = Mounts.joined ((Mounts.data? a).toList ++ (Mounts.data? b).toList)) ∧
    (∀ a b, (∀ o, o ∈ a ↔ o ∈ b) → flags a = flags b) ∧
    ∀ req cap, req.volumeCapability = some cap → cap.isBlock = false →
      (∀ {σ : Type} (answer : (q : Query) → σ → q.Answer × σ) (s : σ) (m : Mount),
        .call (.mount m) ∈ (publish req).run.asked answer s → Binds req cap m.options) ∧
      ∀ (change : Memory → Memory) (s : State),
        Either
          (fun _ s' => (Mounted req.targetPath s.2.mounts ∧ s'.2.mounts = s.2.mounts) ∨
            ∃ m, s'.2.mounts = s.2.mounts ++ [m] ∧ m.target = req.targetPath ∧
              Binds req cap m.options)
          (fun _ s' => s'.2.mounts = s.2.mounts)
          ((⟨.publish req, change⟩ : Arrival).outcome s).1
          ((⟨.publish req, change⟩ : Arrival).outcome s).2 := by
  refine ⟨fun a b => ⟨Mounts.flags_append a b, Mounts.data?_append a b⟩,
    fun _ _ => Mounts.flags_eq_of_mem_iff, fun req cap hcap hblock => ⟨?_, ?_⟩⟩
  · intro σ answer s m hm
    obtain rfl := (mountsOnly_publish hcap hblock).of_mem_asked hm
    exact binds_publishOptions req cap
  · intro change s
    exact ((⟨.publish req, change⟩ : Arrival).outcome_mounts s).imp
      (fun _ hmoves => hmoves.binds hcap hblock) fun _ hsame => hsame

/-- A volume that may be written to, except that its capability says otherwise. -/
def archiveCap : VolumeCapability :=
  { accessType := some (.mount { mountFlags := ["noatime", "ro", "rw", "discard"] }) }

def publishArchive : NodePublishVolumeRequest :=
  { volumeId := "7-archive", stagingTargetPath := "/staging/archive", targetPath := "/pods/web",
    volumeCapability := some archiveCap }

def archiveMount : Mount :=
  ⟨"/staging/archive", "/pods/web", "", ["bind", "noatime", "ro", "rw", "discard"]⟩

theorem options_of_archive :
    publishArchive.volumeCapability = some archiveCap ∧ archiveCap.isBlock = false ∧
      .call (.mount archiveMount) ∈
        (publish publishArchive).run.asked (Host.answerQuery Memory.answer) ([], {}) ∧
      Binds publishArchive archiveCap archiveMount.options ∧
      Mounts.data? archiveMount.options = some "discard" := by
  have hasked : .call (.mount archiveMount) ∈
      (publish publishArchive).run.asked (Host.answerQuery Memory.answer) ([], {}) := by
    decide +kernel
  have hbinds := (options_compose.2.2 publishArchive archiveCap rfl rfl).1
    (Host.answerQuery Memory.answer) ([], {}) archiveMount hasked
  exact ⟨rfl, rfl, hasked, hbinds, by decide⟩

end VolumePlugin.Node
