import VolumePlugin.Luks
import VolumePlugin.Proofs.Host.Answers

/-! # Mappings of encrypted devices

A mapping is known by the label of its volume. If the label is a plain name, the name of the mapping
can be read off its path, so who finds the path mounted can close the mapping. -/

namespace VolumePlugin.Luks

open Host (Absent Answers Command Fewer Job Memory Undisturbed)
open Prog (Delivers Either Ensures)

/-! ## Names -/

/-- Whether a name consists of letters, digits and underscores. -/
def Plain (name : String) : Prop :=
  name ≠ "" ∧ ∀ c ∈ name.toList, c.isAlphanum ∨ c = '_'

instance (name : String) : Decidable (Plain name) :=
  decidable_of_iff (name ≠ "" ∧ name.toList.all fun c => c.isAlphanum || c = '_') (by simp [Plain])

theorem Plain.not_mem {name : String} (h : Plain name) {c : Char} (hc : c.isAlphanum = false)
    (hne : c ≠ '_') : c ∉ name.toList := by
  intro hmem
  rcases h.2 c hmem with halpha | heq
  · rw [hc] at halpha
    cases halpha
  · exact hne heq

theorem toList_mapperPath (name : String) :
    (mapperPath name).toList =
      '/' :: ("dev".toList ++ '/' :: ("mapper".toList ++ '/' :: name.toList)) := by
  change (mapperDirectory ++ "/" ++ name).toList = _
  rw [String.toList_append, String.toList_append]
  rfl

theorem mapping_eq_mapperPath (name : String) : Memory.mapping name = mapperPath name := by
  apply String.toList_inj.mp
  rw [toList_mapperPath]
  change ("/dev/mapper/" ++ name).toList = _
  rw [String.toList_append]
  rfl

theorem Plain.step {name : String} (h : Plain name) : Host.Path.Step name := by
  have hdot : '.' ∉ name.toList := h.not_mem (by decide) (by decide)
  refine ⟨h.not_mem (by decide) (by decide), fun hmem => ?_⟩
  simp only [List.mem_cons, List.not_mem_nil, or_false] at hmem
  rcases hmem with heq | heq | heq
  · exact h.1 heq
  · simp [heq] at hdot
  · simp [heq] at hdot

/-- All mappings lie in one directory, whatever their names are. -/
theorem components_mapperPath_eq (name : String) :
    Host.Path.components (mapperPath name) =
      [.root, .named "dev".toList, .named "mapper".toList] ++
        (Text.pieces '/' name.toList).filterMap Host.Component.ofSegment? := by
  have hpieces : Text.pieces '/' ("dev".toList ++ '/' :: ("mapper".toList ++ '/' :: name.toList)) =
      "dev".toList :: "mapper".toList :: Text.pieces '/' name.toList := by
    rw [Text.pieces_append (by decide), Text.pieces_append (by decide)]
  unfold Host.Path.components
  rw [toList_mapperPath]
  change [Host.Component.root] ++
    (Text.pieces '/' ("dev".toList ++ '/' :: ("mapper".toList ++ '/' :: name.toList))).filterMap
      Host.Component.ofSegment? = _
  rw [hpieces]
  rfl

theorem components_mapperPath {name : String} (h : Host.Path.Step name) :
    Host.Path.components (mapperPath name) =
      [.root, .named "dev".toList, .named "mapper".toList, .named name.toList] := by
  rw [components_mapperPath_eq, Text.pieces_of_not_mem h.slash,
    List.filterMap_cons_some h.ofSegment?]
  rfl

theorem fileName?_mapperPath {name : String} (h : Host.Path.Step name) :
    Host.Path.fileName? (mapperPath name) = some name := by
  unfold Host.Path.fileName?
  rw [components_mapperPath h]
  simp

theorem parent?_mapperPath {name : String} (h : Host.Path.Step name) :
    Host.Path.parent? (mapperPath name) = some mapperDirectory := by
  have hpieces : Text.pieces '/' ("dev".toList ++ '/' :: ("mapper".toList ++ '/' :: name.toList)) =
      ["dev".toList, "mapper".toList, name.toList] := by
    rw [Text.pieces_append (by decide), Text.pieces_append (by decide),
      Text.pieces_of_not_mem h.slash]
  have htrim : Host.Path.trimSegments ["dev".toList, "mapper".toList, name.toList] =
      ["dev".toList, "mapper".toList, name.toList] := by
    simp [Host.Path.trimSegments, h.ofSegment?]
  have hstart : Host.Path.splitStart (mapperPath name).toList =
      (['/'], "dev".toList ++ '/' :: ("mapper".toList ++ '/' :: name.toList)) := by
    rw [toList_mapperPath]
    rfl
  unfold Host.Path.parent?
  rw [hstart]
  dsimp only
  rw [hpieces, htrim]
  change some (String.ofList (['/'] ++ ['/'].intercalate
    (Host.Path.trimSegments ["dev".toList, "mapper".toList]))) = some mapperDirectory
  decide

theorem isMapperPath_mapperPath {name : String} (h : Host.Path.Step name) :
    isMapperPath (mapperPath name) = true := by
  unfold isMapperPath
  rw [parent?_mapperPath h]
  decide

theorem within_mapperPath {name : String} (h : Plain name) :
    Host.Path.Within "/dev" (mapperPath name) := by
  have hdev : Host.Path.components "/dev" = [.root, .named "dev".toList] := by decide
  unfold Host.Path.Within
  rw [components_mapperPath h.step, hdev]
  exact ⟨[.named "mapper".toList, .named name.toList], rfl⟩

/-- What lies outside of the directory of devices does not lead to a mapping. -/
theorem not_within_of_outside {name path : String} (h : Plain name)
    (hout : ¬ Host.Path.Within "/dev" path) : ¬ Host.Path.Within (mapperPath name) path :=
  fun hin => hout ((within_mapperPath h).trans hin)

theorem dropStart?_append (start rest : List Char) :
    Text.dropStart? start (start ++ rest) = some rest := by
  induction start with
  | nil => cases rest <;> rfl
  | cons c start ih =>
      rw [List.cons_append, Text.dropStart?, if_pos rfl]
      exact ih

theorem toList_mapperPath_append (name : String) :
    (mapperPath name).toList = (mapperDirectory ++ "/").toList ++ name.toList := by
  change (mapperDirectory ++ "/" ++ name).toList = _
  rw [String.toList_append]

theorem dropStart?_of_not_mem {name : List Char} (h : '/' ∉ name) :
    Text.dropStart? (mapperDirectory ++ "/").toList name = none := by
  cases name with
  | nil => rfl
  | cons c cs =>
      have hc : '/' ≠ c := by
        rintro rfl
        exact h List.mem_cons_self
      change (if '/' = c then _ else none) = none
      rw [if_neg hc]

theorem mappingName_mapperPath_of_not_mem {name : String} (h : '/' ∉ name.toList) :
    mappingName (mapperPath name) = name := by
  have hdrop : ∀ fuel, dropRepeated (mapperDirectory ++ "/").toList fuel name.toList =
      name.toList := by
    intro fuel
    cases fuel with
    | zero => rfl
    | succ fuel => rw [dropRepeated, dropStart?_of_not_mem h]
  have hlength : ∃ fuel, (mapperPath name).length = fuel + 1 := by
    rw [← String.length_toList, toList_mapperPath]
    exact ⟨_, rfl⟩
  obtain ⟨fuel, hfuel⟩ := hlength
  unfold mappingName
  rw [hfuel, toList_mapperPath_append, dropRepeated, dropStart?_append]
  dsimp only
  rw [hdrop, String.ofList_toList]

theorem mappingName_mapperPath {name : String} (h : Plain name) :
    mappingName (mapperPath name) = name :=
  mappingName_mapperPath_of_not_mem (h.not_mem (by decide) (by decide))

theorem eq_append_of_dropStart? {start text rest : List Char}
    (h : Text.dropStart? start text = some rest) : text = start ++ rest := by
  induction start generalizing text with
  | nil =>
      cases text <;> exact Option.some.inj h
  | cons c start ih =>
      cases text with
      | nil => cases h
      | cons d text =>
          rw [Text.dropStart?] at h
          split at h
          · next heq => rw [heq, ih h, List.cons_append]
          · cases h

/-- What is dropped is the start, however often it stands there. -/
theorem exists_replicate_of_dropRepeated (start : List Char) (fuel : Nat) (text : List Char) :
    ∃ k, text = (List.replicate k start).flatten ++ dropRepeated start fuel text := by
  induction fuel generalizing text with
  | zero => exact ⟨0, rfl⟩
  | succ fuel ih =>
      rw [dropRepeated]
      cases hrest : Text.dropStart? start text with
      | none => exact ⟨0, rfl⟩
      | some rest =>
          obtain ⟨k, hk⟩ := ih rest
          refine ⟨k + 1, ?_⟩
          rw [List.replicate_succ, List.flatten_cons, List.append_assoc, ← hk]
          exact eq_append_of_dropStart? hrest

theorem components_of_isMapperPath {path name : String} (hmapper : isMapperPath path = true)
    (hname : Host.Path.fileName? path = some name) :
    Host.Path.components path =
      [.root, .named "dev".toList, .named "mapper".toList, .named name.toList] := by
  obtain ⟨up, hup, hsame⟩ := (Option.any_eq_true ..).mp hmapper
  have hdirectory : Host.Path.components up =
      [.root, .named "dev".toList, .named "mapper".toList] := by
    rw [of_decide_eq_true hsame]
    decide
  rw [Host.Path.components_of_parent? hup hname, hdirectory]
  rfl

/-- The name that is read off the path of a mapping is that of the mapping if and only if the path
is written in the one way in which the names of mappings are put together. -/
theorem mappingName_eq_iff {path name : String} (hmapper : isMapperPath path = true)
    (hname : Host.Path.fileName? path = some name) :
    mappingName path = name ↔ path = mapperPath name := by
  have hslash := Host.Path.not_mem_of_fileName? hname
  constructor
  · intro h
    have hcomponents := components_of_isMapperPath hmapper hname
    obtain ⟨k, hk⟩ := exists_replicate_of_dropRepeated (mapperDirectory ++ "/").toList path.length
      path.toList
    have hdropped : name.toList =
        dropRepeated (mapperDirectory ++ "/").toList path.length path.toList := by
      rw [← h, mappingName, String.toList_ofList]
    rw [← hdropped] at hk
    match k with
    | 0 =>
        obtain rfl : path = name := String.toList_inj.mp hk
        have hlength := Host.Path.length_components_of_not_mem hslash
        rw [hcomponents] at hlength
        simp at hlength
    | 1 =>
        apply String.toList_inj.mp
        rw [hk, toList_mapperPath_append]
        rfl
    | k + 2 =>
        -- The path would lie too deep.
        have hpath : path = mapperPath (mapperPath (String.ofList
            ((List.replicate k (mapperDirectory ++ "/").toList).flatten ++ name.toList))) := by
          apply String.toList_inj.mp
          rw [hk, toList_mapperPath_append, toList_mapperPath_append]
          simp [List.replicate_succ]
        have hdeep : ∀ rest, ([] :: "dev".toList :: "mapper".toList :: rest).filterMap
            Host.Component.ofSegment? = .named "dev".toList :: .named "mapper".toList ::
              rest.filterMap Host.Component.ofSegment? := fun _ => rfl
        rw [hpath, components_mapperPath_eq, toList_mapperPath, ← List.nil_append ('/' :: _),
          Text.pieces_append List.not_mem_nil, Text.pieces_append (by decide),
          Text.pieces_append (by decide), hdeep] at hcomponents
        simpa using congrArg List.length hcomponents
  · rintro rfl
    exact mappingName_mapperPath_of_not_mem hslash

/-! ## Commands that do what they are told -/

section Commands

variable {device : String} {c : LuksContext} {h h' : Memory}

/-- None of the commands for an encrypted device fails. Some may be answered in the place of the
host, but a mapping is then described as what it is, and it is the host that closes it. -/
structure Obliging (device : String) (c : LuksContext) (h : Memory) : Prop where
  probes : ∀ out, h.response? (Command.line ⟨"blkid", ["-p", device], none⟩) = some out →
    out.code = some 0 ∨ out.code = some 2
  formats : ∀ out,
    h.response? (Command.line ⟨"cryptsetup", formatArguments device c, some c.key⟩) = some out →
      out.success
  opens : ∀ out,
    h.response? (Command.line
      ⟨"cryptsetup", ["luksOpen", "--key-file", "-", device, c.mapping], some c.key⟩) = some out →
      out.success
  describes : ∀ out,
    h.response? (Command.line ⟨"cryptsetup", ["status", c.mapping], none⟩) = some out →
      out.success ∧ (Text.lines out.stdout.toList).any saysLuks
  closes : h.response? (Command.line ⟨"cryptsetup", ["luksClose", c.mapping], none⟩) = none

theorem Obliging.same (ho : Obliging device c h) (hsame : h'.responses = h.responses) :
    Obliging device c h' := by
  have hresponse := Memory.response?_congr hsame
  constructor
  · intro out hout
    exact ho.probes out ((hresponse _).symm.trans hout)
  · intro out hout
    exact ho.formats out ((hresponse _).symm.trans hout)
  · intro out hout
    exact ho.opens out ((hresponse _).symm.trans hout)
  · intro out hout
    exact ho.describes out ((hresponse _).symm.trans hout)
  · exact (hresponse _).trans ho.closes

theorem delivers_mustSucceed (what : String) (arguments : List String) (key : Option String)
    (h : Memory) :
    Delivers Answers (mustSucceed what arguments key) h
      (fun _ h' => h' = (h.run ⟨"cryptsetup", arguments, key⟩).2)
      (fun _ h' => h' = (h.run ⟨"cryptsetup", arguments, key⟩).2 ∧
        (h.run ⟨"cryptsetup", arguments, key⟩).1.success = false) := by
  unfold mustSucceed cryptsetup
  rw [Prog.delivers_bind, Host.delivers_run]
  cases hsuccess : (h.run ⟨"cryptsetup", arguments, key⟩).1.success with
  | true => exact rfl
  | false => exact ⟨rfl, rfl⟩

/-- A command does not fail if no failure is given in the place of its answer. -/
theorem delivers_obeyed {arguments : List String} {key : Option String} (what : String)
    (hcanned : ∀ out, h.response? (Command.line ⟨"cryptsetup", arguments, key⟩) = some out →
      out.success)
    (hstatus : ∀ name, arguments ≠ ["status", name]) :
    Delivers Answers (mustSucceed what arguments key) h
      (fun _ h' => h' = (h.run ⟨"cryptsetup", arguments, key⟩).2) (fun _ _ => False) := by
  have hsuccess : (h.run ⟨"cryptsetup", arguments, key⟩).1.success := by
    cases hresponse : h.response? (Command.line ⟨"cryptsetup", arguments, key⟩) with
    | some out =>
        rw [Memory.run_of_response? hresponse]
        exact hcanned out hresponse
    | none =>
        rw [Memory.run_of_response?_eq_none hresponse]
        exact Memory.success_cryptsetup hstatus _
  apply (delivers_mustSucceed what arguments key h).mono
  · exact fun _ _ hsame => hsame
  · intro _ _ hfailed
    rw [hsuccess] at hfailed
    exact absurd hfailed.2 (by decide)

theorem delivers_isFormatted (ho : Obliging device c h) :
    Delivers Answers (isFormatted device) h (fun _ h' => Undisturbed h h') (fun _ _ => False) := by
  have hcode : (h.run ⟨"blkid", ["-p", device], none⟩).1.code = some 0 ∨
      (h.run ⟨"blkid", ["-p", device], none⟩).1.code = some 2 := by
    cases hresponse : h.response? (Command.line ⟨"blkid", ["-p", device], none⟩) with
    | some out =>
        rw [Memory.run_of_response? hresponse]
        exact ho.probes out hresponse
    | none =>
        rw [Memory.run_of_response?_eq_none hresponse]
        change (Memory.blkid _ _ device).code = some 0 ∨ (Memory.blkid _ _ device).code = some 2
        unfold Memory.blkid
        split
        · exact .inr rfl
        · exact .inl rfl
  unfold isFormatted
  rw [Prog.delivers_bind, Host.delivers_run]
  rcases hcode with hcode | hcode
  · simpa [hcode] using Memory.undisturbed_run h _
  · simpa [hcode] using Memory.undisturbed_run h _

theorem delivers_openMapping (ho : Obliging device c h) :
    Delivers Answers (openMapping device c) h
      (fun path h' => path = mapperPath c.mapping ∧ Undisturbed h h') (fun _ _ => False) := by
  unfold openMapping
  rw [Prog.delivers_bind, Prog.delivers_lift, Host.ensures_ask]
  change Delivers Answers
    (if h.pathExists (mapperPath c.mapping) then pure (mapperPath c.mapping) else _) h _ _
  by_cases hopen : h.pathExists (mapperPath c.mapping)
  · rw [if_pos hopen]
    exact ⟨rfl, .refl h⟩
  · rw [if_neg hopen]
    apply (delivers_obeyed "luksOpen" ho.opens (by simp)).followed
    intro _ h' heq
    rw [heq]
    exact ⟨rfl, Memory.undisturbed_run h _⟩

theorem delivers_close (ho : Obliging device c h) :
    Delivers Answers (close c.mapping) h
      (fun _ h' => h' = (h.run ⟨"cryptsetup", ["luksClose", c.mapping], none⟩).2)
      (fun _ _ => False) := by
  apply delivers_obeyed
  · simp [ho.closes]
  · simp

/-- A device is formatted, its mapping opened and closed again, and all of this goes well. -/
theorem delivers_format (ho : Obliging device c h) (hvalid : c.validate = .ok ()) :
    Delivers Answers (format device c) h (fun _ h' => Undisturbed h h') (fun _ _ => False) := by
  unfold format
  rw [Prog.delivers_bind, Host.delivers_ofExcept, hvalid, Prog.either_ok]
  apply (delivers_obeyed "luksFormat" ho.formats (by simp [formatArguments])).followed
  intro _ h₁ heq₁
  have hu₁ : Undisturbed h h₁ := heq₁ ▸ Memory.undisturbed_run h _
  apply (delivers_openMapping (ho.same hu₁.responses)).followed
  intro _ h₂ hopened
  have hu₂ : Undisturbed h h₂ := hu₁.trans hopened.2
  apply (delivers_close (ho.same hu₂.responses)).sure
  intro _ h₃ heq₃
  exact hu₂.trans (heq₃ ▸ Memory.undisturbed_run h₂ _)

/-! ## Looking for mappings -/

theorem delivers_isLuksMapping (path : String) (h : Memory) :
    Delivers Answers (isLuksMapping path) h (fun _ h' => Undisturbed h h' ∧ Fewer h h')
      (fun _ _ => False) := by
  unfold isLuksMapping cryptsetup
  cases Host.Path.fileName? path with
  | none => exact ⟨.refl h, .refl h⟩
  | some name =>
      dsimp only
      rw [Prog.delivers_bind, Host.delivers_run, Memory.run_status]
      exact ⟨⟨rfl, rfl, rfl, fun _ hp => hp⟩, fun _ hp => hp, fun _ hp => hp⟩

/-- The second line of the description of a mapping says what it is. -/
theorem any_saysLuks {name : String} (hname : Plain name) :
    (Text.lines s!"{Memory.mapping name} is active.\n  type:    LUKS2\n".toList).any saysLuks := by
  have htext : s!"{Memory.mapping name} is active.\n  type:    LUKS2\n".toList =
      ("/dev/mapper/".toList ++ name.toList ++ " is active.".toList) ++
        '\n' :: "  type:    LUKS2\n".toList := by
    change ("/dev/mapper/" ++ name ++ " is active.\n  type:    LUKS2\n").toList = _
    simp
  have hnewline : '\n' ∉ name.toList := hname.not_mem (by decide) (by decide)
  have hreturn : '\r' ∉ name.toList := hname.not_mem (by decide) (by decide)
  have hlines : Text.lines s!"{Memory.mapping name} is active.\n  type:    LUKS2\n".toList =
      ("/dev/mapper/".toList ++ name.toList ++ " is active.".toList) ::
        Text.lines "  type:    LUKS2\n".toList := by
    rw [htext]
    apply Text.lines_append
    · simpa using hnewline
    · simpa using hreturn
  have hsays : (Text.lines "  type:    LUKS2\n".toList).any saysLuks := by decide
  rw [hlines, List.any_cons, hsays, Bool.or_true]

/-- A mapping that is not found is not there. -/
theorem delivers_isLuksMapping_mapperPath (ho : Obliging device c h) (hc : Plain c.mapping) :
    Delivers Answers (isLuksMapping (mapperPath c.mapping)) h
      (fun found h' => Undisturbed h h' ∧ Fewer h h' ∧
        (found = false → ¬ h.files.contains (mapperPath c.mapping))) (fun _ _ => False) := by
  have hfound : h.files.contains (mapperPath c.mapping) →
      (h.run ⟨"cryptsetup", ["status", c.mapping], none⟩).1.success ∧
        (Text.lines (h.run ⟨"cryptsetup", ["status", c.mapping], none⟩).1.stdout.toList).any
          saysLuks := by
    intro hthere
    cases hresponse :
        h.response? (Command.line ⟨"cryptsetup", ["status", c.mapping], none⟩) with
    | some out =>
        rw [Memory.run_of_response? hresponse]
        exact ho.describes out hresponse
    | none =>
        rw [← mapping_eq_mapperPath] at hthere
        rw [Memory.run_of_response?_eq_none hresponse]
        change (Memory.cryptsetup _ ["status", c.mapping]).1.success ∧
          (Text.lines (Memory.cryptsetup _ ["status", c.mapping]).1.stdout.toList).any saysLuks
        rw [Memory.cryptsetup_status, if_pos hthere]
        exact ⟨rfl, any_saysLuks hc⟩
  unfold isLuksMapping cryptsetup
  rw [fileName?_mapperPath hc.step]
  dsimp only
  rw [Prog.delivers_bind, Host.delivers_run, Memory.run_status]
  refine ⟨⟨rfl, rfl, rfl, fun _ hp => hp⟩, ⟨fun _ hp => hp, fun _ hp => hp⟩, ?_⟩
  intro hnot hthere
  obtain ⟨hsuccess, hsays⟩ := hfound hthere
  rw [hsuccess, hsays] at hnot
  cases hnot

end Commands

end VolumePlugin.Luks
