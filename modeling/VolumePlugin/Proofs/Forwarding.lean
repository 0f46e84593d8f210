import VolumePlugin.Controller.Service
import VolumePlugin.Node.Service
import VolumePlugin.Proofs.Attributes

/-! The settings of a volume on their way from its parameters to the node. The controller picks some
of the parameters, and the node reads the encryption and the partition out of what it is given. -/

namespace VolumePlugin

namespace Controller

theorem asksForEncryption_eq_any (p : Attributes) :
    asksForEncryption p =
      (p.get? Setting.luksEncrypted).any fun v => Text.lowerAscii v = "true" := by
  unfold asksForEncryption
  cases p.get? Setting.luksEncrypted <;> rfl

theorem asksForEncryption_iff (p : Attributes) :
    asksForEncryption p = true ↔
      ∃ v, p.get? Setting.luksEncrypted = some v ∧ Text.lowerAscii v = "true" := by
  simp [asksForEncryption_eq_any, Option.any_eq_true]

/-- The names of the settings that say how to encrypt. -/
def luksSettings : List String :=
  [Setting.luksEncrypted, Setting.luksCipher, Setting.luksKeySize]

theorem partition_not_mem_luksSettings : Setting.partition ∉ luksSettings := by
  decide

theorem volumeContext_eq (p : Attributes) :
    volumeContext p =
      p.restrict ((if asksForEncryption p then luksSettings else []) ++ [Setting.partition]) :=
  rfl

theorem get?_volumeContext_partition (p : Attributes) :
    (volumeContext p).get? Setting.partition = p.get? Setting.partition := by
  rw [volumeContext_eq, Attributes.get?_restrict, if_pos (by simp)]

theorem get?_volumeContext_luks {p : Attributes} {name : String} (h : name ∈ luksSettings) :
    (volumeContext p).get? name = if asksForEncryption p then p.get? name else none := by
  have hname : name ≠ Setting.partition := fun hname => partition_not_mem_luksSettings (hname ▸ h)
  rw [volumeContext_eq, Attributes.get?_restrict]
  cases asksForEncryption p <;> simp [h, hname]

theorem mem_volumeContext {p : Attributes} {e : String × String}
    (h : e ∈ (volumeContext p).entries) :
    p.get? e.1 = some e.2 ∧
      (e.1 = Setting.partition ∨ e.1 ∈ luksSettings ∧ asksForEncryption p = true) := by
  rw [volumeContext_eq] at h
  obtain ⟨hname, hvalue⟩ := Attributes.mem_restrict h
  refine ⟨hvalue, ?_⟩
  rcases List.mem_append.mp hname with hluks | hpartition
  · cases hasks : asksForEncryption p with
    | false => simp [hasks] at hluks
    | true => exact .inr ⟨by simpa [hasks] using hluks, rfl⟩
  · exact .inl (List.mem_singleton.mp hpartition)

/-- What is forwarded asks for encryption as the parameters do. -/
theorem asksForEncryption_volumeContext (p : Attributes) :
    asksForEncryption (volumeContext p) = asksForEncryption p := by
  rw [asksForEncryption_eq_any (volumeContext p), get?_volumeContext_luks (by decide)]
  cases hasks : asksForEncryption p with
  | false => rfl
  | true => rw [if_pos rfl, ← asksForEncryption_eq_any, hasks]

end Controller

namespace LuksContext

open Controller (asksForEncryption volumeContext luksSettings get?_volumeContext_luks)

variable (p secrets : Attributes) (mapping : String) (lifecycle : Lifecycle)

/-- The node and the controller mean the same by encryption that is asked for. -/
theorem enabled_ofRequest :
    (ofRequest p secrets mapping lifecycle).enabled = asksForEncryption p :=
  (Controller.asksForEncryption_eq_any p).symm

theorem enabled_forwarded :
    (ofRequest (volumeContext p) secrets mapping lifecycle).enabled = asksForEncryption p := by
  rw [enabled_ofRequest, Controller.asksForEncryption_volumeContext]

variable {p}

/-- All that is said about an encryption that is asked for is forwarded. -/
theorem ofRequest_forwarded (h : asksForEncryption p = true) :
    ofRequest (volumeContext p) secrets mapping lifecycle =
      ofRequest p secrets mapping lifecycle := by
  have hget : ∀ name ∈ luksSettings, (volumeContext p).get? name = p.get? name := by
    intro name hname
    rw [get?_volumeContext_luks hname, if_pos h]
  simp only [ofRequest, Attributes.getD, hget Setting.luksEncrypted (by decide),
    hget Setting.luksCipher (by decide), hget Setting.luksKeySize (by decide)]

theorem validate_of_disabled {c : LuksContext} (h : c.enabled = false) : c.validate = .ok () := by
  simp [validate, h]

theorem validate_forwarded :
    (ofRequest (volumeContext p) secrets mapping lifecycle).validate =
      (ofRequest p secrets mapping lifecycle).validate := by
  cases hasks : asksForEncryption p with
  | true => rw [ofRequest_forwarded secrets mapping lifecycle hasks]
  | false =>
      rw [validate_of_disabled, validate_of_disabled]
      · rw [enabled_ofRequest, hasks]
      · rw [enabled_forwarded, hasks]

end LuksContext

/-! ## What the node does with the forwarded settings -/

namespace Node

open Controller (asksForEncryption volumeContext)

theorem mountSource_of_disabled (device : String) {luks : LuksContext} (h : luks.enabled = false) :
    mountSource device luks = pure device := by
  simp [mountSource, h]

variable (p : Attributes)

theorem mountSource_forwarded (secrets : Attributes) (mapping : String) (device : String) :
    mountSource device (.ofRequest (volumeContext p) secrets mapping .stage) =
      mountSource device (.ofRequest p secrets mapping .stage) := by
  cases hasks : asksForEncryption p with
  | true => rw [LuksContext.ofRequest_forwarded secrets mapping .stage hasks]
  | false =>
      rw [mountSource_of_disabled, mountSource_of_disabled]
      · rw [LuksContext.enabled_ofRequest, hasks]
      · rw [LuksContext.enabled_forwarded, hasks]

/-- What a request to stage a volume says besides the encryption. -/
def addressed (req : NodeStageVolumeRequest) : Except CsiError (VolumeKey × VolumeCapability) := do
  requireText "volume id" req.volumeId
  requireText "staging target path" req.stagingTargetPath
  let cap ← requireCapability req.volumeCapability
  let key ← requireHandle req.volumeId
  return (key, cap)

/-- The check of the encryption of a volume, which only counts for one that is mounted. -/
def checked (luks : LuksContext) (cap : VolumeCapability) : Except CsiError Unit :=
  if luks.enabled && !cap.isBlock then luks.validate else .ok ()

theorem ofExcept_bind_bind {α β γ : Type} (x : Except CsiError α) (f : α → Except CsiError β)
    (next : β → Host.Job γ) :
    Host.Job.ofExcept (x >>= f) >>= next =
      Host.Job.ofExcept x >>= fun a => Host.Job.ofExcept (f a) >>= next := by
  cases x <;> rfl

/-- A volume is staged after the request was found right, and its encryption last. -/
theorem stage_eq (req : NodeStageVolumeRequest) :
    stage req = (do
      let (key, cap) ← Host.Job.ofExcept (addressed req)
      let luks := LuksContext.ofRequest req.volumeContext req.secrets key.label .stage
      Host.Job.ofExcept (checked luks cap)
      Host.Job.locked (stageLocked req ⟨key, cap, luks⟩)) := by
  have hstaging : staging req = addressed req >>= fun a =>
      checked (.ofRequest req.volumeContext req.secrets a.1.label .stage) a.2 >>= fun _ =>
        pure ⟨a.1, a.2, .ofRequest req.volumeContext req.secrets a.1.label .stage⟩ := by
    simp only [staging, addressed, bind_assoc, pure_bind, checked]
    congr! with _ _ cap key
    split <;> rfl
  rw [stage, hstaging, ofExcept_bind_bind]
  simp only [ofExcept_bind_bind]
  rfl

theorem checked_forwarded (secrets : Attributes) (mapping : String) (cap : VolumeCapability) :
    checked (.ofRequest (volumeContext p) secrets mapping .stage) cap =
      checked (.ofRequest p secrets mapping .stage) cap := by
  rw [checked, checked, LuksContext.enabled_forwarded, LuksContext.enabled_ofRequest,
    LuksContext.validate_forwarded]

/-- A volume is staged with the settings that the controller forwards as it would be with all of the
parameters. -/
theorem stage_forwarded (req : NodeStageVolumeRequest) :
    stage { req with volumeContext := volumeContext p } =
      stage { req with volumeContext := p } := by
  have hlocked : ∀ (key : VolumeKey) (cap : VolumeCapability),
      stageLocked { req with volumeContext := volumeContext p }
          ⟨key, cap, .ofRequest (volumeContext p) req.secrets key.label .stage⟩ =
        stageLocked { req with volumeContext := p }
          ⟨key, cap, .ofRequest p req.secrets key.label .stage⟩ := fun key cap => by
    simp only [stageLocked, Controller.get?_volumeContext_partition, mountSource_forwarded]
  simp only [stage_eq, checked_forwarded, hlocked]
  rfl

theorem publish_forwarded (req : NodePublishVolumeRequest) :
    publish { req with volumeContext := volumeContext p } =
      publish { req with volumeContext := p } := by
  have hdevice : blockDevice { req with volumeContext := volumeContext p } =
      blockDevice { req with volumeContext := p } := by
    simp only [blockDevice, Controller.get?_volumeContext_partition]
  have hblock : publishBlock { req with volumeContext := volumeContext p } =
      publishBlock { req with volumeContext := p } := by
    rw [publishBlock, publishBlock, hdevice]
  have hlocked : ∀ cap, publishLocked { req with volumeContext := volumeContext p } cap =
      publishLocked { req with volumeContext := p } cap := fun cap => by
    rw [publishLocked, publishLocked, hblock]
    rfl
  rw [publish, publish, funext hlocked]
  rfl

end Node

/-- The settings of a volume reach the node intact. What the controller forwards of the parameters
`p` asks for encryption exactly if `p` does, and names the partition that `p` names. It says all
that `p` says about an encryption, so what the node reads and finds missing is the same, and it
holds nothing else. The node stages and publishes a volume as it would if it were given `p`. -/
theorem settings_reach_node (p secrets : Attributes) (mapping : String) (lifecycle : Lifecycle) :
    let forwarded := Controller.volumeContext p
    let there := LuksContext.ofRequest forwarded secrets mapping lifecycle
    let here := LuksContext.ofRequest p secrets mapping lifecycle
    let asked := ∃ v, p.get? Setting.luksEncrypted = some v ∧ Text.lowerAscii v = "true"
    (there.enabled = true ↔ asked) ∧
      forwarded.get? Setting.partition = p.get? Setting.partition ∧
      (asked → there = here) ∧
      there.validate = here.validate ∧
      (∀ e ∈ forwarded.entries, p.get? e.1 = some e.2 ∧
        (e.1 = Setting.partition ∨ e.1 ∈ Controller.luksSettings ∧ asked)) ∧
      (∀ req : NodeStageVolumeRequest, Node.stage { req with volumeContext := forwarded } =
        Node.stage { req with volumeContext := p }) ∧
      ∀ req : NodePublishVolumeRequest, Node.publish { req with volumeContext := forwarded } =
        Node.publish { req with volumeContext := p } := by
  intro forwarded there here asked
  have hasked : Controller.asksForEncryption p = true ↔ asked := Controller.asksForEncryption_iff p
  refine ⟨?_, Controller.get?_volumeContext_partition p, fun h => ?_,
    LuksContext.validate_forwarded secrets mapping lifecycle, fun e he => ?_,
    Node.stage_forwarded p, Node.publish_forwarded p⟩
  · rw [← hasked, ← LuksContext.enabled_forwarded p secrets mapping lifecycle]
  · exact LuksContext.ofRequest_forwarded secrets mapping lifecycle (hasked.mpr h)
  · exact (Controller.mem_volumeContext he).imp_right (.imp_right (.imp_right hasked.mp))

/-- Parameters that ask for encryption in another case, without the size of the key. -/
def shoutedParameters : Attributes :=
  ⟨[(Setting.luksEncrypted, "TRUE"), (Setting.luksCipher, "aes-xts-plain64"),
    (Setting.partition, "2"), (Setting.volumeTags, "blue")]⟩

theorem settings_reach_node_shouted :
    let forwarded := Controller.volumeContext shoutedParameters
    let there := LuksContext.ofRequest forwarded (.single Setting.luksKey "secret") "data" .stage
    there.enabled = true ∧ there.cipher = "aes-xts-plain64" ∧
      there.validate = .error (.encryption "NodeStageVolume: missing key size") ∧
      forwarded.get? Setting.partition = some "2" := by
  intro forwarded there
  obtain ⟨henabled, hpartition, hsame, hvalidate, -⟩ :=
    settings_reach_node shoutedParameters (.single Setting.luksKey "secret") "data" .stage
  have hasked : ∃ v, shoutedParameters.get? Setting.luksEncrypted = some v ∧
      Text.lowerAscii v = "true" := ⟨"TRUE", by decide, by decide⟩
  exact ⟨henabled.mpr hasked, congrArg LuksContext.cipher (hsame hasked),
    hvalidate.trans (by decide), hpartition⟩

end VolumePlugin
