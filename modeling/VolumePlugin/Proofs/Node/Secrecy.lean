import VolumePlugin.Proofs.Forwarding
import VolumePlugin.Proofs.Host.Secrecy
import VolumePlugin.Proofs.Metrics
import VolumePlugin.Proofs.Node.RoundTrip

/-! # The key of an encrypted volume

A request brings the key of a volume among its secrets. It makes a difference to the service whether
there is a key, but not which one it is: the key is only given to `cryptsetup` to read. -/

namespace VolumePlugin

open Host (Alike Command Memory redactedState)

/-! ## What a request says without its key -/

/-- What stands for a key. The empty text is no key and stands for itself. -/
def hideKey (key : String) : String :=
  if key = "" then "" else "<redacted>"

theorem hideKey_eq_empty {key : String} : hideKey key = "" ↔ key = "" := by
  unfold hideKey
  split
  · next hempty => simp [hempty]
  · next hkey => simp [hkey]

/-- The secrets without the key. -/
def Attributes.withoutKey (secrets : Attributes) : Attributes :=
  ⟨secrets.entries.map fun e => (e.1, if e.1 = Setting.luksKey then hideKey e.2 else e.2)⟩

theorem Attributes.get?_withoutKey (secrets : Attributes) :
    secrets.withoutKey.get? Setting.luksKey = (secrets.get? Setting.luksKey).map hideKey := by
  unfold withoutKey get?
  induction secrets.entries with
  | nil => rfl
  | cons e rest ih =>
      obtain ⟨name, value⟩ := e
      rw [List.map_cons, lookup_cons, lookup_cons, ih]
      split
      · next hname => rw [if_pos hname.symm]; rfl
      · rfl

namespace LuksContext

def withoutKey (c : LuksContext) : LuksContext :=
  { c with key := hideKey c.key }

theorem ofRequest_withoutKey (volumeContext secrets : Attributes) (mapping : String)
    (lifecycle : Lifecycle) :
    ofRequest volumeContext secrets.withoutKey mapping lifecycle =
      (ofRequest volumeContext secrets mapping lifecycle).withoutKey := by
  unfold ofRequest withoutKey Attributes.getD
  rw [Attributes.get?_withoutKey]
  cases secrets.get? Setting.luksKey <;> rfl

/-- What may be logged does not depend on the key. -/
theorem describe_withoutKey (c : LuksContext) : c.withoutKey.describe = c.describe := rfl

theorem missing_withoutKey (c : LuksContext) : c.withoutKey.missing = c.missing := by
  simp only [missing, withoutKey, List.filter_cons, hideKey_eq_empty]
  split <;> split <;> rfl

theorem validate_withoutKey (c : LuksContext) : c.withoutKey.validate = c.validate := by
  unfold validate
  rw [missing_withoutKey]
  rfl

end LuksContext

namespace Node.Request

/-- The request without its key. -/
def withoutKey : Request → Request
  | stage req => stage { req with secrets := req.secrets.withoutKey }
  | publish req => publish { req with secrets := req.secrets.withoutKey }
  | expand req => expand { req with secrets := req.secrets.withoutKey }
  | unstage req => unstage req
  | unpublish req => unpublish req
  | stats req => stats req

end Node.Request

/-! ## Work on encrypted devices -/

namespace Luks

theorem alike_cryptsetup (arguments : List String) {key other : Option String}
    (h : key.isSome = other.isSome) :
    Alike (cryptsetup arguments key).run (cryptsetup arguments other).run := by
  have hcommand : Command.redacted ⟨"cryptsetup", arguments, key⟩ =
      Command.redacted ⟨"cryptsetup", arguments, other⟩ := by
    rw [Command.redacted_cryptsetup, Command.redacted_cryptsetup]
    cases key <;> cases other <;> simp_all
  exact (Alike.ask_run hcommand).bind fun _ => .refl _

theorem alike_mustSucceed (what : String) (arguments : List String) {key other : Option String}
    (h : key.isSome = other.isSome) :
    Alike (mustSucceed what arguments key).run (mustSucceed what arguments other).run :=
  (alike_cryptsetup arguments h).bind_run fun _ => .refl _

theorem alike_openMapping (device : String) (c : LuksContext) :
    Alike (openMapping device c.withoutKey).run (openMapping device c).run := by
  refine Alike.bind_run (.refl _) fun found => ?_
  cases found with
  | true => exact .refl _
  | false => exact (alike_mustSucceed "luksOpen" _ rfl).bind_run fun _ => .refl _

theorem alike_format (device : String) (c : LuksContext) :
    Alike (format device c.withoutKey).run (format device c).run := by
  unfold format
  rw [LuksContext.validate_withoutKey]
  refine Alike.bind_run (.refl _) fun _ => ?_
  refine (alike_mustSucceed "luksFormat" _ rfl).bind_run fun _ => ?_
  exact (alike_openMapping device c).bind_run fun _ => .refl _

/-- Whether there is a key makes for two commands, but not what the key is. -/
theorem alike_resize (name : String) (key : Option String) :
    Alike (resize name (key.map hideKey)).run (resize name key).run := by
  unfold resize
  rw [Option.isSome_map]
  exact alike_mustSucceed "resize" _ (Option.isSome_map ..)

end Luks

namespace Node

theorem alike_mountSource (device : String) (luks : LuksContext) :
    Alike (mountSource device luks.withoutKey).run (mountSource device luks).run := by
  have hsame : luks.withoutKey.enabled = luks.enabled := rfl
  cases henabled : luks.enabled with
  | false =>
      rw [mountSource_of_disabled device (hsame.trans henabled),
        mountSource_of_disabled device henabled]
      exact .refl _
  | true =>
      unfold mountSource
      rw [if_pos henabled, if_pos (hsame.trans henabled)]
      refine Alike.bind_run (.refl _) fun formatted => ?_
      cases formatted with
      | true => exact Luks.alike_openMapping device luks
      | false =>
          exact (Luks.alike_format device luks).bind_run fun _ => Luks.alike_openMapping device luks

theorem alike_stageLocked (req : NodeStageVolumeRequest) (key : VolumeKey) (cap : VolumeCapability)
    (luks : LuksContext) :
    Alike (stageLocked { req with secrets := req.secrets.withoutKey }
        ⟨key, cap, luks.withoutKey⟩).run
      (stageLocked req ⟨key, cap, luks⟩).run := by
  refine Alike.bind_run (.refl _) fun device => Alike.bind_run (.refl _) fun mounted => ?_
  cases mounted with
  | true => exact .refl _
  | false =>
      dsimp only
      cases cap.isBlock with
      | true => exact .refl _
      | false => exact (alike_mountSource device luks).bind_run fun _ => .refl _

theorem checked_withoutKey (luks : LuksContext) (cap : VolumeCapability) :
    checked luks.withoutKey cap = checked luks cap := by
  unfold checked
  rw [LuksContext.validate_withoutKey]
  rfl

/-- A volume is staged in the same way whatever its key is. -/
theorem alike_stage (req : NodeStageVolumeRequest) :
    Alike (stage { req with secrets := req.secrets.withoutKey }).run (stage req).run := by
  rw [stage_eq, stage_eq]
  refine Alike.bind_run (.refl _) fun a => ?_
  obtain ⟨key, cap⟩ := a
  dsimp only
  rw [LuksContext.ofRequest_withoutKey, checked_withoutKey]
  refine Alike.bind_run (.refl _) fun _ => Alike.locked ?_
  exact alike_stageLocked req key cap _

theorem alike_growMapping (device : String) (secrets : Attributes) :
    Alike (growMapping device secrets.withoutKey).run (growMapping device secrets).run := by
  unfold growMapping
  rw [Attributes.get?_withoutKey]
  cases Luks.isMapperPath device with
  | false => exact .refl _
  | true =>
      refine Alike.bind_run (.refl _) fun found => ?_
      cases found with
      | false => exact .refl _
      | true => exact Luks.alike_resize _ _

theorem alike_expand (req : NodeExpandVolumeRequest) :
    Alike (expand { req with secrets := req.secrets.withoutKey }).run (expand req).run := by
  refine Alike.bind_run (.refl _) fun _ => Alike.locked ?_
  refine Alike.bind_run (.refl _) fun mounted => ?_
  cases mounted with
  | false =>
      exact .refl (throw (.notFound s!"{req.volumePath} is not mounted") :
        Host.Job NodeExpandVolumeResponse).run
  | true =>
      dsimp only
      cases req.volumeCapability.any VolumeCapability.isBlock with
      | true => exact .refl (pure (expanded req) : Host.Job NodeExpandVolumeResponse).run
      | false =>
          refine Alike.bind_run (.refl _) fun sources => ?_
          cases sources with
          | nil => exact .refl _
          | cons device rest =>
              exact (alike_growMapping device req.secrets).bind_run fun _ => .refl _

/-! ## Requests and what comes back -/

namespace Request

/-- The response to a request as it travels back. -/
def pack : (r : Request) → r.Response → Message.Packed
  | stage _, response => Message.pack response
  | unstage _, response => Message.pack response
  | publish _, response => Message.pack response
  | unpublish _, response => Message.pack response
  | expand _, response => Message.pack response
  | stats _, response => Message.pack response

/-- The procedure that a request asks for. -/
def rpc : Request → Rpc
  | stage _ => .of "NodeStageVolume" .node fun _ req => .node (Node.stage req)
  | unstage _ => .of "NodeUnstageVolume" .node fun _ req => .node (Node.unstage req)
  | publish _ => .of "NodePublishVolume" .node fun _ req => .node (Node.publish req)
  | unpublish _ => .of "NodeUnpublishVolume" .node fun _ req => .node (Node.unpublish req)
  | expand _ => .of "NodeExpandVolume" .node fun _ req => .node (Node.expand req)
  | stats _ => .of "NodeGetVolumeStats" .node fun _ req => .node (volumeStats req)

/-- The work on a request, up to what travels back. -/
def work (r : Request) : Host.Work (Except CsiError Message.Packed) :=
  r.job.run.bind fun result => .done (result.map r.pack)

theorem alike_work (r : Request) : Alike r.withoutKey.work r.work := by
  cases r with
  | stage req => exact (alike_stage req).bind fun _ => .refl _
  | expand req => exact (alike_expand req).bind fun _ => .refl _
  | _ => exact .refl _

theorem rpc_withoutKey (r : Request) : r.withoutKey.rpc = r.rpc := by
  cases r <;> rfl

/-- Requests that differ only in their keys are worked on alike. -/
theorem alike_of_withoutKey {r other : Request} (h : r.withoutKey = other.withoutKey) :
    r.rpc = other.rpc ∧ Alike r.work other.work := by
  refine ⟨?_, r.alike_work.symm.trans (h ▸ other.alike_work)⟩
  rw [← r.rpc_withoutKey, h, other.rpc_withoutKey]

end Request

/-! ## Runs -/

namespace Arrival

/-- Whether two arrivals differ only in the key that the request brings. Whatever else happens
before does not depend on what `cryptsetup` was given to read. -/
structure SameButKey (a b : Arrival) : Prop where
  request : a.request.withoutKey = b.request.withoutKey
  change : ∀ g h : Memory, g.redacted = h.redacted → (a.change g).redacted = (b.change h).redacted

/-- What travels back for a request. -/
def reply (a : Arrival) (s : State) : Except CsiError Message.Packed :=
  (a.outcome s).1.map a.request.pack

theorem run_work (a : Arrival) (s : State) :
    a.request.work.run (Host.answerQuery Memory.answer) (a.meet s) =
      (a.reply s, (a.outcome s).2) := by
  unfold Request.work
  rw [Prog.run_bind]
  rfl

variable {a b : Arrival} {s t : State}

theorem SameButKey.meet (h : SameButKey a b) (hst : redactedState s = redactedState t) :
    redactedState (a.meet s) = redactedState (b.meet t) := by
  obtain ⟨hdisks, hhost⟩ := Prod.mk.inj hst
  have hmounts : s.2.redacted.mounts = t.2.redacted.mounts := congrArg Memory.mounts hhost
  have hchange := h.change s.2 t.2 hhost
  refine Prod.ext hdisks ?_
  change { (a.change s.2).redacted with mounts := s.2.redacted.mounts } =
    { (b.change t.2).redacted with mounts := t.2.redacted.mounts }
  rw [hchange, hmounts]

/-- One request: the key makes no difference to the reply, or to the state but for what `cryptsetup`
was given to read. -/
theorem SameButKey.outcome (h : SameButKey a b) (hst : redactedState s = redactedState t) :
    a.reply s = b.reply t ∧ redactedState (a.outcome s).2 = redactedState (b.outcome t).2 := by
  have hrun := (Request.alike_of_withoutKey h.request).2.run (h.meet hst)
  rw [run_work, run_work] at hrun
  exact hrun

end Arrival

/-- A call to the node service: a request, or the question what the service can do or which instance
it runs on, for which it needs no host. -/
inductive Visit where
  | request (a : Arrival)
  | capabilities
  | info

namespace Visit

def rpc : Visit → Rpc
  | request a => a.request.rpc
  | capabilities => .of "NodeGetCapabilities" .node fun _ (_ : NodeGetCapabilitiesRequest) =>
    .done (.ok Node.capabilities)
  | info => .of "NodeGetInfo" .node fun p (_ : NodeGetInfoRequest) => .done (.ok (Node.info p.node))

/-- What travels back from a node that runs on an instance. -/
def reply (i : Instance) (s : State) : Visit → Except CsiError Message.Packed
  | request a => a.reply s
  | capabilities => .ok (Message.pack Node.capabilities)
  | info => .ok (Message.pack (Node.info i))

def next (s : State) : Visit → State
  | request a => (a.outcome s).2
  | capabilities | info => s

/-- Whether two calls differ only in the key that a request brings. -/
inductive SameButKey : Visit → Visit → Prop where
  | request {a b : Arrival} (h : a.SameButKey b) : SameButKey (.request a) (.request b)
  | capabilities : SameButKey .capabilities .capabilities
  | info : SameButKey .info .info

/-- One call: the key makes no difference to what is counted and what travels back, or to the state
but for what `cryptsetup` was given to read. -/
theorem SameButKey.step {v w : Visit} {s t : State} (h : SameButKey v w) (i : Instance)
    (hst : redactedState s = redactedState t) :
    v.rpc = w.rpc ∧ v.reply i s = w.reply i t ∧
      redactedState (v.next s) = redactedState (w.next t) := by
  cases h with
  | request h =>
      exact ⟨(Request.alike_of_withoutKey h.request).1, h.outcome hst⟩
  | capabilities => exact ⟨rfl, rfl, hst⟩
  | info => exact ⟨rfl, rfl, hst⟩

/-- The procedures that a run of calls asks for, in order, and what travels back. -/
def replies (i : Instance) : State → List Visit → List (Rpc × Except CsiError Message.Packed)
  | _, [] => []
  | s, v :: rest => (v.rpc, v.reply i s) :: replies i (v.next s) rest

/-- The state after a run of calls. -/
def after (s : State) (visits : List Visit) : State :=
  visits.foldl next s

theorem replies_of_sameButKey (i : Instance) {vs ws : List Visit}
    (h : List.Forall₂ SameButKey vs ws) :
    ∀ {s t : State}, redactedState s = redactedState t →
      replies i s vs = replies i t ws ∧
        redactedState (after s vs) = redactedState (after t ws) := by
  induction h with
  | nil => exact fun hst => ⟨rfl, hst⟩
  | cons hfirst hrest ih =>
      intro s t hst
      obtain ⟨hrpc, hreply, hnext⟩ := hfirst.step i hst
      obtain ⟨hreplies, hafter⟩ := ih hnext
      refine ⟨?_, hafter⟩
      rw [replies, replies, hrpc, hreply, hreplies]

/-- The key of a volume is only given to `cryptsetup` to read. Two runs from the same state, of
calls to the node service that differ only in what their keys are, reply the same, errors included.
They run the same command lines in the same order, meet the same disks and leave the same host
behind, but for what `cryptsetup` was given to read. Their metrics count the same operations and
status codes, however long the calls took. -/
theorem key_is_only_read_by_cryptsetup {vs ws : List Visit} (h : List.Forall₂ SameButKey vs ws)
    (i : Instance) (s : State) :
    replies i s vs = replies i s ws ∧
      redactedState (after s vs) = redactedState (after s ws) ∧
      (after s vs).2.commands.map Command.line = (after s ws).2.commands.map Command.line ∧
      ∀ (m : Metrics) (times times' : List Nat), times.length = times'.length →
        (m.observeAll (replies i s vs) times).counts =
          (m.observeAll (replies i s ws) times').counts := by
  obtain ⟨hreplies, hafter⟩ := replies_of_sameButKey i h rfl
  refine ⟨hreplies, hafter, ?_, fun m times times' hlength => ?_⟩
  · have hcommands : (after s vs).2.commands.map Command.redacted =
        (after s ws).2.commands.map Command.redacted :=
      congrArg (fun t : State => t.2.commands) hafter
    have hlines := congrArg (List.map Command.line) hcommands
    simpa [Function.comp_def] using hlines
  · rw [hreplies]
    exact Metrics.counts_observeAll (replies i s ws) rfl hlength

end Visit

/-- A volume is staged with a key, and expanded with it when the service has said what it is. -/
def visitsWithKey (key : String) : List Visit :=
  [.request (Request.alone (.stage
      { secretJourney.stage with secrets := .single Setting.luksKey key })),
    .info,
    .request (Request.alone (.expand
      { volumeId := "7-data", volumePath := "/staging/data"
        secrets := .single Setting.luksKey key }))]

theorem visitsWithKey_sameButKey :
    List.Forall₂ Visit.SameButKey (visitsWithKey "open sesame") (visitsWithKey "abracadabra") :=
  .cons (.request ⟨congrArg Request.stage (by decide), fun _ _ hchange => hchange⟩) <|
    .cons .info <|
      .cons (.request ⟨congrArg Request.expand (by decide), fun _ _ hchange => hchange⟩) .nil

/-- Two runs with different keys, of which nothing but what `cryptsetup` read is different. -/
theorem visitsWithKey_told_apart :
    Visit.replies default attachedNode (visitsWithKey "open sesame") =
        Visit.replies default attachedNode (visitsWithKey "abracadabra") ∧
      redactedState (Visit.after attachedNode (visitsWithKey "open sesame")) =
        redactedState (Visit.after attachedNode (visitsWithKey "abracadabra")) ∧
      (Visit.after attachedNode (visitsWithKey "open sesame")).2.commands ≠
        (Visit.after attachedNode (visitsWithKey "abracadabra")).2.commands := by
  obtain ⟨hreplies, hafter, -⟩ :=
    Visit.key_is_only_read_by_cryptsetup visitsWithKey_sameButKey default attachedNode
  exact ⟨hreplies, hafter, by decide +kernel⟩

end Node

end VolumePlugin
