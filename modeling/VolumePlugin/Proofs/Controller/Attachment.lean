import VolumePlugin.Proofs.Controller.Discipline
import VolumePlugin.Proofs.Controller.Questions

/-! # Attachments among requests at the same time

A call that attaches a volume fails if the volume is attached. So whatever the requests had read
before, the first attachment lasts as long as nobody detaches the volume. -/

namespace VolumePlugin.Controller

open Cloud (Memory)
open Prog (Asks Delivers)

/-! ## One request -/

/-- Volumes that are attached stay attached where they are. -/
def AttachmentsLast (m m' : Memory) : Prop :=
  ∀ id n, m.attachmentOf? id = some n → m'.attachmentOf? id = some n

/-- Whether a query leaves attachments to others. -/
def Query.detachesNothing (q : Query) : Prop :=
  ∀ id, q ≠ .call (.detachVolume id)

theorem attachmentsLast (since : Nat) :
    Discipline Query.detachesNothing (Memory.Unrepeated since) AttachmentsLast where
  refl _ _ _ hn := hn
  trans h h' id n hn := h' id n (h id n hn)
  turn {q m} now hq hm hm' id n hn := by
    have hanswered := now.reply_answered hm.numbered q
    have hwords := fun hlt => hm'.words (Nat.lt_of_le_of_lt hm.counter hlt)
    rcases hanswered.attachment hwords id with hsame | ⟨target, -, hfree, -⟩ | ⟨hc, -⟩
    · rw [hsame, hn]
    · simp [hn] at hfree
    · cases q with
      | call c => exact absurd (congrArg Query.call hc) (hq id)
      | wait volume goal => cases hc

/-- Work that leaves the volume attached to the instance if it succeeds, whatever requests there are
that detach nothing. -/
def Attaches (since id target : Nat) {α : Type} (job : Job α) (m : Memory) : Prop :=
  Delivers (Amid (Memory.Unrepeated since) AttachmentsLast) job m
    (fun _ m' => m'.attachmentOf? id = some target) (fun _ _ => True)

namespace Attaches

variable {α β : Type} {since id target : Nat} {m : Memory}

theorem done (h : m.attachmentOf? id = some target) (a : α) :
    Attaches since id target (pure a) m := h

theorem failed (e : CsiError) : Attaches since id target (throw e : Job α) m := trivial

theorem ofExcept {result : Except CsiError α} {f : α → Job β}
    (hf : ∀ a, Attaches since id target (f a) m) :
    Attaches since id target (Job.ofExcept result >>= f) m :=
  delivers_ofExcept_bind (fun _ _ => trivial) fun a _ => hf a

theorem attempt {c : Cloud.Call} {f : c.Answer → Job β}
    (hf : ∀ m₁ : Memory, m₁.Numbered →
      Attaches since id target (f (Memory.answer c m₁).1) (Memory.answer c m₁).2) :
    Attaches since id target (Job.attempt c >>= f) m :=
  Discipline.delivers_attempt fun m₁ _ hm₁ _ => hf m₁ hm₁.numbered

/-- A volume that is shown attached is attached there. -/
theorem existing {handle : String} {f : RemoteVolume → Job β}
    (hf : ∀ v m', (∀ n, v.attachment = some n → m'.attachmentOf? (volumeNumber handle) = some n) →
      Attaches since id target (f v) m') :
    Attaches since id target (existingVolume handle >>= f) m := by
  unfold existingVolume
  rw [bind_assoc]
  apply Attaches.attempt
  intro m₁ hm₁
  split
  · exact .failed _
  · next v hv =>
      apply hf v
      intro n hn
      have hread := Memory.Observed.getVolume hm₁.ordered (volumeNumber handle)
      exact (congrFun hread.attachmentOf? _).trans (Memory.attachmentOf?_of_getVolume hv hn)

theorem wait_bind (h : m.attachmentOf? id = some target) {volume : Nat} {goal : Goal}
    {f : RemoteVolume → Job β} (hf : ∀ v m', m'.attachmentOf? id = some target →
      Attaches since id target (f v) m') :
    Attaches since id target (Job.wait volume goal >>= f) m := by
  refine (Prog.delivers_bind ..).mpr (((attachmentsLast since).delivers_wait nofun).mono ?_ ?_)
  · exact fun v m' hlast => hf v m' (hlast id target h)
  · exact fun _ _ _ => trivial

end Attaches

theorem attaches_attach (since id target : Nat) (m : Memory) :
    Attaches since id target (attach id target) m := by
  apply Attaches.attempt
  intro m₁ _
  split
  · exact .failed _
  · apply Attaches.attempt
    intro m₂ _
    split
    · exact .failed _
    · exact .failed _
    · next v hv => exact .wait_bind (Memory.attachmentOf?_of_attachVolume hv) fun _ _ h => .done h _

/-- Whether it finds the volume attached or attaches it, a request that is granted has it attached
to the instance that it names. -/
theorem attaches_publish (since : Nat) (req : ControllerPublishVolumeRequest) (m : Memory) :
    Attaches since (volumeNumber req.volumeId) (instanceNumber req.nodeId) (publishVolume req)
      m := by
  apply Attaches.ofExcept
  intro _
  apply Attaches.ofExcept
  intro _
  apply Attaches.ofExcept
  intro _
  apply Attaches.existing
  intro v m' hshown
  split
  · next current hcurrent =>
      split
      · next heq => exact .done (heq ▸ hshown current hcurrent) _
      · exact .failed _
  · exact attaches_attach since (volumeNumber req.volumeId) (instanceNumber req.nodeId) m'

/-! ## Many requests -/

section Sessions

variable {ι : Type} [DecidableEq ι]

theorem asks_detachesNothing (c : Controller) {r : Request} (h : ∀ req, r ≠ .unpublish req) :
    Asks Query.detachesNothing (r.job c).run := by
  refine (asks_job c r).mono ?_
  rintro q hq id rfl
  obtain ⟨req, rfl, -⟩ := Request.mayCall_detachVolume_iff.mp hq
  exact h req rfl

/-- Identifiers are given out only to requests for volumes. -/
theorem Session.exists_creation {β : ι → Type} {s : Session β} {requests : ι → Request}
    (h : s.provider.Numbered) (hasks : ∀ i, Asks (requests i).mayAsk (s.work i))
    {turns : List (Turn ι)} (hmoved : s.provider.nextId < (s.after turns).provider.nextId) :
    ∃ i req, requests i = .create req := by
  obtain ⟨past, t, future, -, hbefore, hafter⟩ := Session.exists_turn
    (p := fun s' => s'.provider.nextId = s.provider.nextId) rfl (Nat.ne_of_gt hmoved)
  rcases (s.after past).take_provider t with heq | ⟨q, next, hwork, heq⟩
  · exact absurd ((congrArg Memory.nextId heq).trans hbefore) hafter
  · have hanswered := t.moment.reply_answered (Session.after_numbered h past) q
    rw [← heq] at hanswered
    have hmakes := hanswered.makes (Nat.lt_of_le_of_ne hanswered.counter fun hsame =>
      hafter (hsame.symm.trans hbefore))
    have hmay := Session.after_asks (hasks t.who) past
    rw [hwork] at hmay
    cases q with
    | call c => exact ⟨t.who, Request.exists_create_of_makes hmay.1 hmakes⟩
    | wait volume goal => cases hmakes

/-- A session in which identifiers do not begin anew, if it makes volumes at all. -/
theorem Session.unrepeated_of_creations (c : Controller) {requests : ι → Request} {m : Memory}
    (h : m.Numbered) {turns : List (Turn ι)}
    (hwords : (∃ i req, requests i = .create req) →
      ((Session.start c requests m).after turns).provider.nextId ≤ Text.wordBound) :
    (Session.start c requests m).Throughout (Memory.Unrepeated m.nextId) turns :=
  Session.throughout_unrepeated (s := Session.start c requests m) h fun hmoved =>
    hwords (Session.exists_creation (s := Session.start c requests m) h
      (fun i => asks_job c (requests i)) hmoved)

theorem attached_of_granted (c : Controller) {requests : ι → Request}
    (hkinds : ∀ i req, requests i ≠ .unpublish req) {m : Memory} {turns : List (Turn ι)}
    (hinv : (Session.start c requests m).Throughout (Memory.Unrepeated m.nextId) turns) {i : ι}
    {req : ControllerPublishVolumeRequest}
    (hreq : requests i = .publish req) {response : (requests i).Response}
    (hok : ((Session.start c requests m).after turns).work i = .done (.ok response)) :
    ((Session.start c requests m).after turns).provider.attachmentOf? (volumeNumber req.volumeId) =
      some (instanceNumber req.nodeId) := by
  have hasks : ∀ j, Asks Query.detachesNothing ((Session.start c requests m).work j) := fun j =>
    asks_detachesNothing c (hkinds j)
  have hwork : Attaches m.nextId (volumeNumber req.volumeId) (instanceNumber req.nodeId)
      ((requests i).job c) m := by
    generalize requests i = r at hreq
    subst hreq
    exact attaches_publish m.nextId req m
  have hafter := (attachmentsLast m.nextId).ensures_after hasks
    (fun _ _ _ hlast hr => hr.imp (fun _ hn => hlast _ _ hn) fun _ _ => trivial) hwork hinv
  rw [hok] at hafter
  exact hafter

/-- Requests at the same time of which none detaches volumes, in any order of their turns. If some
of them ask for new volumes, identifiers must not begin anew. A volume that is attached stays at the
provider and stays attached to its instance, all requests to attach it that are granted name one
instance, and the provider has it attached to this instance. -/
theorem attachment_over_session (c : Controller) {requests : ι → Request}
    (hkinds : ∀ i req, requests i ≠ .unpublish req) {m : Memory} (h : m.Numbered)
    (turns more : List (Turn ι))
    (hwords : (∃ i req, requests i = .create req) →
      ((Session.start c requests m).after (turns ++ more)).provider.nextId ≤ Text.wordBound) :
    (∀ id v n, ((Session.start c requests m).after turns).provider.volume? id = some v →
      v.attachment = some n →
      ∃ v', ((Session.start c requests m).after (turns ++ more)).provider.volume? id = some v' ∧
        v'.attachment = some n) ∧
    (∀ i req (response : (requests i).Response), requests i = .publish req →
      ((Session.start c requests m).after turns).work i = .done (.ok response) →
      ∃ v, ((Session.start c requests m).after turns).provider.volume?
          (volumeNumber req.volumeId) = some v ∧
        v.attachment = some (instanceNumber req.nodeId)) ∧
    ∀ i j req req' (response : (requests i).Response) (response' : (requests j).Response),
      requests i = .publish req → requests j = .publish req' →
      volumeNumber req.volumeId = volumeNumber req'.volumeId →
      ((Session.start c requests m).after turns).work i = .done (.ok response) →
      ((Session.start c requests m).after turns).work j = .done (.ok response') →
      instanceNumber req.nodeId = instanceNumber req'.nodeId := by
  have hasks : ∀ j, Asks Query.detachesNothing ((Session.start c requests m).work j) := fun j =>
    asks_detachesNothing c (hkinds j)
  have hwhole := Session.unrepeated_of_creations c h hwords
  have hinv := hwhole.of_prefix (List.prefix_append turns more)
  refine ⟨?_, ?_, ?_⟩
  · intro id v n hv hn
    have hlast := (attachmentsLast m.nextId).after (fun j => Session.after_asks (hasks j) turns)
      hwhole.drop id n
    rw [← Session.after_append] at hlast
    simp only [Memory.attachmentOf?, Option.bind_eq_some_iff] at hlast
    exact hlast ⟨v, hv, hn⟩
  · intro i req response hreq hok
    have hattached := attached_of_granted c hkinds hinv hreq hok
    simpa only [Memory.attachmentOf?, Option.bind_eq_some_iff] using hattached
  · intro i j req req' response response' hreq hreq' hvolume hok hok'
    have hattached := attached_of_granted c hkinds hinv hreq hok
    rw [hvolume, attached_of_granted c hkinds hinv hreq' hok'] at hattached
    exact (Option.some.inj hattached).symm

end Sessions

/-- A provider with a volume that is attached to neither of two instances. -/
def freeVolume : Memory where
  nextId := 101
  volumes := [⟨100, "data", 20, "us-east", .active, none, Memory.devicePath "data", []⟩]
  instances := [⟨7, "worker-7", "us-east", 1⟩, ⟨8, "worker-8", "us-east", 1⟩]

theorem freeVolume_numbered : freeVolume.Numbered where
  ordered := by unfold Memory.Ordered; decide
  fresh := by decide

def attachmentTo (nodeId : String) : ControllerPublishVolumeRequest where
  volumeId := "100-data"
  nodeId := nodeId
  volumeCapability := some { accessMode := some { mode := 1 } }

/-- The volume is wanted by two nodes, and is to be deleted. -/
abbrev rivals : Fin 3 → Request
  | 0 => .publish (attachmentTo "7")
  | 1 => .publish (attachmentTo "8")
  | 2 => .delete { volumeId := "100-data" }

/-- All of them see the volume detached. The second one attaches it before the others act. -/
def rivalTurns : List (Turn (Fin 3)) :=
  [⟨0, {}⟩, ⟨1, {}⟩, ⟨2, {}⟩, ⟨1, {}⟩, ⟨1, {}⟩]

def lateTurns : List (Turn (Fin 3)) :=
  [⟨0, {}⟩, ⟨0, {}⟩, ⟨2, {}⟩, ⟨1, {}⟩]

theorem attachment_over_rivals :
    let start := Session.start ⟨"us-east", none⟩ rivals freeVolume
    let reached := start.after (rivalTurns ++ lateTurns)
    (∃ v, reached.provider.volume? 100 = some v ∧ v.attachment = some 8) ∧
      reached.work 1 =
        .done (.ok
          { publishContext := .single Setting.devicePath (Memory.devicePath "data") }) := by
  intro start reached
  have hkinds : ∀ i req, rivals i ≠ .unpublish req := by
    intro i req
    match i with
    | 0 | 1 | 2 => exact nofun
  have hattached : (start.after rivalTurns).provider.volume? 100 =
      some ⟨100, "data", 20, "us-east", .active, some 8, Memory.devicePath "data", []⟩ := by
    decide +kernel
  have hsession := attachment_over_session ⟨"us-east", none⟩ hkinds freeVolume_numbered rivalTurns
    lateTurns (fun _ => by decide +kernel)
  refine ⟨hsession.1 100 _ 8 hattached rfl, ?_⟩
  · apply Prog.result?_eq_some_iff.mp
    change @Eq (Option (Except CsiError ControllerPublishVolumeResponse)) _ _
    decide +kernel

end VolumePlugin.Controller
