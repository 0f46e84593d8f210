import VolumePlugin.Proofs.Controller.Attachment

/-! # Detaching volumes among requests at the same time

A request to detach a volume reads where the volume is attached, and then makes a call that does not
name the instance. The call takes the volume from whatever instance has it by then, which is another
one only if the volume was detached and attached again in between. -/

namespace VolumePlugin.Controller

open Cloud (Memory)
open Prog (Asks)

/-! ## The stages of the work -/

section Stages

variable {α : Type} {volume : Nat} {nodeId : String}

/-- Work that detaches the volume next, and nothing after that. -/
def Detaching (volume : Nat) (work : Prog Query.Answer α) : Prop :=
  ∃ next, work = .ask (.call (.detachVolume volume)) next ∧
    ∀ a, Asks Query.detachesNothing (next a)

/-- Work that reads where the volume is attached, and detaches it only if that concerns the node. -/
def Undecided (volume : Nat) (nodeId : String) (work : Prog Query.Answer α) : Prop :=
  ∃ next, work = .ask (.call (.getVolume volume)) next ∧
    ∀ a, Asks Query.detachesNothing (next a) ∨
      Detaching volume (next a) ∧ ∃ v n, a = .ok v ∧ v.attachment = some n ∧ concerns nodeId n

theorem not_detachesNothing {next : Except CloudError Unit → Prog Query.Answer α} :
    ¬ Asks Query.detachesNothing (.ask (A := Query.Answer) (.call (.detachVolume volume)) next) :=
  fun h => h.1 volume rfl

theorem detaching_detach (volume : Nat) : Detaching volume (detach volume).run := by
  refine ⟨_, attempt_bind_run .., fun a => ?_⟩
  cases a with
  | error e => dsimp only; split <;> trivial
  | ok _ => exact (asks_wait nofun).bind_run fun _ => trivial

theorem undecided_unpublish (req : ControllerUnpublishVolumeRequest) :
    Asks Query.detachesNothing (unpublishVolume req).run ∨
      Undecided (volumeNumber req.volumeId) req.nodeId (unpublishVolume req).run := by
  unfold unpublishVolume
  cases requireText "volume id" req.volumeId with
  | error e => exact .inl trivial
  | ok _ =>
      refine .inr ⟨_, attempt_bind_run .., fun a => ?_⟩
      cases a with
      | error e => left; dsimp only; split <;> trivial
      | ok v =>
          dsimp only
          split
          · exact .inl trivial
          · next n hn =>
              split
              · next hnode => exact .inr ⟨detaching_detach _, v, n, rfl, hn, hnode⟩
              · exact .inl trivial

end Stages

/-! ## Turns -/

section Turns

variable {ι : Type} [DecidableEq ι] {β : ι → Type} {s : Session β}

/-- What a turn does to an attachment, and what it had to ask for. -/
inductive Reattaches (s : Session β) (t : Turn ι) (id : Nat) : Prop where
  | same (h : (s.take t).provider.attachmentOf? id = s.provider.attachmentOf? id)
  | attaches (target : Nat) (next : Except CloudError RemoteVolume → Prog Query.Answer (β t.who))
      (hwork : s.work t.who = .ask (.call (.attachVolume id target)) next)
      (hbefore : s.provider.attachmentOf? id = none)
      (hafter : (s.take t).provider.attachmentOf? id = some target)
  | detaches (next : Except CloudError Unit → Prog Query.Answer (β t.who))
      (hwork : s.work t.who = .ask (.call (.detachVolume id)) next)
      (hafter : (s.take t).provider.attachmentOf? id = none)

theorem Session.take_reattaches (h : s.provider.Numbered) (t : Turn ι)
    (hwords : s.provider.nextId < (s.take t).provider.nextId →
      (s.take t).provider.nextId ≤ Text.wordBound) (id : Nat) : Reattaches s t id := by
  rcases s.take_provider t with heq | ⟨q, next, hwork, heq⟩
  · exact .same (by rw [heq])
  · rw [heq] at hwords
    have hturn := (t.moment.reply_answered h q).attachment hwords id
    rw [← heq] at hturn
    cases q with
    | wait volume goal =>
        rcases hturn with hsame | ⟨target, hc, -⟩ | ⟨hc, -⟩
        · exact .same hsame
        · cases hc
        · cases hc
    | call c =>
        rcases hturn with hsame | ⟨target, hc, hbefore, hafter⟩ | ⟨hc, hafter⟩
        · exact .same hsame
        · cases hc
          exact .attaches target next hwork hbefore hafter
        · cases hc
          exact .detaches next hwork hafter

/-- The turn in which a request reads where the volume is attached. -/
theorem Session.take_undecided (h : s.provider.Numbered) {t : Turn ι} {volume : Nat}
    {nodeId : String} (hwork : Undecided volume nodeId (s.work t.who)) :
    Asks Query.detachesNothing ((s.take t).work t.who) ∨
      Detaching volume ((s.take t).work t.who) ∧
        ∃ n, concerns nodeId n ∧ s.provider.attachmentOf? volume = some n ∧
          (s.take t).provider.attachmentOf? volume = some n := by
  obtain ⟨next, hask, hnext⟩ := hwork
  rw [Session.take_answered hask rfl]
  dsimp only
  rw [Function.update_self]
  refine (hnext _).imp_right ?_
  rintro ⟨hdetaching, v, n, hv, hn, hnode⟩
  have hattached := Memory.attachmentOf?_of_getVolume hv hn
  have hread := Memory.Observed.getVolume h.ordered volume
  exact ⟨hdetaching, n, hnode, hattached, (congrFun hread.attachmentOf? volume).trans hattached⟩

/-- Work that is asked to detach a volume has come to the stage for it. -/
theorem Session.after_detaching {i : ι} {volume : Nat} {nodeId : String}
    (hwork : Undecided volume nodeId (s.work i)) {turns : List (Turn ι)}
    {next : Except CloudError Unit → Prog Query.Answer (β i)}
    (hask : (s.after turns).work i = .ask (.call (.detachVolume volume)) next) :
    Detaching volume ((s.after turns).work i) := by
  have hstage := Session.after_work (i := i)
    (p := fun work => Undecided volume nodeId work ∨ Detaching volume work ∨
      Asks Query.detachesNothing work) ?_ (.inl hwork) turns
  · rw [hask] at hstage ⊢
    rcases hstage with ⟨next', heq, -⟩ | hdetaching | hasks
    · cases heq
    · exact hdetaching
    · exact absurd hasks not_detachesNothing
  · rintro q next (⟨next', heq, hnext⟩ | ⟨next', heq, hnext⟩ | hasks) a
    · cases heq
      exact .inr ((hnext a).symm.imp_left And.left)
    · cases heq
      exact .inr (.inr (hnext a))
    · exact .inr (.inr (hasks.2 a))

/-- A request that has come to detach a volume has read that this concerns its node. -/
theorem Session.exists_read (h : s.provider.Numbered) {i : ι} {volume : Nat} {nodeId : String}
    (hwork : Undecided volume nodeId (s.work i)) {turns : List (Turn ι)}
    (hdetaching : Detaching volume ((s.after turns).work i)) :
    ∃ past read future n, turns = past ++ read :: future ∧ read.who = i ∧ concerns nodeId n ∧
      (s.after past).provider.attachmentOf? volume = some n ∧
      (s.after (past ++ [read])).provider.attachmentOf? volume = some n ∧
      Detaching volume ((s.after (past ++ [read])).work i) := by
  have hdecided : ¬ Undecided volume nodeId ((s.after turns).work i) := by
    rintro ⟨next, hask, -⟩
    obtain ⟨next', hask', -⟩ := hdetaching
    cases hask.symm.trans hask'
  obtain ⟨past, read, future, rfl, hbefore, hread⟩ :=
    Session.exists_turn (p := fun s => Undecided volume nodeId (s.work i)) hwork hdecided
  have hwho : read.who = i := by
    by_contra hne
    rw [Session.take_work_of_ne _ (Ne.symm hne)] at hread
    exact hread hbefore
  subst hwho
  rcases Session.take_undecided (Session.after_numbered h past) hbefore with hasks | hturn
  · have hend := Session.after_asks hasks future
    rw [Session.after_append, Session.after_cons] at hdetaching
    obtain ⟨next, hask, -⟩ := hdetaching
    rw [hask] at hend
    exact absurd hend not_detachesNothing
  · obtain ⟨hnext, n, hnode, hseen, hafter⟩ := hturn
    refine ⟨past, read, future, n, rfl, rfl, hnode, hseen, ?_, ?_⟩
    · rwa [Session.after_append]
    · rwa [Session.after_append]

theorem Session.take_detaching {t : Turn ι} {volume : Nat} (h : Detaching volume (s.work t.who)) :
    Asks Query.detachesNothing ((s.take t).work t.who) := by
  obtain ⟨next, hask, hnext⟩ := h
  rw [Session.take_answered hask rfl]
  dsimp only
  rw [Function.update_self]
  exact hnext _

/-- A request that is still about to detach a volume has had no turn since it came to that. -/
theorem Session.who_ne_of_detaching {i : ι} {volume : Nat} (h : Detaching volume (s.work i))
    {turns : List (Turn ι)} (hend : Detaching volume ((s.after turns).work i)) :
    ∀ t ∈ turns, t.who ≠ i := by
  induction turns generalizing s with
  | nil => exact nofun
  | cons t turns ih =>
      have hwho : t.who ≠ i := by
        rintro rfl
        obtain ⟨next, hask, -⟩ := hend
        have hasks := Session.after_asks (Session.take_detaching h) turns
        rw [← Session.after_cons, hask] at hasks
        exact not_detachesNothing hasks
      rw [← Session.take_work_of_ne s hwho.symm] at h
      exact List.forall_mem_cons.mpr ⟨hwho, ih h hend⟩

/-- A turn of a session in which identifiers do not begin anew. -/
theorem Session.Throughout.reattaches {since : Nat} {past future : List (Turn ι)} {t : Turn ι}
    (h : s.Throughout (Memory.Unrepeated since) (past ++ t :: future)) (id : Nat) :
    Reattaches (s.after past) t id :=
  take_reattaches h.drop.before.numbered t
    (fun hlt => h.drop.first.words (Nat.lt_of_le_of_lt h.drop.before.counter hlt)) id

variable {requests : ι → Request} {since : Nat}

theorem Session.exists_removal (hasks : ∀ j, Asks (requests j).mayAsk (s.work j)) {volume n : Nat}
    (hn : s.provider.attachmentOf? volume = some n) {turns : List (Turn ι)}
    (hinv : s.Throughout (Memory.Unrepeated since) turns)
    (hgone : (s.after turns).provider.attachmentOf? volume ≠ some n) :
    ∃ past removal future req, turns = past ++ removal :: future ∧
      requests removal.who = .unpublish req ∧ volumeNumber req.volumeId = volume ∧
      (s.after past).provider.attachmentOf? volume = some n ∧
      (s.after (past ++ [removal])).provider.attachmentOf? volume = none := by
  obtain ⟨past, removal, future, rfl, hbefore, hafter⟩ :=
    Session.exists_turn (p := fun s => s.provider.attachmentOf? volume = some n) hn hgone
  cases hinv.reattaches volume with
  | same hsame => exact absurd (hsame.trans hbefore) hafter
  | attaches target next hwork hfree => simp [hbefore] at hfree
  | detaches next hwork hnone =>
      have hmay := Session.after_asks (hasks removal.who) past
      rw [hwork] at hmay
      obtain ⟨req, hreq, hid⟩ := Request.mayCall_detachVolume_iff.mp hmay.1
      exact ⟨past, removal, future, req, rfl, hreq, hid.symm, hbefore,
        by rwa [Session.after_append]⟩

theorem Session.exists_attachment (hasks : ∀ j, Asks (requests j).mayAsk (s.work j))
    {volume n : Nat} (hn : s.provider.attachmentOf? volume ≠ some n) {turns : List (Turn ι)}
    (hinv : s.Throughout (Memory.Unrepeated since) turns)
    (hattached : (s.after turns).provider.attachmentOf? volume = some n) :
    ∃ past attachment future req, turns = past ++ attachment :: future ∧
      requests attachment.who = .publish req ∧ volumeNumber req.volumeId = volume ∧
      instanceNumber req.nodeId = n ∧
      (s.after past).provider.attachmentOf? volume = none ∧
      (s.after (past ++ [attachment])).provider.attachmentOf? volume = some n := by
  obtain ⟨past, attachment, future, rfl, hbefore, hafter⟩ :=
    Session.exists_turn (p := fun s => s.provider.attachmentOf? volume ≠ some n) hn
      (not_not.mpr hattached)
  have hafter := not_not.mp hafter
  cases hinv.reattaches volume with
  | same hsame => exact absurd (hsame.symm.trans hafter) hbefore
  | attaches target next hwork hfree htarget =>
      obtain rfl : target = n := Option.some.inj (htarget.symm.trans hafter)
      have hmay := Session.after_asks (hasks attachment.who) past
      rw [hwork] at hmay
      obtain ⟨req, hreq, hid, hnode⟩ := Request.mayCall_attachVolume_iff.mp hmay.1
      exact ⟨past, attachment, future, req, rfl, hreq, hid.symm, hnode.symm, hfree,
        by rwa [Session.after_append]⟩
  | detaches next hwork hnone => simp [hnone] at hafter

end Turns

/-! ## Whom a request detaches a volume from -/

section Sessions

variable {ι : Type}

theorem asks_start (c : Controller) (requests : ι → Request) (m : Memory) (i : ι) :
    Asks (requests i).mayAsk ((Session.start c requests m).work i) :=
  asks_job c (requests i)

theorem undecided_start (c : Controller) {requests : ι → Request} (m : Memory) {i : ι}
    {req : ControllerUnpublishVolumeRequest} (hreq : requests i = .unpublish req) :
    Asks Query.detachesNothing ((Session.start c requests m).work i) ∨
      Undecided (volumeNumber req.volumeId) req.nodeId ((Session.start c requests m).work i) := by
  change Asks _ ((requests i).job c).run ∨ Undecided _ _ ((requests i).job c).run
  generalize requests i = r at hreq
  subst hreq
  exact undecided_unpublish req

variable [DecidableEq ι]

/-- A request to detach a volume has read that it is attached to an instance. Since then another
request has detached it from this instance, and after that yet another one has attached it to the
instance that it is attached to in the end. -/
inductive Overtaken (c : Controller) (requests : ι → Request) (m : Memory) (i : ι)
    (volume target current : Nat) : List (Turn ι) → Prop where
  | intro {past between meanwhile rest : List (Turn ι)} {read removal attachment : Turn ι}
      {removing : ControllerUnpublishVolumeRequest} {attaching : ControllerPublishVolumeRequest}
      (hread : read.who = i)
      (hseen : ((Session.start c requests m).after past).provider.attachmentOf? volume =
        some target)
      (hother : removal.who ≠ i)
      (hremoving : requests removal.who = .unpublish removing)
      (hremoved : volumeNumber removing.volumeId = volume)
      (hheld : ((Session.start c requests m).after
        (past ++ read :: between)).provider.attachmentOf? volume = some target)
      (hfree : ((Session.start c requests m).after
        (past ++ read :: (between ++ [removal]))).provider.attachmentOf? volume = none)
      (hattaching : requests attachment.who = .publish attaching)
      (hgiven : volumeNumber attaching.volumeId = volume)
      (hcurrent : instanceNumber attaching.nodeId = current)
      (hvacant : ((Session.start c requests m).after
        (past ++ read :: (between ++ removal :: meanwhile))).provider.attachmentOf? volume = none)
      (hattached : ((Session.start c requests m).after (past ++ read :: (between ++ removal ::
        (meanwhile ++ [attachment])))).provider.attachmentOf? volume = some current) :
      Overtaken c requests m i volume target current
        (past ++ read :: (between ++ removal :: (meanwhile ++ attachment :: rest)))

/-- A request that is about to detach a volume from another instance than the one that it has read
was overtaken. -/
theorem overtaken_of_detaching (c : Controller) {requests : ι → Request} {m : Memory} {i : ι}
    {volume current : Nat} {nodeId : String} (hnode : nodeId ≠ "")
    (hundecided : Undecided volume nodeId ((Session.start c requests m).work i))
    {turns : List (Turn ι)}
    (hinv : (Session.start c requests m).Throughout (Memory.Unrepeated m.nextId) turns)
    (hdetaching : Detaching volume (((Session.start c requests m).after turns).work i))
    (hattached : ((Session.start c requests m).after turns).provider.attachmentOf? volume =
      some current)
    (hother : current ≠ instanceNumber nodeId) :
    Overtaken c requests m i volume (instanceNumber nodeId) current turns := by
  have hasks := asks_start c requests m
  obtain ⟨past, read, future, n, rfl, hwho, hconcerns, hseen, hread, hstage⟩ :=
    Session.exists_read hinv.before.numbered hundecided hdetaching
  obtain rfl : n = instanceNumber nodeId := by simpa [concerns, hnode] using hconcerns
  -- From the read on, the attachment goes from the one that was read to none, and from none to the
  -- one that the volume has in the end.
  rw [Session.after_append_cons] at hattached hdetaching
  have hrest := hinv.drop_cons
  have hothers := Session.who_ne_of_detaching hstage hdetaching
  have hgone : (((Session.start c requests m).after (past ++ [read])).after
      future).provider.attachmentOf? volume ≠ some (instanceNumber nodeId) := by
    rw [hattached]
    simpa using hother
  obtain ⟨between, removal, future, removing, rfl, hremoving, hremoved, hheld, hfree⟩ :=
    Session.exists_removal (fun j => Session.after_asks (hasks j) _) hread hrest hgone
  rw [Session.after_append_cons] at hattached
  have hfresh : (((Session.start c requests m).after (past ++ [read])).after
      (between ++ [removal])).provider.attachmentOf? volume ≠ some current := by
    rw [hfree]
    exact nofun
  obtain ⟨meanwhile, attachment, rest, attaching, rfl, hattaching, hgiven, hcurrent, hvacant,
      hattached⟩ :=
    Session.exists_attachment (fun j => Session.after_asks (Session.after_asks (hasks j) _) _)
      hfresh hrest.drop_cons hattached
  exact .intro hwho hseen (hothers removal (by simp)) hremoving hremoved (by simpa using hheld)
    (by simpa using hfree) hattaching hgiven hcurrent (by simpa using hvacant)
    (by simpa using hattached)

/-- Requests at the same time, in any order of their turns. If some of them ask for new volumes,
identifiers must not begin anew. If the turn of a request to detach a volume from a node takes an
attachment away, it is one of this volume, and the instance is that of the node unless the request
was overtaken. -/
theorem detachment_over_session (c : Controller) {requests : ι → Request} {m : Memory}
    (h : m.Numbered) (turns : List (Turn ι)) (t : Turn ι)
    (hwords : (∃ i req, requests i = .create req) →
      ((Session.start c requests m).after (turns ++ [t])).provider.nextId ≤ Text.wordBound)
    {req : ControllerUnpublishVolumeRequest} (hreq : requests t.who = .unpublish req)
    (hnode : req.nodeId ≠ "") {id current : Nat}
    (hbefore : ((Session.start c requests m).after turns).provider.attachmentOf? id = some current)
    (hafter : ((Session.start c requests m).after (turns ++ [t])).provider.attachmentOf? id ≠
      some current) :
    id = volumeNumber req.volumeId ∧
      (current = instanceNumber req.nodeId ∨
        Overtaken c requests m t.who id (instanceNumber req.nodeId) current turns) := by
  have hinv := Session.unrepeated_of_creations c h hwords
  rw [Session.after_append] at hafter
  cases hinv.reattaches id with
  | same hsame => exact absurd (hsame.trans hbefore) hafter
  | attaches target next hwork hfree => simp [hbefore] at hfree
  | detaches next hwork hnone =>
      have hmay := Session.after_asks (asks_start c requests m t.who) turns
      rw [hwork] at hmay
      obtain ⟨req', hreq', rfl⟩ := Request.mayCall_detachVolume_iff.mp hmay.1
      obtain rfl : req = req' := by simpa [hreq] using hreq'
      have hundecided := (undecided_start c m hreq).resolve_left fun hnothing =>
        not_detachesNothing (hwork ▸ Session.after_asks hnothing turns)
      have hdetaching := Session.after_detaching hundecided hwork
      refine ⟨rfl, or_iff_not_imp_left.mpr fun hother => ?_⟩
      have hinv' := hinv.of_prefix (List.prefix_append turns [t])
      exact overtaken_of_detaching c hnode hundecided hinv' hdetaching hbefore hother

end Sessions

/-- A provider with a volume that is attached to the first of two instances. -/
def takenVolume : Memory :=
  { freeVolume with
    volumes := [⟨100, "data", 20, "us-east", .active, some 7, Memory.devicePath "data", []⟩] }

theorem takenVolume_numbered : takenVolume.Numbered where
  ordered := by unfold Memory.Ordered; decide
  fresh := by decide

def detachmentFrom (nodeId : String) : ControllerUnpublishVolumeRequest where
  volumeId := "100-data"
  nodeId := nodeId

/-- The volume is to be detached from one node, as is asked twice, and attached to another one. -/
inductive Relocation
  | detach
  | detachAgain
  | attach
deriving DecidableEq

abbrev Relocation.request : Relocation → Request
  | .detach | .detachAgain => .unpublish (detachmentFrom "7")
  | .attach => .publish (attachmentTo "8")

/-- After the first request has read, the second one is worked on, and then the third one until it
has attached the volume. -/
def relocationTurns : List (Turn Relocation) :=
  [⟨.detach, {}⟩, ⟨.detachAgain, {}⟩, ⟨.detachAgain, {}⟩,
    ⟨.attach, {}⟩, ⟨.attach, {}⟩, ⟨.attach, {}⟩]

theorem detachment_over_relocation :
    takenVolume.Numbered ∧
      ((Session.start ⟨"us-east", none⟩ Relocation.request takenVolume).after
        relocationTurns).provider.attachmentOf? 100 = some 8 ∧
      ((Session.start ⟨"us-east", none⟩ Relocation.request takenVolume).after
        (relocationTurns ++ [⟨.detach, {}⟩])).provider.attachmentOf? 100 ≠ some 8 ∧
      100 = volumeNumber "100-data" ∧
      (8 = instanceNumber "7" ∨
        Overtaken ⟨"us-east", none⟩ Relocation.request takenVolume .detach 100
          (instanceNumber "7") 8 relocationTurns) := by
  have hbefore : ((Session.start ⟨"us-east", none⟩ Relocation.request takenVolume).after
      relocationTurns).provider.attachmentOf? 100 = some 8 := by decide +kernel
  have hafter : ((Session.start ⟨"us-east", none⟩ Relocation.request takenVolume).after
      (relocationTurns ++ [⟨.detach, {}⟩])).provider.attachmentOf? 100 ≠ some 8 := by
    decide +kernel
  exact ⟨takenVolume_numbered, hbefore, hafter,
    detachment_over_session ⟨"us-east", none⟩ takenVolume_numbered relocationTurns ⟨.detach, {}⟩
      (fun _ => by decide +kernel)
      (rfl : Relocation.request .detach = .unpublish (detachmentFrom "7")) (by decide) hbefore
      hafter⟩

/-- The first request makes its call on what it had read before the others came. It takes the volume
from the instance of another node. -/
theorem detached_from_other_node :
    Relocation.request .detach = .unpublish (detachmentFrom "7") ∧ instanceNumber "7" = 7 ∧
      ((Session.start ⟨"us-east", none⟩ Relocation.request takenVolume).after
        relocationTurns).provider.attachmentOf? 100 = some 8 ∧
      ((Session.start ⟨"us-east", none⟩ Relocation.request takenVolume).after
        (relocationTurns ++ [⟨.detach, {}⟩])).provider.attachmentOf? 100 = none :=
  ⟨rfl, by decide +kernel⟩

end VolumePlugin.Controller
