import VolumePlugin.Proofs.Controller.Publication

/-! # Attaching a volume and taking it back

Reads may hide attachments for a while, so what a request is told about a volume need not be so.
What it is answered is: when it succeeds, the provider is in a state that can be told from the state
before. -/

namespace VolumePlugin.Controller

open Cloud (Memory)
open Cloud.Memory (reread settle)

/-! ## Requests about a volume and an instance -/

/-- A well-formed request to attach a volume to an instance. -/
structure Joins (req : ControllerPublishVolumeRequest) (volume target : Nat) : Prop where
  handle : req.volumeId ≠ ""
  node : req.nodeId ≠ ""
  capability : ∃ cap, VolumeCapability.requireSingleNodeWriter req.volumeCapability = .ok cap
  volume_eq : volumeNumber req.volumeId = volume
  target_eq : instanceNumber req.nodeId = target

/-- A well-formed request to detach a volume from an instance. -/
structure Parts (req : ControllerUnpublishVolumeRequest) (volume target : Nat) : Prop where
  handle : req.volumeId ≠ ""
  node : req.nodeId ≠ ""
  volume_eq : volumeNumber req.volumeId = volume
  target_eq : instanceNumber req.nodeId = target

/-- A volume that has settled and is attached as given. -/
def settledWith (attachment : Option Nat) (v : RemoteVolume) : RemoteVolume :=
  { settle v with attachment := attachment }

@[simp] theorem settledWith_self (v : RemoteVolume) : settledWith v.attachment v = settle v := rfl

@[simp] theorem settle_settledWith (a : Option Nat) (v : RemoteVolume) :
    settle (settledWith a v) = settledWith a v :=
  congrArg (fun w : RemoteVolume => { w with attachment := a }) (Memory.settle_settle v)

@[simp] theorem settledWith_settledWith (a b : Option Nat) (v : RemoteVolume) :
    settledWith a (settledWith b v) = settledWith a v :=
  congrArg (fun w : RemoteVolume => { w with attachment := a }) (settle_settledWith b v)

section Runs

variable {m : Memory} {volume target : Nat} {v : RemoteVolume} {p : Poller} {t : Timeline}

/-! ## Waiting for a volume that has settled -/

/-- What a wait for a settled volume does: every read uses up a hidden read, and the last one shows
the volume as it was waited for. -/
theorem wait_settled (h : m.Ordered) (hv : m.volume? v.id = some v) (hsettled : settle v = v)
    {goal : Goal} {u : RemoteVolume} {t' : Timeline} {m' : Memory}
    (hwait : p.wait goal.action v.id 0 (probe Memory.answer v.id goal) t m = (.ok u, t', m')) :
    goal.isMet u ∧ ∃ k ≤ m.hiddenReads, m' = { m with hiddenReads := k - 1 } ∧
      u = { m with hiddenReads := k }.showing v := by
  have hread : ∀ k, ({ m with hiddenReads := k } : Memory).getVolume v.id =
      (.ok ({ m with hiddenReads := k }.showing v), { m with hiddenReads := k - 1 }) := by
    intro k
    rw [Memory.getVolume_eq (m := { m with hiddenReads := k }) hv,
      Memory.Ordered.afterRead_of_settled (m := { m with hiddenReads := k }) h hv hsettled]
  have hspec : Poller.ProbeSpec (probe Memory.answer v.id goal)
      (fun s => ∃ k ≤ m.hiddenReads, s = { m with hiddenReads := k })
      (fun u s => goal.isMet u ∧ ∃ k ≤ m.hiddenReads, s = { m with hiddenReads := k - 1 } ∧
        u = { m with hiddenReads := k }.showing v) := by
    constructor
    · rintro now s ⟨k, hk, rfl⟩
      simp only [probe, Memory.answer, hread]
      exact ⟨k - 1, by omega, rfl⟩
    · rintro now s u ⟨k, hk, rfl⟩ hu
      simp only [probe, Memory.answer, hread] at hu ⊢
      by_cases hmet : goal.isMet ({ m with hiddenReads := k }.showing v)
      · rw [if_pos hmet] at hu
        obtain rfl := Option.some.inj (Except.ok.inj hu)
        exact ⟨hmet, k, hk, rfl, rfl⟩
      · simp [hmet] at hu
  have hmade := (p.wait_spec goal.action v.id 0 hspec t ⟨m.hiddenReads, Nat.le_refl _, rfl⟩).2
  rw [hwait] at hmade
  exact hmade u rfl

/-! ## Attaching -/

theorem attachVolume_eq_ok {u : RemoteVolume} (hv : m.volume? volume = some v)
    (hok : (m.attachVolume volume target).1 = .ok u) :
    v.attachment = none ∧
      (m.attachVolume volume target).2 = m.putVolume { v with attachment := some target } := by
  unfold Memory.attachVolume at hok ⊢
  cases herror : m.attachError with
  | some e => simp [herror] at hok
  | none =>
      by_cases hinstance : (m.instance? target).isNone
      · simp [herror, hinstance] at hok
      · by_cases hfree : v.attachment.isSome
        · simp [herror, hinstance, hv, hfree] at hok
        · simp only [hv, hinstance, hfree]
          exact ⟨by simpa using hfree, rfl⟩

/-- Attaching a settled volume changes its attachment, and ends when no reads hide attachments any
more. -/
theorem attach_eq_ok (h : m.Ordered) (hv : m.volume? v.id = some v) (hsettled : settle v = v)
    {response : ControllerPublishVolumeResponse} {t' : Timeline} {m' : Memory}
    (hrun : (attach v.id target).run.run (answerQuery p Memory.answer) (t, m) =
      (.ok response, (t', m'))) :
    v.attachment = none ∧ response = published v ∧
      m' = { m.putVolume { v with attachment := some target } with hiddenReads := 0 } := by
  unfold attach at hrun
  rw [run_attempt_bind] at hrun
  cases hinstance : (Memory.answer (.getInstance target) m).1 with
  | error e =>
      rw [hinstance] at hrun
      cases hrun
  | ok i =>
      rw [hinstance] at hrun
      dsimp only at hrun
      rw [run_attempt_bind] at hrun
      cases hattach : (m.attachVolume v.id target).1 with
      | error e =>
          simp only [Memory.answer, hattach] at hrun
          cases e <;> cases hrun
      | ok u =>
          simp only [Memory.answer, hattach] at hrun
          obtain ⟨hfree, hput⟩ := attachVolume_eq_ok hv hattach
          rw [hput] at hrun
          obtain ⟨w, t₂, m₂, hwait, hrest⟩ := wait_bind_eq_ok (congrArg Prod.fst hrun)
          obtain ⟨hmet, k, hk, rfl, rfl⟩ := wait_settled
            (v := { v with attachment := some target }) (h.putVolume _) (by simp)
            (congrArg (fun u : RemoteVolume => { u with attachment := some target }) hsettled) hwait
          -- The read that ended the wait has shown the attachment, so it was not hidden.
          have hattached := (Memory.showing_attachment_eq_some_iff _ _ target).mp
            (of_decide_eq_true hmet)
          obtain rfl : k = 0 := hattached.1
          obtain ⟨hresponse, hafter⟩ := Prod.mk.inj (hrun.symm.trans hrest)
          exact ⟨hfree, Except.ok.inj hresponse, congrArg Prod.snd hafter⟩

@[simp] theorem published_showing (m : Memory) (v : RemoteVolume) :
    published (m.showing v) = published v := by
  unfold Memory.showing
  split <;> rfl

/-- A request to attach a volume is decided by what the first read shows. -/
theorem publishVolume_run {req : ControllerPublishVolumeRequest} (hreq : Joins req v.id target)
    (hv : m.volume? v.id = some v) :
    ((m.showing v).attachment = none →
      (publishVolume req).run.run (answerQuery p Memory.answer) (t, m) =
        (attach v.id target).run.run (answerQuery p Memory.answer) (t, m.afterRead v)) ∧
      ∀ current, (m.showing v).attachment = some current →
        (publishVolume req).run.run (answerQuery p Memory.answer) (t, m) =
          (if current = target then .ok (published v)
            else .error (.alreadyExists s!"volume {v.id} is attached to instance {current}"),
            (t, m.afterRead v)) ∧
        (publishVolume req).run.asked (answerQuery p Memory.answer) (t, m) =
          [.call (.getVolume v.id)] := by
  obtain ⟨hhandle, hnode, ⟨cap, hcap⟩, hid, rfl⟩ := hreq
  have hread : Memory.answer (.getVolume v.id) m = (.ok (m.showing v), m.afterRead v) :=
    Memory.getVolume_eq hv
  unfold publishVolume existingVolume
  rw [requireText_of_ne hhandle, requireText_of_ne hnode, hcap, hid]
  simp only [ofExcept_ok_bind, bind_assoc]
  rw [run_attempt_bind, asked_attempt_bind, hread]
  simp only [pure_bind]
  refine ⟨fun hnone => ?_, fun current hcurrent => ?_⟩
  · rw [hnone]
  · rw [hcurrent, ← published_showing m v]
    dsimp only
    split
    · exact ⟨rfl, rfl⟩
    · exact ⟨rfl, rfl⟩

theorem publishVolume_absent {req : ControllerPublishVolumeRequest}
    (hreq : Joins req volume target) (hv : m.volume? volume = none) :
    ((publishVolume req).run.run (answerQuery p Memory.answer) (t, m)).1 =
      .error (.volumeNotFound req.volumeId) := by
  obtain ⟨hhandle, hnode, ⟨cap, hcap⟩, rfl, rfl⟩ := hreq
  have hread : Memory.answer (.getVolume (volumeNumber req.volumeId)) m =
      (.error (Memory.noVolume (volumeNumber req.volumeId)), m) := Memory.getVolume_absent hv
  unfold publishVolume existingVolume
  rw [requireText_of_ne hhandle, requireText_of_ne hnode, hcap]
  simp only [ofExcept_ok_bind, bind_assoc]
  rw [run_attempt_bind, hread]
  rfl

/-- A request to attach a volume that succeeds has seen the attachment, so no reads hide attachments
any more, and nothing else has changed but that the volume has settled. -/
theorem publishVolume_eq_ok (h : m.Ordered) {req : ControllerPublishVolumeRequest}
    (hreq : Joins req volume target) {response : ControllerPublishVolumeResponse} {t' : Timeline}
    {m' : Memory}
    (hrun : (publishVolume req).run.run (answerQuery p Memory.answer) (t, m) =
      (.ok response, (t', m'))) :
    ∃ v, m.volume? volume = some v ∧ (v.attachment = none ∨ v.attachment = some target) ∧
      response = published v ∧
      m' = { m.putVolume (settledWith (some target) v) with hiddenReads := 0 } := by
  cases hv : m.volume? volume with
  | none =>
      have habsent := publishVolume_absent (p := p) (t := t) hreq hv
      rw [hrun] at habsent
      cases habsent
  | some v =>
      obtain rfl := Memory.id_of_volume? hv
      obtain ⟨hfree, hattached⟩ := publishVolume_run (p := p) (t := t) hreq hv
      refine ⟨v, rfl, ?_⟩
      cases hshown : (m.showing v).attachment with
      | none =>
          rw [hfree hshown] at hrun
          obtain ⟨hnone, rfl, rfl⟩ := attach_eq_ok (v := settle v) (h.afterRead v)
            (Memory.volume?_afterRead m v) (Memory.settle_settle v) hrun
          refine ⟨.inl hnone, rfl, ?_⟩
          have hput := Memory.putVolume_putVolume m (v := settle v)
            (w := settledWith (some target) v) rfl
          exact congrArg (fun after => { after with hiddenReads := 0 }) hput
      | some current =>
          rw [(hattached current hshown).1] at hrun
          obtain ⟨hhidden, hcurrent⟩ := (Memory.showing_attachment_eq_some_iff ..).mp hshown
          by_cases hsame : current = target
          · subst hsame
            rw [if_pos rfl] at hrun
            obtain ⟨hresponse, hafter⟩ := Prod.mk.inj hrun
            obtain ⟨-, rfl⟩ := Prod.mk.inj hafter
            refine ⟨.inr hcurrent, (Except.ok.inj hresponse).symm, ?_⟩
            rw [← hcurrent, settledWith_self]
            simp [Memory.afterRead, hhidden]
          · rw [if_neg hsame] at hrun
            cases hrun

/-! ## Detaching -/

/-- Detaching a settled volume changes its attachment and nothing else. -/
theorem detach_eq_ok (h : m.Ordered) (hv : m.volume? v.id = some v) (hsettled : settle v = v)
    {response : ControllerUnpublishVolumeResponse} {t' : Timeline} {m' : Memory}
    (hrun : (detach v.id).run.run (answerQuery p Memory.answer) (t, m) =
      (.ok response, (t', m'))) :
    ∃ k ≤ m.hiddenReads,
      m' = { m.putVolume { v with attachment := none } with hiddenReads := k - 1 } := by
  have hdetach : Memory.answer (.detachVolume v.id) m =
      (.ok (), m.putVolume { v with attachment := none }) := by
    simp [Memory.answer, Memory.detachVolume, hv]
  unfold detach at hrun
  rw [run_attempt_bind, hdetach] at hrun
  obtain ⟨w, t₂, m₂, hwait, hrest⟩ := wait_bind_eq_ok (congrArg Prod.fst hrun)
  obtain ⟨-, k, hk, rfl, -⟩ := wait_settled (v := { v with attachment := none }) (h.putVolume _)
    (by simp) (congrArg (fun u : RemoteVolume => { u with attachment := none }) hsettled) hwait
  obtain ⟨-, hafter⟩ := Prod.mk.inj (hrun.symm.trans hrest)
  exact ⟨k, hk, congrArg Prod.snd hafter⟩

/-- A request to detach a volume is decided by what the first read shows. -/
theorem unpublishVolume_run {req : ControllerUnpublishVolumeRequest} (hreq : Parts req v.id target)
    (hv : m.volume? v.id = some v) :
    ((m.showing v).attachment = some target →
      (unpublishVolume req).run.run (answerQuery p Memory.answer) (t, m) =
        (detach v.id).run.run (answerQuery p Memory.answer) (t, m.afterRead v)) ∧
      ((m.showing v).attachment ≠ some target →
        (unpublishVolume req).run.run (answerQuery p Memory.answer) (t, m) =
          (.ok {}, (t, m.afterRead v)) ∧
        (unpublishVolume req).run.asked (answerQuery p Memory.answer) (t, m) =
          [.call (.getVolume v.id)]) := by
  obtain ⟨hhandle, hnode, hid, rfl⟩ := hreq
  have hread : Memory.answer (.getVolume v.id) m = (.ok (m.showing v), m.afterRead v) :=
    Memory.getVolume_eq hv
  unfold unpublishVolume
  rw [requireText_of_ne hhandle, hid]
  simp only [ofExcept_ok_bind]
  rw [run_attempt_bind, asked_attempt_bind, hread]
  dsimp only
  cases hcurrent : (m.showing v).attachment with
  | none => exact ⟨nofun, fun _ => ⟨rfl, rfl⟩⟩
  | some current =>
      by_cases hconcerns : current = instanceNumber req.nodeId
      · simp [concerns, hconcerns]
      · have hleft : concerns req.nodeId current = false := by simp [concerns, hnode, hconcerns]
        simp only [hleft]
        exact ⟨fun hsame => absurd (Option.some.inj hsame) hconcerns, fun _ => ⟨rfl, rfl⟩⟩

theorem unpublishVolume_absent {req : ControllerUnpublishVolumeRequest}
    (hreq : Parts req volume target) (hv : m.volume? volume = none) :
    (unpublishVolume req).run.run (answerQuery p Memory.answer) (t, m) = (.ok {}, (t, m)) ∧
      (unpublishVolume req).run.asked (answerQuery p Memory.answer) (t, m) =
        [.call (.getVolume volume)] := by
  obtain ⟨hhandle, hnode, rfl, rfl⟩ := hreq
  have hread : Memory.answer (.getVolume (volumeNumber req.volumeId)) m =
      (.error (Memory.noVolume (volumeNumber req.volumeId)), m) := Memory.getVolume_absent hv
  unfold unpublishVolume
  rw [requireText_of_ne hhandle]
  simp only [ofExcept_ok_bind]
  rw [run_attempt_bind, asked_attempt_bind, hread]
  exact ⟨rfl, rfl⟩

/-- Where no reads hide attachments, a request to detach a volume that succeeds has the volume
detached from its instance, and leaves it attached to another one. -/
theorem unpublishVolume_eq_ok (h : m.Ordered) (hshown : m.hiddenReads = 0)
    {req : ControllerUnpublishVolumeRequest} (hreq : Parts req volume target)
    {response : ControllerUnpublishVolumeResponse} {t' : Timeline} {m' : Memory}
    (hrun : (unpublishVolume req).run.run (answerQuery p Memory.answer) (t, m) =
      (.ok response, (t', m'))) :
    m.volume? volume = none ∧ m' = m ∨
      ∃ v, m.volume? volume = some v ∧
        m' = { m.putVolume (settledWith
            (if v.attachment = some target then none else v.attachment) v) with
          hiddenReads := 0 } := by
  cases hv : m.volume? volume with
  | none =>
      rw [(unpublishVolume_absent hreq hv).1] at hrun
      obtain ⟨-, hafter⟩ := Prod.mk.inj hrun
      exact .inl ⟨rfl, (congrArg Prod.snd hafter).symm⟩
  | some v =>
      obtain rfl := Memory.id_of_volume? hv
      obtain ⟨htaken, hleft⟩ := unpublishVolume_run (p := p) (t := t) hreq hv
      have hshowing : m.showing v = v := if_neg (by omega)
      rw [hshowing] at htaken hleft
      refine .inr ⟨v, rfl, ?_⟩
      by_cases hcurrent : v.attachment = some target
      · rw [htaken hcurrent] at hrun
        obtain ⟨k, hk, rfl⟩ := detach_eq_ok (v := settle v) (h.afterRead v)
          (Memory.volume?_afterRead m v) (Memory.settle_settle v) hrun
        have hput := Memory.putVolume_putVolume m (v := settle v) (w := settledWith none v) rfl
        have hnone : k - 1 = 0 := by
          have hk : k ≤ m.hiddenReads - 1 := hk
          omega
        rw [if_pos hcurrent, hnone]
        exact congrArg (fun after => { after with hiddenReads := 0 }) hput
      · rw [(hleft hcurrent).1] at hrun
        obtain ⟨-, hafter⟩ := Prod.mk.inj hrun
        obtain ⟨-, rfl⟩ := Prod.mk.inj hafter
        rw [if_neg hcurrent, settledWith_self]
        simp [Memory.afterRead, hshown]

/-! ## What the answers say about the provider -/

theorem volume?_settledWith (a : Option Nat) (k : Nat) :
    ({ m.putVolume (settledWith a v) with hiddenReads := k } : Memory).volume? v.id =
      some (settledWith a v) :=
  (Memory.volume?_putVolume ..).trans (if_pos rfl)

theorem attachmentOf?_settledWith (a : Option Nat) (k id : Nat) :
    ({ m.putVolume (settledWith a v) with hiddenReads := k } : Memory).attachmentOf? id =
      if v.id = id then a else m.attachmentOf? id := by
  change ((m.putVolume (settledWith a v)).volume? id).bind (·.attachment) = _
  have hid : (settledWith a v).id = v.id := rfl
  rw [Memory.volume?_putVolume, hid]
  split <;> rfl

/-- Whoever asks again for an attachment that was granted gets the same answer after one read. -/
theorem publishVolume_again {req : ControllerPublishVolumeRequest} (hreq : Joins req v.id target)
    (hv : m.volume? v.id = some v) (hn : v.attachment = some target) (hshown : m.hiddenReads = 0) :
    ((publishVolume req).run.run (answerQuery p Memory.answer) (t, m)).1 = .ok (published v) ∧
      (publishVolume req).run.asked (answerQuery p Memory.answer) (t, m) =
        [.call (.getVolume v.id)] := by
  have hshowing := (Memory.showing_attachment_eq_some_iff m v target).mpr ⟨hshown, hn⟩
  obtain ⟨hrun, hasked⟩ := (publishVolume_run (p := p) (t := t) hreq hv).2 target hshowing
  rw [hrun, if_pos rfl]
  exact ⟨rfl, hasked⟩

theorem unpublishVolume_again {req : ControllerUnpublishVolumeRequest}
    (hreq : Parts req volume target) (hleft : m.attachmentOf? volume ≠ some target) :
    ((unpublishVolume req).run.run (answerQuery p Memory.answer) (t, m)).1 = .ok {} ∧
      (unpublishVolume req).run.asked (answerQuery p Memory.answer) (t, m) =
        [.call (.getVolume volume)] := by
  cases hv : m.volume? volume with
  | none =>
      obtain ⟨hrun, hasked⟩ := unpublishVolume_absent (p := p) (t := t) hreq hv
      rw [hrun]
      exact ⟨rfl, hasked⟩
  | some v =>
      obtain rfl := Memory.id_of_volume? hv
      have hshown : (m.showing v).attachment ≠ some target := by
        intro hshown
        have hattached := ((Memory.showing_attachment_eq_some_iff m v target).mp hshown).2
        exact hleft (by rw [Memory.attachmentOf?, hv]; exact hattached)
      obtain ⟨hrun, hasked⟩ := (unpublishVolume_run (p := p) (t := t) hreq hv).2 hshown
      rw [hrun]
      exact ⟨rfl, hasked⟩

end Runs

section Answers

variable {m m' : Memory} {volume target : Nat} {preq : ControllerPublishVolumeRequest}
  {ureq : ControllerUnpublishVolumeRequest} {p : Poller} {t t' : Timeline}

/-- A volume that was granted is attached, and whoever asks for it again is granted it again. -/
theorem publish_attaches (h : m.Ordered) (hp : Joins preq volume target)
    {response : ControllerPublishVolumeResponse}
    (hrun : (publishVolume preq).run.run (answerQuery p Memory.answer) (t, m) =
      (.ok response, (t', m'))) :
    m'.attachmentOf? volume = some target ∧ ∀ (p' : Poller) (now : Timeline),
      ((publishVolume preq).run.run (answerQuery p' Memory.answer) (now, m')).1 = .ok response ∧
        (publishVolume preq).run.asked (answerQuery p' Memory.answer) (now, m') =
          [.call (.getVolume volume)] := by
  obtain ⟨v, hv, -, rfl, rfl⟩ := publishVolume_eq_ok h hp hrun
  obtain rfl := Memory.id_of_volume? hv
  have hattached := volume?_settledWith (m := m) (v := v) (some target) 0
  refine ⟨?_, fun p' now => ?_⟩
  · rw [attachmentOf?_settledWith, if_pos rfl]
  · exact publishVolume_again (v := settledWith (some target) v) hp hattached rfl rfl

/-- A volume that is attached elsewhere is refused, and stays where it is. -/
theorem publish_refused (h : m.Ordered) (hp : Joins preq volume target) (hshown : m.hiddenReads = 0)
    {other : Nat} (hother : other ≠ target) (hattached : m.attachmentOf? volume = some other) :
    ((publishVolume preq).run.run (answerQuery p Memory.answer) (t, m)).1 =
        .error (.alreadyExists s!"volume {volume} is attached to instance {other}") ∧
      ((publishVolume preq).run.run (answerQuery p Memory.answer) (t, m)).2.2.attachmentOf? =
        m.attachmentOf? := by
  obtain ⟨v, hv, hn⟩ := Option.bind_eq_some_iff.mp hattached
  obtain rfl := Memory.id_of_volume? hv
  have hshowing := (Memory.showing_attachment_eq_some_iff m v other).mpr ⟨hshown, hn⟩
  have hread := Memory.Observed.getVolume h v.id
  rw [Memory.getVolume_eq hv] at hread
  rw [((publishVolume_run (p := p) (t := t) hp hv).2 other hshowing).1, if_neg hother]
  exact ⟨rfl, hread.attachmentOf?⟩

/-- A volume whose detachment was granted is not attached to the instance, every other attachment is
as it was, and whoever asks again is granted it again. -/
theorem unpublish_detaches (h : m.Ordered) (hu : Parts ureq volume target)
    (hshown : m.hiddenReads = 0) {response : ControllerUnpublishVolumeResponse}
    (hrun : (unpublishVolume ureq).run.run (answerQuery p Memory.answer) (t, m) =
      (.ok response, (t', m'))) :
    m'.attachmentOf? volume ≠ some target ∧
      (∀ id other, id ≠ volume ∨ other ≠ target → m.attachmentOf? id = some other →
        m'.attachmentOf? id = some other) ∧
      ∀ (p' : Poller) (now : Timeline),
        ((unpublishVolume ureq).run.run (answerQuery p' Memory.answer) (now, m')).1 = .ok {} ∧
          (unpublishVolume ureq).run.asked (answerQuery p' Memory.answer) (now, m') =
            [.call (.getVolume volume)] := by
  have hdetached : m'.attachmentOf? volume ≠ some target ∧
      ∀ id other, id ≠ volume ∨ other ≠ target → m.attachmentOf? id = some other →
        m'.attachmentOf? id = some other := by
    rcases unpublishVolume_eq_ok h hshown hu hrun with ⟨hnone, rfl⟩ | ⟨v, hv, rfl⟩
    · exact ⟨by simp [Memory.attachmentOf?, hnone], fun _ _ _ hkept => hkept⟩
    · obtain rfl := Memory.id_of_volume? hv
      have hbefore : m.attachmentOf? v.id = v.attachment := by simp [Memory.attachmentOf?, hv]
      refine ⟨?_, fun id other hne hkept => ?_⟩
      · rw [attachmentOf?_settledWith, if_pos rfl]
        split
        · exact (Option.some_ne_none target).symm
        · next hleft => exact hleft
      · rw [attachmentOf?_settledWith]
        by_cases hid : v.id = id
        · subst hid
          rw [hbefore] at hkept
          have hother : other ≠ target := hne.resolve_left fun h => h rfl
          simpa [hkept] using hother
        · rwa [if_neg hid]
  exact ⟨hdetached.1, hdetached.2, fun p' now => unpublishVolume_again hu hdetached.1⟩

/-- An attachment that is taken back leaves no trace but that the volume has settled. -/
theorem unpublish_restores (h : m.Ordered) (hp : Joins preq volume target)
    (hu : Parts ureq volume target) (hfree : m.attachmentOf? volume = none)
    {response : ControllerPublishVolumeResponse} {response' : ControllerUnpublishVolumeResponse}
    (hrun : (publishVolume preq).run.run (answerQuery p Memory.answer) (t, m) =
      (.ok response, (t', m'))) {p' : Poller} {now later : Timeline} {m'' : Memory}
    (hrun' : (unpublishVolume ureq).run.run (answerQuery p' Memory.answer) (now, m') =
      (.ok response', (later, m''))) :
    m''.volumes = m.volumes.map (reread fun id => id = volume) := by
  obtain ⟨v, hv, -, -, rfl⟩ := publishVolume_eq_ok h hp hrun
  obtain rfl := Memory.id_of_volume? hv
  have hattached := volume?_settledWith (m := m) (v := v) (some target) 0
  have hordered : ({ m.putVolume (settledWith (some target) v) with hiddenReads := 0 } :
      Memory).Ordered := h.putVolume _
  have hnone : v.attachment = none := by simpa [Memory.attachmentOf?, hv] using hfree
  rcases unpublishVolume_eq_ok hordered rfl hu hrun' with ⟨habsent, -⟩ | ⟨w, hw, rfl⟩
  · rw [hattached] at habsent
    cases habsent
  · obtain rfl : settledWith (some target) v = w := Option.some.inj (hattached.symm.trans hw)
    have hput : (m.putVolume (settledWith (some target) v)).putVolume (settle v) =
        m.putVolume (settle v) := Memory.putVolume_putVolume m rfl
    have hback : settledWith none v = settle v := hnone ▸ settledWith_self v
    have hcurrent : (settledWith (some target) v).attachment = some target := rfl
    rw [← h.putVolume_settle hv, ← hput, if_pos hcurrent, settledWith_settledWith, hback]
    rfl

end Answers

/-- What requests to attach a volume to an instance and to detach it again say about the provider.
Whatever reads hide, an attachment that was granted is there, and is granted again after one read.
Where no reads hide attachments, a volume that is attached elsewhere is refused, and a detachment
that was granted has ended this attachment and no other one, and is granted again after one read.
One request undoes what the other one has done, up to the statuses that reads settle. -/
theorem attachments_follow_answers {m : Memory} (h : m.Ordered)
    {preq : ControllerPublishVolumeRequest} {ureq : ControllerUnpublishVolumeRequest}
    {volume target : Nat} (hp : Joins preq volume target) (hu : Parts ureq volume target)
    (p : Poller) (t : Timeline) :
    let publish (p : Poller) (t : Timeline) (m : Memory) :=
      (publishVolume preq).run.run (answerQuery p Memory.answer) (t, m)
    let unpublish (p : Poller) (t : Timeline) (m : Memory) :=
      (unpublishVolume ureq).run.run (answerQuery p Memory.answer) (t, m)
    (∀ response t' m', publish p t m = (.ok response, (t', m')) →
      m'.attachmentOf? volume = some target ∧
        ∀ p' now, (publish p' now m').1 = .ok response ∧
          (publishVolume preq).run.asked (answerQuery p' Memory.answer) (now, m') =
            [.call (.getVolume volume)]) ∧
      (m.hiddenReads = 0 → ∀ other, other ≠ target → m.attachmentOf? volume = some other →
        (publish p t m).1 =
            .error (.alreadyExists s!"volume {volume} is attached to instance {other}") ∧
          (publish p t m).2.2.attachmentOf? = m.attachmentOf?) ∧
      (m.hiddenReads = 0 → ∀ response t' m', unpublish p t m = (.ok response, (t', m')) →
        m'.attachmentOf? volume ≠ some target ∧
          (∀ id other, id ≠ volume ∨ other ≠ target → m.attachmentOf? id = some other →
            m'.attachmentOf? id = some other) ∧
          ∀ p' now, (unpublish p' now m').1 = .ok {} ∧
            (unpublishVolume ureq).run.asked (answerQuery p' Memory.answer) (now, m') =
              [.call (.getVolume volume)]) ∧
      (m.attachmentOf? volume = none → ∀ response t' m',
        publish p t m = (.ok response, (t', m')) → ∀ p' now response' later m'',
          unpublish p' now m' = (.ok response', (later, m'')) →
            m''.volumes = m.volumes.map (reread fun id => id = volume)) :=
  ⟨fun _ _ _ hrun => publish_attaches h hp hrun,
    fun hshown _ hother hattached => publish_refused h hp hshown hother hattached,
    fun hshown _ _ _ hrun => unpublish_detaches h hu hshown hrun,
    fun hfree _ _ _ hrun _ _ _ _ _ hrun' => unpublish_restores h hp hu hfree hrun hrun'⟩

/-- A provider with a volume that was just made, whose next two reads hide attachments. -/
def shyProvider : Memory where
  nextId := 101
  volumes := [⟨100, "data", 20, "us-east", .creating, none, Memory.devicePath "data", []⟩]
  instances := [⟨7, "worker-7", "us-east", 1⟩]
  hiddenReads := 2

/-- The provider when the volume is attached. -/
def shyProviderTaken : Memory :=
  { shyProvider with
    volumes := [⟨100, "data", 20, "us-east", .active, some 7, Memory.devicePath "data", []⟩]
    hiddenReads := 0 }

def joinRequest : ControllerPublishVolumeRequest where
  volumeId := "100-data"
  nodeId := "7"
  volumeCapability := some { accessMode := some { mode := 1 } }

def partRequest : ControllerUnpublishVolumeRequest where
  volumeId := "100-data"
  nodeId := "7"

theorem joinRequest_joins : Joins joinRequest 100 7 where
  handle := by decide
  node := by decide
  capability := ⟨{ accessMode := some { mode := 1 } }, by decide +kernel⟩
  volume_eq := by decide +kernel
  target_eq := by decide +kernel

theorem partRequest_parts : Parts partRequest 100 7 where
  handle := by decide
  node := by decide
  volume_eq := by decide +kernel
  target_eq := by decide +kernel

theorem attachments_follow_answers_shy :
    shyProviderTaken.attachmentOf? 100 = some 7 ∧
      ((unpublishVolume partRequest).run.run (answerQuery ⟨10, 100, false, 0⟩ Memory.answer)
          ({ now := 10 }, shyProviderTaken)).2.2.volumes =
        shyProvider.volumes.map (reread fun id => id = 100) := by
  have hordered : shyProvider.Ordered := by
    unfold Memory.Ordered
    decide
  have hpublished : (publishVolume joinRequest).run.run
      (answerQuery ⟨10, 100, false, 0⟩ Memory.answer) ({}, shyProvider) =
        (.ok { publishContext := .single Setting.devicePath (Memory.devicePath "data") },
          ({ now := 10 }, shyProviderTaken)) := by
    decide +kernel
  have hunpublished : ((unpublishVolume partRequest).run.run
      (answerQuery ⟨10, 100, false, 0⟩ Memory.answer) ({ now := 10 }, shyProviderTaken)).1 =
        .ok {} := by
    decide +kernel
  have hfollow := attachments_follow_answers hordered joinRequest_joins partRequest_parts
    ⟨10, 100, false, 0⟩ {}
  exact ⟨(hfollow.1 _ _ _ hpublished).1, hfollow.2.2.2 rfl _ _ _ hpublished ⟨10, 100, false, 0⟩
    { now := 10 } {} _ _ (Prod.ext hunpublished rfl)⟩

end VolumePlugin.Controller
