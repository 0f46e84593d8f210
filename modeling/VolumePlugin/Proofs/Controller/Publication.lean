import VolumePlugin.Proofs.Controller.Questions

/-! # Attaching a volume to an instance

A request to attach a volume is about one volume and one instance. Whatever comes of it, all that it
may do is to attach the one to the other, and when it is granted this is how things are. -/

namespace VolumePlugin.Controller

open Cloud (Memory)
open Cloud.Memory (Observed Shown settle)
open Prog (Asks Delivers Ensures)

/-! ## Questions about a volume and an instance -/

/-- Whether a query looks at the volume or at the instance, or attaches the one to the other. -/
def Query.joins (volume target : Nat) : Query → Prop
  | .call (.getVolume id) => id = volume
  | .call (.getInstance id) => id = target
  | .call (.attachVolume id n) => id = volume ∧ n = target
  | .call _ => False
  | .wait id goal => id = volume ∧ goal = .attachment (some target)

theorem asks_joins_attach (volume target : Nat) :
    Asks (Query.joins volume target) (attach volume target).run := by
  have hinstance : Query.joins volume target (.call (.getInstance target)) := rfl
  have hattach : Query.joins volume target (.call (.attachVolume volume target)) := ⟨rfl, rfl⟩
  have hwait : Query.joins volume target (.wait volume (.attachment (some target))) := ⟨rfl, rfl⟩
  apply (asks_attempt hinstance).bind_run
  intro answer
  split
  · trivial
  · apply (asks_attempt hattach).bind_run
    intro answer
    split
    · trivial
    · trivial
    · exact (asks_wait hwait).bind_run fun _ => trivial

theorem asks_joins_publish (req : ControllerPublishVolumeRequest) :
    Asks (Query.joins (volumeNumber req.volumeId) (instanceNumber req.nodeId))
      (publishVolume req).run := by
  apply (asks_ofExcept _).bind_run
  intro _
  apply (asks_ofExcept _).bind_run
  intro _
  apply (asks_ofExcept _).bind_run
  intro _
  have hread : Query.joins (volumeNumber req.volumeId) (instanceNumber req.nodeId)
      (.call (.getVolume (volumeNumber req.volumeId))) := rfl
  apply (asks_existingVolume _ hread).bind_run
  intro v
  split
  · split <;> trivial
  · exact asks_joins_attach _ _

/-! ## What they do to the provider -/

/-- The provider is the same, but that the volume, if it was attached to nothing, may have got
attached to the instance, and that what was going on with the volume may be over. -/
structure Joined (volume target : Nat) (m m' : Memory) : Prop where
  others : ∀ id, id ≠ volume → m'.volume? id = m.volume? id
  itself : (m'.volume? volume).map settle = (m.volume? volume).map settle ∨
    ∃ v, m.volume? volume = some v ∧ v.attachment = none ∧
      (m'.volume? volume).map settle = some (settle { v with attachment := some target })
  instances : m'.instances = m.instances
  counter : m'.nextId = m.nextId

namespace Joined

variable {volume target : Nat} {m m' m'' : Memory}

theorem refl (volume target : Nat) (m : Memory) : Joined volume target m m :=
  ⟨fun _ _ => rfl, .inl rfl, rfl, rfl⟩

theorem trans (h : Joined volume target m m') (h' : Joined volume target m' m'') :
    Joined volume target m m'' := by
  refine ⟨fun id hid => (h'.others id hid).trans (h.others id hid), ?_,
    h'.instances.trans h.instances, h'.counter.trans h.counter⟩
  rcases h'.itself with hsame' | ⟨u, hu, hfree, hattached⟩
  · rw [hsame']
    exact h.itself
  · rcases h.itself with hsame | ⟨v, hv, -, hattached'⟩
    · -- The volume that got attached is the one from before, in another status at most.
      rw [hu, Option.map_some, eq_comm, Option.map_eq_some_iff] at hsame
      obtain ⟨v, hv, hsettle⟩ := hsame
      have hfields := RemoteVolume.mk.inj hsettle
      have hattachment : v.attachment = u.attachment := hfields.2.2.2.2.2.1
      refine .inr ⟨v, hv, hattachment.trans hfree, hattached.trans ?_⟩
      have hsettle' : settle { v with attachment := some target } =
          settle { u with attachment := some target } :=
        congrArg (fun w : RemoteVolume => { w with attachment := some target }) hsettle
      rw [hsettle']
    · rw [hu, Option.map_some, Option.some.injEq] at hattached'
      have hattachment : u.attachment = some target :=
        congrArg RemoteVolume.attachment hattached'
      simp [hfree] at hattachment

/-- The volume has changed in place. -/
theorem putVolume {v w : RemoteVolume} (hw : m.volume? v.id = some w)
    (h : settle v = settle w ∨
      w.attachment = none ∧ settle v = settle { w with attachment := some target }) :
    Joined v.id target m (m.putVolume v) := by
  refine ⟨fun id hid => ?_, ?_, rfl, rfl⟩
  · rw [Memory.volume?_putVolume, if_neg hid.symm]
  · rw [Memory.volume?_putVolume, if_pos rfl, hw, Option.map_some, Option.map_some]
    refine h.imp (congrArg some) ?_
    rintro ⟨hfree, hv⟩
    exact ⟨w, rfl, hfree, congrArg some hv⟩

theorem getVolume (volume target : Nat) (m : Memory) :
    Joined volume target m (m.getVolume volume).2 := by
  cases hv : m.volume? volume with
  | none => simpa [Memory.getVolume, hv] using refl volume target m
  | some v =>
      obtain rfl := Memory.id_of_volume? hv
      have hput : Joined v.id target m (m.putVolume (settle v)) :=
        putVolume (v := settle v) hv (.inl (Memory.settle_settle v))
      simp only [Memory.getVolume, hv]
      exact ⟨hput.others, hput.itself, hput.instances, hput.counter⟩

theorem attachVolume (volume target : Nat) (m : Memory) :
    Joined volume target m (m.attachVolume volume target).2 := by
  unfold Memory.attachVolume
  split
  · exact ⟨fun _ _ => rfl, .inl rfl, rfl, rfl⟩
  · split
    · exact refl volume target m
    · split
      · exact refl volume target m
      · next v hv =>
          split
          · exact refl volume target m
          · next hfree =>
              obtain rfl := Memory.id_of_volume? hv
              exact putVolume (v := { v with attachment := some target }) hv
                (.inr ⟨by simpa using hfree, rfl⟩)

theorem probe (volume target : Nat) (start : Memory) (goal : Goal) :
    Poller.ProbeSpec (probe Memory.answer volume goal) (Joined volume target start)
      fun _ _ => True where
  keep _ s hs := by
    have hread := hs.trans (getVolume volume target s)
    unfold Controller.probe
    simp only [Memory.answer]
    rcases hget : s.getVolume volume with ⟨result, s'⟩
    rw [hget] at hread
    cases result <;> exact hread
  find _ _ _ _ _ := trivial

theorem of_answers {q : Query} {a : q.Answer} (hq : q.joins volume target)
    (ha : Answers q m a m') : Joined volume target m m' := by
  cases q with
  | wait id goal =>
      obtain ⟨rfl, -⟩ := hq
      obtain ⟨p, t, t', hwait⟩ := ha
      have hspec := p.wait_spec goal.action id 0 (probe id target m goal) t (refl id target m)
      rw [hwait] at hspec
      exact hspec.1
  | call c =>
      obtain ⟨-, rfl⟩ := Prod.mk.inj ha
      cases c with
      | getVolume id =>
          obtain rfl : id = volume := hq
          exact getVolume id target m
      | attachVolume id n =>
          obtain ⟨rfl, rfl⟩ : id = volume ∧ n = target := hq
          exact attachVolume id n m
      | getInstance id => exact refl volume target m
      | listVolumes _ => exact hq.elim
      | createVolume _ => exact hq.elim
      | deleteVolume _ => exact hq.elim
      | detachVolume _ => exact hq.elim
      | resizeVolume _ _ => exact hq.elim
      | cloneVolume _ _ => exact hq.elim
      | listInstances _ => exact hq.elim

theorem ensures {α : Type} {work : Prog Query.Answer α}
    (h : Asks (Query.joins volume target) work) (m : Memory) :
    Ensures Answers work m fun _ m' => Joined volume target m m' :=
  h.keeps (Joined volume target m) (fun _ _ _ _ hq ha hs => hs.trans (of_answers hq ha))
    (refl volume target m)

end Joined

/-! ## Requests that are granted -/

/-- Reads may hide an attachment, so a volume that is shown attached is shown as it is. -/
theorem shown_attached {v w : RemoteVolume} {n : Nat} (h : Shown v w)
    (hn : v.attachment = some n) : v = w := by
  rcases h with rfl | rfl
  · rfl
  · cases hn

/-- Work that has a volume attached to an instance if it succeeds, and says where the device is. -/
def Publishes (volume target : Nat) (job : Job ControllerPublishVolumeResponse) (m : Memory) :
    Prop :=
  Delivers Answers job m
    (fun response m' => ∃ v, m'.volume? volume = some v ∧ v.attachment = some target ∧
      response = published v) (fun _ _ => True)

theorem Publishes.ofExcept {α : Type} {volume target : Nat} {result : Except CsiError α}
    {f : α → Job ControllerPublishVolumeResponse} {m : Memory}
    (hf : ∀ a, Publishes volume target (f a) m) :
    Publishes volume target (Job.ofExcept result >>= f) m :=
  delivers_ofExcept_bind (fun _ _ => trivial) fun a _ => hf a

theorem publishes_attach {m : Memory} (h : m.Numbered) (volume target : Nat) :
    Publishes volume target (attach volume target) m := by
  unfold attach Publishes
  rw [Prog.delivers_bind, delivers_attempt]
  split
  · trivial
  · have hinstance := (Memory.answered h (.getInstance target)).numbered
    have hattached := (Memory.answered hinstance (.attachVolume volume target)).numbered
    rw [Prog.delivers_bind, delivers_attempt]
    split
    · trivial
    · trivial
    · refine (Prog.delivers_bind ..).mpr ((delivers_wait hattached.ordered volume _).mono ?_ ?_)
      · rintro v m' ⟨-, hmet, w, hshown, hw⟩
        have hv : v.attachment = some target := by simpa [Goal.isMet] using hmet
        obtain rfl := shown_attached hshown hv
        exact ⟨settle v, hw, hv, rfl⟩
      · exact fun _ _ _ => trivial

/-- Whether it finds the volume attached or attaches it, a request that is granted has it attached
to the instance that it names, and says where the provider has put the device. -/
theorem publishes_publish {m : Memory} (h : m.Numbered) (req : ControllerPublishVolumeRequest) :
    Publishes (volumeNumber req.volumeId) (instanceNumber req.nodeId) (publishVolume req) m := by
  apply Publishes.ofExcept
  intro _
  apply Publishes.ofExcept
  intro _
  apply Publishes.ofExcept
  intro _
  have hread := (Memory.answered h (.getVolume (volumeNumber req.volumeId))).numbered
  dsimp only
  unfold existingVolume Publishes
  rw [bind_assoc, Prog.delivers_bind, delivers_attempt]
  split
  · trivial
  · next v hshown =>
      obtain ⟨w, -, hvw, hw⟩ := Memory.getVolume_eq_ok hshown
      rw [pure_bind]
      cases hv : v.attachment with
      | none => exact publishes_attach hread _ _
      | some current =>
          dsimp only
          split
          · next heq =>
              obtain rfl := shown_attached hvw hv
              exact ⟨settle v, hw, hv.trans (congrArg some heq), rfl⟩
          · trivial

/-! ## What it takes for a request to be granted -/

section Running

variable {β : Type} {p : Poller} {t : Timeline} {m : Memory}

/-- A wait for what a read shows is over at once. -/
theorem run_wait_bind {volume : Nat} {goal : Goal} {v : RemoteVolume} (f : RemoteVolume → Job β)
    (hsignal : p.forbids t.signal = false) (hv : (m.getVolume volume).1 = .ok v)
    (hmet : goal.isMet v) :
    (Job.wait volume goal >>= f).run.run (answerQuery p Memory.answer) (t, m) =
      (f v).run.run (answerQuery p Memory.answer) (t.advance 0, (m.getVolume volume).2) := by
  have hprobe : probe Memory.answer volume goal t.now m =
      (.ok (some v), (m.getVolume volume).2) := by
    unfold probe
    simp only [Memory.answer]
    rcases hget : m.getVolume volume with ⟨result, m'⟩
    rw [hget] at hv
    obtain rfl : result = .ok v := hv
    simp [hmet]
  have hwait : p.wait goal.action volume 0 (probe Memory.answer volume goal) t m =
      (.ok v, t.advance 0, (m.getVolume volume).2) := Poller.wait_of_probe hsignal hprobe
  have hanswer : answerQuery p Memory.answer (.wait volume goal) (t, m) =
      (.ok v, (t.advance 0, (m.getVolume volume).2)) := by
    simp only [answerQuery, hwait]
  change Prog.run _ (Prog.ask (A := Query.Answer) (.wait volume goal) _) _ = _
  rw [Prog.run, hanswer]
  rfl

end Running

theorem requireText_of_ne {what text : String} (h : text ≠ "") : requireText what text = .ok () :=
  if_neg h

/-- Nothing keeps the provider from attaching a volume, and no attachment is hidden. -/
structure Willing (m : Memory) (volume target : Nat) : Prop where
  free : ∃ v, m.volume? volume = some v ∧ (v.attachment = none ∨ v.attachment = some target)
  present : (m.instance? target).isSome
  calm : m.attachError = none
  shown : m.hiddenReads = 0

theorem attach_granted {m : Memory} {volume target : Nat} {v : RemoteVolume}
    (hv : m.volume? volume = some v) (hfree : v.attachment = none)
    (hinstance : (m.instance? target).isSome) (hcalm : m.attachError = none)
    (hshown : m.hiddenReads = 0) {p : Poller} {t : Timeline}
    (hsignal : p.forbids t.signal = false) :
    ∃ response, ((attach volume target).run.run (answerQuery p Memory.answer) (t, m)).1 =
      .ok response := by
  obtain ⟨i, hi⟩ := Option.isSome_iff_exists.mp hinstance
  let attached : RemoteVolume := { v with attachment := some target }
  have hattach : m.attachVolume volume target = (.ok attached, m.putVolume attached) := by
    simp [Memory.attachVolume, hcalm, hi, hv, hfree, attached]
  have hput : (m.putVolume attached).volume? volume = some attached := by
    rw [Memory.volume?_putVolume]
    exact if_pos (Memory.id_of_volume? hv)
  have hget : ((m.putVolume attached).getVolume volume).1 = .ok attached := by
    have hshown' : (m.putVolume attached).hiddenReads = 0 := hshown
    simp [Memory.getVolume, hput, hshown']
  unfold attach
  rw [run_attempt_bind]
  simp only [Memory.answer, hi]
  rw [run_attempt_bind]
  simp only [Memory.answer, hattach]
  rw [run_wait_bind _ hsignal hget (by simp [Goal.isMet, attached])]
  exact ⟨published attached, rfl⟩

/-- A request that the provider is willing to grant is granted, unless the process shuts down. -/
theorem publish_granted {m : Memory} {req : ControllerPublishVolumeRequest}
    (h : Willing m (volumeNumber req.volumeId) (instanceNumber req.nodeId))
    (hvolume : req.volumeId ≠ "") (hnode : req.nodeId ≠ "") {cap : VolumeCapability}
    (hcap : VolumeCapability.requireSingleNodeWriter req.volumeCapability = .ok cap)
    {p : Poller} {t : Timeline} (hsignal : p.forbids t.signal = false) :
    ∃ response, ((publishVolume req).run.run (answerQuery p Memory.answer) (t, m)).1 =
      .ok response := by
  obtain ⟨⟨v, hv, hfree⟩, hinstance, hcalm, hshown⟩ := h
  have hget : m.getVolume (volumeNumber req.volumeId) =
      (.ok v, { m.putVolume (settle v) with hiddenReads := 0 }) := by
    simp [Memory.getVolume, hv, hshown, settle]
  unfold publishVolume existingVolume
  rw [requireText_of_ne hvolume, requireText_of_ne hnode, hcap]
  simp only [ofExcept_ok_bind, bind_assoc]
  rw [run_attempt_bind]
  simp only [Memory.answer, hget, pure_bind]
  rcases hfree with hfree | hfree
  · simp only [hfree]
    have hput : (m.putVolume (settle v)).volume? (volumeNumber req.volumeId) = some (settle v) := by
      rw [Memory.volume?_putVolume]
      exact if_pos (Memory.id_of_volume? hv)
    exact attach_granted (m := { m.putVolume (settle v) with hiddenReads := 0 }) hput hfree
      hinstance hcalm rfl hsignal
  · simp only [hfree, if_true]
    exact ⟨published v, rfl⟩

/-! ## Runs -/

/-- A request to attach a volume that arrives. -/
abbrev Arrival.publication (req : ControllerPublishVolumeRequest) (p : Poller) (t : Timeline)
    (conditions : Conditions) : Arrival :=
  ⟨.publish req, p, t, conditions⟩

section Arriving

variable (c : Controller) (req : ControllerPublishVolumeRequest) (p : Poller) (t : Timeline)
  (conditions : Conditions)

theorem publication_asked (m : Memory) :
    ∀ q ∈ (Arrival.publication req p t conditions).asked c m,
      q.joins (volumeNumber req.volumeId) (instanceNumber req.nodeId) :=
  fun _ hq => (asks_joins_publish req).of_mem_asked hq

theorem publication_joined (m : Memory) :
    Joined (volumeNumber req.volumeId) (instanceNumber req.nodeId) m
      ((Arrival.publication req p t conditions).outcome c m).2 := by
  let a : Arrival := .publication req p t conditions
  have hjoined := (Joined.ensures (asks_joins_publish req) (a.meet m)).run (answers_sound p)
    (t := (t, a.meet m))
  exact ⟨hjoined.others, hjoined.itself, hjoined.instances, hjoined.counter⟩

variable {c req p t conditions} in
theorem publication_published {m : Memory} (h : m.Numbered)
    {response : ControllerPublishVolumeResponse}
    (hok : ((Arrival.publication req p t conditions).outcome c m).1 = .ok response) :
    ∃ v, ((Arrival.publication req p t conditions).outcome c m).2.volume?
        (volumeNumber req.volumeId) = some v ∧
      v.attachment = some (instanceNumber req.nodeId) ∧ response = published v := by
  let a : Arrival := .publication req p t conditions
  have hmeet : (a.meet m).Numbered := ⟨h.ordered, h.fresh⟩
  have houtcome := Arrival.outcome_of_delivers (a := a) (c := c) (publishes_publish hmeet req)
  rw [hok] at houtcome
  exact houtcome

end Arriving

end VolumePlugin.Controller
