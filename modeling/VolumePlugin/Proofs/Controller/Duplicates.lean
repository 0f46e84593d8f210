import Mathlib.Data.List.Induction
import VolumePlugin.Proofs.Controller.Discipline
import VolumePlugin.Proofs.Controller.Naming
import VolumePlugin.Proofs.Controller.Questions

/-! # One request that is made many times at once

A request for a volume looks for the label first and makes the volume later, and others may have
their turns in between. Whoever looks after a volume was made finds it. Those who have looked before
make a volume each, which the provider does not mind, and each of them is told about its own. -/

namespace VolumePlugin.Controller

open Cloud (Memory)
open Cloud.Memory (Answered Observed Shown settle)
open Prog (Asks Delivers Ensures)

/-! ## Labels among requests that delete nothing -/

/-- Whether a query leaves it to others to delete volumes. -/
def Query.deletesNothing (q : Query) : Prop :=
  ∀ id, q ≠ .call (.deleteVolume id)

/-- Listings can be relied on, and so can identifiers. -/
structure Listed (m : Memory) : Prop where
  numbered : m.Numbered
  words : m.nextId ≤ Text.wordBound
  regards : m.ignoresLabels = false

/-- Volumes stay and keep their labels, and identifiers are given out once. -/
structure LabelsLast (m m' : Memory) : Prop where
  labels : ∀ id < m.nextId, m'.labelOf? id = m.labelOf? id
  counter : m.nextId ≤ m'.nextId

theorem labelsLast : Discipline Query.deletesNothing Listed LabelsLast where
  refl _ := ⟨fun _ _ => rfl, Nat.le_refl _⟩
  trans h h' :=
    ⟨fun id hid => (h'.labels id (Nat.lt_of_lt_of_le hid h.counter)).trans (h.labels id hid),
      Nat.le_trans h.counter h'.counter⟩
  turn {q m} now hq hm hm' := by
    have hanswered := now.reply_answered hm.numbered q
    refine ⟨fun id hid => ?_, hanswered.counter⟩
    have hbecomes := hanswered.becomes (fun _ => hm'.words) id
    unfold Memory.labelOf?
    generalize m.volume? id = before at hbecomes ⊢
    generalize (now.reply q m).2.volume? id = later at hbecomes ⊢
    cases hbecomes with
    | absent => rfl
    | kept hlabel hregion hsize hattachment => exact congrArg some hlabel
    | attached target hc hfree => rfl
    | detached hc => rfl
    | appeared hnext hfree => omega
    | gone hc hfree =>
        cases q with
        | call c => exact absurd (congrArg Query.call hc) (hq id)
        | wait volume goal => cases hc

section Labels

variable {m m' : Memory} {name : String} {id : Nat}

theorem lt_nextId_of_label (h : m.Numbered) (hid : m.labelOf? id = some name) : id < m.nextId := by
  obtain ⟨v, hv, -⟩ := Option.map_eq_some_iff.mp hid
  exact h.lt_nextId hv

theorem LabelsLast.label (h : LabelsLast m m') (hm : m.Numbered)
    (hid : m.labelOf? id = some name) : m'.labelOf? id = some name :=
  (h.labels id (lt_nextId_of_label hm hid)).trans hid

theorem LabelsLast.first (h : LabelsLast m m') (hm : m.Numbered)
    (hid : FirstLabelled m name id) : FirstLabelled m' name id := by
  have hlt := lt_nextId_of_label hm hid.label
  refine ⟨h.label hm hid.label, fun i hi => ?_⟩
  by_contra hless
  have hi' : i < m.nextId := by omega
  exact hless (hid.first i ((h.labels i hi').symm.trans hi))

end Labels

/-- The queries that look at volumes, or that make one larger. -/
def Query.keepsLabels : Query → Prop
  | .call (.listVolumes _) | .call (.getVolume _) | .call (.resizeVolume ..) | .wait .. => True
  | _ => False

theorem Query.keepsLabels.deletesNothing {q : Query} (h : q.keepsLabels) : q.deletesNothing := by
  rintro id rfl
  exact h

theorem Moment.labelOf?_reply (now : Moment) {m : Memory} (h : m.Ordered) {q : Query}
    (hq : q.keepsLabels) : (now.reply q m).2.labelOf? = m.labelOf? := by
  cases q with
  | wait volume goal => exact (now.reply_wait_observed h volume goal).labelOf?
  | call c =>
      change (Memory.answer c m).2.labelOf? = m.labelOf?
      cases c with
      | listVolumes o => rfl
      | getVolume id => exact (Observed.getVolume h id).labelOf?
      | resizeVolume id size => exact (Kept.resized [] m id size).labels
      | _ => exact hq.elim

/-- A turn that comes to nothing is one of a wait. -/
theorem Moment.labelOf?_of_pending {now : Moment} {m m' : Memory} (h : m.Ordered) {q : Query}
    (hreply : now.reply q m = (none, m')) : m'.labelOf? = m.labelOf? := by
  cases q with
  | call c => cases hreply
  | wait volume goal =>
      have hlabels := now.labelOf?_reply h (q := .wait volume goal) trivial
      rwa [hreply] at hlabels

/-- A wait that ends well shows the volume with the label that it has. -/
theorem Moment.reply_wait_ok {now : Moment} {m m' : Memory} (h : m.Ordered) {volume : Nat}
    {goal : Goal} {v : RemoteVolume}
    (hreply : now.reply (.wait volume goal) m = (some (.ok v), m')) :
    v.id = volume ∧ m'.labelOf? volume = some v.label := by
  unfold Moment.reply at hreply
  cases hbroken : now.broken with
  | some e => simp [hbroken] at hreply
  | none =>
      simp only [hbroken] at hreply
      rcases he : now.poller.attempt goal.action volume 0 (probe Memory.answer volume goal)
        now.deadline now.timeline m with ⟨outcome, t, m₁⟩
      have hfound := (Poller.attempt_spec (probeSpec h volume goal) (Observed.refl m) he).2
      cases outcome with
      | asleep wake => simp [he] at hreply
      | finished result =>
          simp only [he, Prod.mk.injEq, Option.some.injEq] at hreply
          obtain ⟨rfl, rfl⟩ := hreply
          obtain ⟨-, w, hshown, hw⟩ := hfound v rfl
          have hid : v.id = w.id := hshown.congr fun _ => rfl
          have hlabel : v.label = w.label := hshown.congr fun _ => rfl
          refine ⟨hid.trans (Memory.id_of_volume? (v := settle w) hw), ?_⟩
          rw [Memory.labelOf?, hw, hlabel]
          rfl

/-! ## One request -/

/-- The volume with an identifier has a label. -/
structure Named (m : Memory) (name : String) (id : Nat) : Prop where
  label : m.labelOf? id = some name
  known : id < m.nextId

theorem Named.later {m m' : Memory} {name : String} {id : Nat} (h : Named m name id)
    (hlast : LabelsLast m m') : Named m' name id :=
  ⟨(hlast.labels id h.known).trans h.label, Nat.lt_of_lt_of_le h.known hlast.counter⟩

/-- Work that gives no labels, and that comes to the volume with an identifier and a label if it
succeeds. -/
structure Settled (name : String) (id : Nat) (job : Job RemoteVolume) (m : Memory) : Prop where
  asks : Asks Query.keepsLabels job.run
  shown : Delivers (Amid Listed LabelsLast) job m (fun v _ => v.id = id ∧ v.label = name)
    (fun _ _ => True)

section Settling

variable {m : Memory} {name : String} {id : Nat}

theorem settled_failed (e : CsiError) : Settled name id (throw e) m :=
  ⟨trivial, trivial⟩

theorem settled_done {v : RemoteVolume} (hid : v.id = id) (hlabel : v.label = name) :
    Settled name id (pure v) m :=
  ⟨trivial, hid, hlabel⟩

theorem delivers_waitActive_named (h : Named m name id) :
    Delivers (Amid Listed LabelsLast) (Job.waitActive id) m
      (fun v m' => (v.id = id ∧ v.label = name) ∧ Named m' name id) (fun _ _ => True) := by
  rintro a m' ⟨m₁, now, hm₁, hlisted, hlisted', hreply⟩
  cases a with
  | error e => trivial
  | ok v =>
      have hturn := labelsLast.turn (q := .wait id (.status .active)) now nofun hlisted
      rw [hreply] at hturn
      obtain ⟨hid, hlabel⟩ := Moment.reply_wait_ok hlisted.numbered.ordered hreply
      have hnamed := h.later (labelsLast.trans hm₁ (hturn hlisted'))
      exact ⟨⟨hid, Option.some.inj (hlabel.symm.trans hnamed.label)⟩, hnamed⟩

theorem settled_waitActive (h : Named m name id) : Settled name id (Job.waitActive id) m :=
  ⟨asks_wait trivial, (delivers_waitActive_named h).mono (fun _ _ hv => hv.1) fun _ _ hv => hv⟩

theorem settled_reuse (w : Wanted) {u : RemoteVolume} (hlabel : u.label = name)
    (h : Named m name u.id) : Settled name u.id (reuse w u) m := by
  unfold reuse
  cases checkExisting w u with
  | error e => exact settled_failed e
  | ok a =>
      change Settled name u.id (if u.status = .active then pure u else Job.waitActive u.id) m
      split
      · exact settled_done rfl hlabel
      · exact settled_waitActive h

/-- The clone gets its size while others have their turns. -/
theorem settled_resized (w : Wanted) (h : Named m name id) :
    Settled name id (do
      let volume ← Job.waitActive id
      if volume.size = w.size then return volume
      else
        Job.call (.resizeVolume volume.id w.size)
        Job.waitActive volume.id) m := by
  constructor
  · apply (asks_wait trivial).bind_run
    intro volume
    split
    · trivial
    · exact (asks_call trivial).bind_run fun _ => asks_wait trivial
  · refine (Prog.delivers_bind ..).mpr ((delivers_waitActive_named h).mono ?_ fun _ _ hv => hv)
    rintro v m' ⟨⟨rfl, hlabel⟩, hnamed⟩
    split
    · exact ⟨rfl, hlabel⟩
    · rintro a m'' ⟨m₁, now, hm₁, hlisted, hlisted', hreply⟩
      cases a with
      | error e => trivial
      | ok a =>
          have hturn := labelsLast.turn (q := .call (.resizeVolume v.id w.size)) now nofun hlisted
          rw [hreply] at hturn
          have hlast := labelsLast.trans hm₁ (hturn hlisted')
          exact (settled_waitActive (hnamed.later hlast)).shown

end Settling

/-- The answer shows a volume, by its handle. -/
def Tells (response : CreateVolumeResponse) (name : String) (id : Nat) : Prop :=
  response.volume.map (·.volumeId) = some (VolumeKey.handle ⟨id, name⟩)

/-- Work on a request for a volume. -/
abbrev Creation := Prog Query.Answer (Except CsiError CreateVolumeResponse)

/-- Work that gives no labels, and that is answered with the volume with an identifier and a label
if it succeeds. -/
structure Shows (name : String) (id : Nat) (work : Creation) (m : Memory) : Prop where
  asks : Asks Query.keepsLabels work
  tells : Ensures (Amid Listed LabelsLast) work m fun result _ =>
    ∀ response, result = .ok response → Tells response name id

/-- Work that cannot succeed before it has made a volume with a label, and that is answered with
this volume if it succeeds after that. -/
def Creates (name : String) : Creation → Memory → Prop
  | .done result, _ => ∀ response, result ≠ .ok response
  | .ask q next, m =>
    ∀ m₁ now a m', LabelsLast m m₁ → Listed m₁ → Listed m' → Moment.reply now q m₁ = (some a, m') →
      m'.labelOf? = m₁.labelOf? ∧ Creates name (next a) m' ∨
        m'.labelOf? = Function.update m₁.labelOf? m₁.nextId (some name) ∧
          Shows name m₁.nextId (next a) m'

section Creating

variable {m m' : Memory} {name : String} {id : Nat} {req : CreateVolumeRequest}

theorem creates_failed (name : String) (e : CsiError) (m : Memory) :
    Creates name (.done (.error e)) m := by
  intro response h
  cases h

theorem Settled.shows {job : Job RemoteVolume} (h : Settled name id job m) :
    Shows name id (job >>= fun v => pure (described req v)).run m := by
  refine ⟨h.asks.bind_run fun _ => trivial, ?_⟩
  rw [ExceptT.run_bind, Prog.bind_eq, Prog.ensures_bind]
  refine Prog.Ensures.mono h.shown fun result m' hresult => ?_
  cases result with
  | error e => exact nofun
  | ok v =>
      rintro response ⟨⟩
      obtain ⟨rfl, rfl⟩ := hresult
      rfl

theorem Shows.later {work : Creation} (h : Shows name id work m) (hlast : LabelsLast m m') :
    Shows name id work m' :=
  ⟨h.asks, labelsLast.later (fun _ _ _ _ hr => hr) hlast h.tells⟩

theorem Creates.later {work : Creation} (h : Creates name work m) (hlast : LabelsLast m m') :
    Creates name work m' := by
  cases work with
  | done result => exact h
  | ask q next =>
      intro m₁ now a m₂ hm₁ hlisted hlisted' hreply
      exact h m₁ now a m₂ (labelsLast.trans hlast hm₁) hlisted hlisted' hreply

/-- A volume that has been made has its label. -/
theorem named_addVolume (m : Memory) {make : Nat → RemoteVolume}
    (hid : (make m.newId).id = m.newId) (hlabel : (make m.newId).label = name) :
    Named (m.addVolume make).2 name m.newId := by
  refine ⟨?_, Nat.lt_succ_of_le m.newId_le⟩
  rw [Memory.labelOf?_addVolume, hid, hlabel, Function.update_self]

theorem Listed.newId {m : Memory} {make : Nat → RemoteVolume} (h : Listed (m.addVolume make).2) :
    m.newId = m.nextId :=
  Memory.newId_of_lt h.words

theorem creates_ask {c : Cloud.Call} {next : c.Answer → Creation}
    (h : ∀ m₁, Listed m₁ → Listed (Memory.answer c m₁).2 →
      (Memory.answer c m₁).2.labelOf? = m₁.labelOf? ∧
          Creates name (next (Memory.answer c m₁).1) (Memory.answer c m₁).2 ∨
        (Memory.answer c m₁).2.labelOf? = Function.update m₁.labelOf? m₁.nextId (some name) ∧
          Shows name m₁.nextId (next (Memory.answer c m₁).1) (Memory.answer c m₁).2) :
    Creates name (.ask (.call c) next) m := by
  intro m₁ now a m' _ hlisted hlisted' hreply
  obtain ⟨ha, rfl⟩ := Prod.mk.inj hreply
  obtain rfl := Option.some.inj ha
  exact h m₁ hlisted hlisted'

theorem creates_createBlank (w : Wanted) (parameters : Attributes) (m : Memory) :
    Creates w.label (createBlank w parameters >>= fun v => pure (described req v)).run m := by
  let o : CreateOptions := ⟨w.label, w.region, w.size, volumeTags parameters⟩
  apply creates_ask (c := .createVolume o)
  intro m₁ _ hlisted
  have hnamed : Named (m₁.addVolume (m₁.blank o)).2 w.label m₁.newId := named_addVolume m₁ rfl rfl
  rw [Memory.answer, Memory.createVolume_eq] at hlisted ⊢
  rw [← hlisted.newId]
  exact .inr ⟨Memory.labelOf?_addVolume m₁ _, (settled_waitActive hnamed).shows⟩

/-- The source may be gone by the time when it is to be cloned. -/
theorem creates_clone (w : Wanted) (source : RemoteVolume) (m : Memory) :
    Creates w.label ((do
      Job.ofExcept (checkSource w source)
      let clone ← Job.call (.cloneVolume source.id w.label)
      let volume ← Job.waitActive clone.id
      if volume.size = w.size then return volume
      else
        Job.call (.resizeVolume volume.id w.size)
        Job.waitActive volume.id) >>= fun v => pure (described req v)).run m := by
  cases checkSource w source with
  | error e => exact creates_failed _ _ _
  | ok a =>
      apply creates_ask (c := .cloneVolume source.id w.label)
      intro m₁ _ hlisted
      rw [Memory.answer] at hlisted ⊢
      cases hsource : m₁.volume? source.id with
      | none =>
          rw [Memory.cloneVolume, hsource]
          exact .inl ⟨rfl, creates_failed _ _ _⟩
      | some v =>
          rw [Memory.cloneVolume_eq hsource] at hlisted ⊢
          rw [← hlisted.newId]
          have hnamed : Named (m₁.addVolume (m₁.copy v w.label)).2 w.label m₁.newId :=
            named_addVolume m₁ rfl rfl
          exact .inr ⟨Memory.labelOf?_addVolume m₁ _, (settled_resized w hnamed).shows⟩

theorem creates_cloneFrom (w : Wanted) (handle : String) (m : Memory) :
    Creates w.label (cloneFrom w handle >>= fun v => pure (described req v)).run m := by
  unfold cloneFrom
  cases hkey : VolumeKey.parse handle with
  | error e => exact creates_failed _ _ _
  | ok key =>
      apply creates_ask (c := .getVolume key.volume)
      intro m₁ hlisted _
      refine .inl ⟨(Observed.getVolume hlisted.numbered.ordered key.volume).labelOf?, ?_⟩
      cases hget : (Memory.answer (.getVolume key.volume) m₁).1 with
      | error e => exact creates_failed _ _ _
      | ok source => exact creates_clone w source _

/-- What a request for a volume does depends on whether its search finds the label. -/
theorem createVolume_looks {c : Controller} {w : Wanted} (hw : c.wanted req = .ok w) :
    ∃ next, (c.createVolume req).run =
        .ask (A := Query.Answer) (.call (.listVolumes (.ofLabel w.label))) next ∧
      ∀ m, Listed m →
        (∃ id, FirstLabelled m w.label id ∧
          Shows w.label id (next (Memory.answer (.listVolumes (.ofLabel w.label)) m).1) m) ∨
        m.labelled? w.label = none ∧
          Creates w.label (next (Memory.answer (.listVolumes (.ofLabel w.label)) m).1) m := by
  have hrun : (c.createVolume req).run =
      (obtain w req >>= fun v => pure (described req v)).run := by
    unfold createVolume
    rw [hw]
    rfl
  rw [hrun, obtain, bind_assoc, findVolume_run]
  refine ⟨_, rfl, fun m hlisted => ?_⟩
  have hfind := Memory.find?_page_ofLabel hlisted.regards w.label
  simp only [Memory.answer, hfind]
  cases hlabel : m.labelled? w.label with
  | some u =>
      have hordered := hlisted.numbered.ordered
      have hfirst : FirstLabelled m w.label u.id :=
        (firstLabelled_iff hordered).mpr ⟨u, hlabel, rfl⟩
      have hnamed : Named m w.label u.id :=
        ⟨hfirst.label, lt_nextId_of_label hlisted.numbered hfirst.label⟩
      obtain ⟨-, hulabel⟩ := Memory.label_of_labelled? hlabel
      exact .inl ⟨u.id, hfirst, (settled_reuse w hulabel hnamed).shows⟩
  | none =>
      refine .inr ⟨rfl, ?_⟩
      dsimp only
      split
      · exact creates_failed _ _ _
      · exact creates_cloneFrom w _ m
      · exact creates_createBlank w _ m

end Creating

/-! ## Many requests -/

section Sessions

variable {ι : Type} [DecidableEq ι]

section Turns

variable {β : ι → Type} {s : Session β} {name : String} {turns : List (Turn ι)} {t : Turn ι} {i : ι}
  {id : Nat}

/-- A volume comes to have a label in a turn of a request. -/
def Session.Makes (s : Session β) (name : String) (turns : List (Turn ι)) (i : ι) (id : Nat) :
    Prop :=
  ∃ past t future, turns = past ++ t :: future ∧ t.who = i ∧
    (s.after past).provider.labelOf? id ≠ some name ∧
    (s.after (past ++ [t])).provider.labelOf? id = some name

/-- A request has its first turn, in which it looks for a label, while no volume has this label. -/
def Session.LooksInVain (s : Session β) (name : String) (turns : List (Turn ι)) (i : ι) : Prop :=
  ∃ past t future, turns = past ++ t :: future ∧ t.who = i ∧ (∀ u ∈ past, u.who ≠ i) ∧
    (s.after past).provider.labelled? name = none

theorem Session.LooksInVain.append (h : s.LooksInVain name turns i) (more : List (Turn ι)) :
    s.LooksInVain name (turns ++ more) i := by
  obtain ⟨past, t, future, rfl, hrest⟩ := h
  exact ⟨past, t, future ++ more, by simp, hrest⟩

theorem Session.after_append_one (s : Session β) (turns : List (Turn ι)) (t : Turn ι) :
    s.after (turns ++ [t]) = (s.after turns).take t := by
  rw [Session.after_append]
  rfl

theorem Session.take_done {result : β t.who} (h : s.work t.who = .done result) : s.take t = s := by
  unfold Session.take
  rw [h]

theorem Session.makes_append_one :
    s.Makes name (turns ++ [t]) i id ↔ s.Makes name turns i id ∨
      t.who = i ∧ (s.after turns).provider.labelOf? id ≠ some name ∧
        ((s.after turns).take t).provider.labelOf? id = some name := by
  constructor
  · rintro ⟨past, u, future, hturns, hwho, hbefore, hlater⟩
    rcases List.eq_nil_or_concat future with rfl | ⟨future, v, rfl⟩
    · obtain ⟨rfl, hu⟩ := List.append_inj' hturns rfl
      obtain rfl : t = u := by simpa using hu
      exact .inr ⟨hwho, hbefore, by simpa using hlater⟩
    · rw [List.concat_eq_append, ← List.cons_append, ← List.append_assoc] at hturns
      exact .inl ⟨past, u, future, (List.append_inj' hturns rfl).1, hwho, hbefore, hlater⟩
  · rintro (⟨past, u, future, rfl, hrest⟩ | ⟨hwho, hbefore, hlater⟩)
    · exact ⟨past, u, future ++ [t], by simp, hrest⟩
    · exact ⟨turns, t, [], rfl, hwho, hbefore, by simpa using hlater⟩

theorem Session.makes_append_of_labels
    (h : ((s.after turns).take t).provider.labelOf? = (s.after turns).provider.labelOf?) :
    s.Makes name (turns ++ [t]) i id ↔ s.Makes name turns i id := by
  rw [Session.makes_append_one, h]
  exact or_iff_left fun hnew => hnew.2.1 hnew.2.2

theorem Session.makes_append_of_ne (h : i ≠ t.who) :
    s.Makes name (turns ++ [t]) i id ↔ s.Makes name turns i id := by
  rw [Session.makes_append_one]
  exact or_iff_left fun hnew => h hnew.1.symm

theorem Session.not_makes_of_new (h : ∀ u ∈ turns, u.who ≠ i) : ¬ s.Makes name turns i id := by
  rintro ⟨past, t, future, rfl, hwho, -⟩
  exact h t (by simp) hwho

end Turns

section Creations

variable {s : Session fun _ : ι => Except CsiError CreateVolumeResponse} {name : String} {id : Nat}
  {t : Turn ι}

theorem Shows.take (h : Shows name id (s.work t.who) s.provider) (hlisted : Listed s.provider)
    (hlisted' : Listed (s.take t).provider) :
    (s.take t).provider.labelOf? = s.provider.labelOf? ∧
      Shows name id ((s.take t).work t.who) (s.take t).provider := by
  have htaken := s.taken t
  generalize s.take t = s' at htaken hlisted' ⊢
  cases htaken with
  | idle => exact ⟨rfl, h⟩
  | answered hwork hreply =>
      rw [hwork] at h
      have hlabels := t.moment.labelOf?_reply hlisted.numbered.ordered h.asks.1
      rw [hreply] at hlabels
      dsimp only
      rw [Function.update_self]
      exact ⟨hlabels, h.asks.2 _, h.tells _ _ ⟨_, _, labelsLast.refl _, hlisted, hlisted', hreply⟩⟩
  | pending hwork hreply =>
      have hkind := h.asks
      rw [hwork] at hkind
      have hturn := labelsLast.turn t.moment hkind.1.deletesNothing hlisted
      rw [hreply] at hturn
      have hlast := hturn hlisted'
      exact ⟨Moment.labelOf?_of_pending hlisted.numbered.ordered hreply, h.later hlast⟩

theorem Creates.take (h : Creates name (s.work t.who) s.provider) (hlisted : Listed s.provider)
    (hlisted' : Listed (s.take t).provider)
    (hlast : LabelsLast s.provider (s.take t).provider) :
    (s.take t).provider.labelOf? = s.provider.labelOf? ∧
        Creates name ((s.take t).work t.who) (s.take t).provider ∨
      (s.take t).provider.labelOf? =
          Function.update s.provider.labelOf? s.provider.nextId (some name) ∧
        Shows name s.provider.nextId ((s.take t).work t.who) (s.take t).provider := by
  have htaken := s.taken t
  generalize s.take t = s' at htaken hlisted' hlast ⊢
  cases htaken with
  | idle => exact .inl ⟨rfl, h⟩
  | answered hwork hreply =>
      rw [hwork] at h
      dsimp only
      rw [Function.update_self]
      exact h _ _ _ _ (labelsLast.refl _) hlisted hlisted' hreply
  | pending hwork hreply =>
      exact .inl ⟨Moment.labelOf?_of_pending hlisted.numbered.ordered hreply, h.later hlast⟩

/-- How far a request for a volume has come after some turns. -/
inductive Stage (s : Session fun _ : ι => Except CsiError CreateVolumeResponse) (name : String)
    (turns : List (Turn ι)) (i : ι) : Prop where
  | refused (e : CsiError) (hwork : (s.after turns).work i = .done (.error e))
      (hmade : ∀ id, ¬ s.Makes name turns i id)
  | waiting (hnew : ∀ u ∈ turns, u.who ≠ i) (hwork : (s.after turns).work i = s.work i)
  | found (id : Nat) (hfirst : FirstLabelled (s.after turns).provider name id)
      (hshows : Shows name id ((s.after turns).work i) (s.after turns).provider)
      (hmade : ∀ id, ¬ s.Makes name turns i id)
  | missed (hvain : s.LooksInVain name turns i)
      (hcreates : Creates name ((s.after turns).work i) (s.after turns).provider)
      (hmade : ∀ id, ¬ s.Makes name turns i id)
  | made (id : Nat) (hvain : s.LooksInVain name turns i)
      (hmade : ∀ j, s.Makes name turns i j ↔ j = id)
      (hshows : Shows name id ((s.after turns).work i) (s.after turns).provider)

section Stages

variable {turns : List (Turn ι)} {i : ι}

/-- The turns of others leave a request where it is. -/
theorem Stage.other (h : Stage s name turns i) (hlisted : Listed (s.after turns).provider)
    (hlast : LabelsLast (s.after turns).provider ((s.after turns).take t).provider)
    (hi : i ≠ t.who) : Stage s name (turns ++ [t]) i := by
  have hafter := s.after_append_one turns t
  have hwork : (s.after (turns ++ [t])).work i = (s.after turns).work i := by
    rw [hafter, Session.take_work_of_ne _ hi]
  have hmakes : ∀ id, s.Makes name (turns ++ [t]) i id ↔ s.Makes name turns i id := fun id =>
    Session.makes_append_of_ne hi
  rw [← hafter] at hlast
  cases h with
  | refused e hdone hmade =>
      exact .refused e (hwork.trans hdone) fun id h => hmade id ((hmakes id).mp h)
  | waiting hnew hstart =>
      refine .waiting (fun u hu => ?_) (hwork.trans hstart)
      rcases List.mem_append.mp hu with hu | hu
      · exact hnew u hu
      · rw [List.mem_singleton.mp hu]
        exact hi.symm
  | found id hfirst hshows hmade =>
      refine .found id (hlast.first hlisted.numbered hfirst) ?_ fun id h =>
        hmade id ((hmakes id).mp h)
      rw [hwork]
      exact hshows.later hlast
  | missed hvain hcreates hmade =>
      refine .missed (hvain.append [t]) ?_ fun id h => hmade id ((hmakes id).mp h)
      rw [hwork]
      exact hcreates.later hlast
  | made id hvain hmade hshows =>
      refine .made id (hvain.append [t]) (fun j => (hmakes j).trans (hmade j)) ?_
      rw [hwork]
      exact hshows.later hlast

/-- The first turn of a request. -/
theorem Stage.look (hnew : ∀ u ∈ turns, u.who ≠ t.who) (hlisted : Listed (s.after turns).provider)
    {next : Cloud.Call.Answer (.listVolumes (.ofLabel name)) → Creation}
    (hwork : (s.after turns).work t.who =
      .ask (A := Query.Answer) (.call (.listVolumes (.ofLabel name))) next)
    (hnext : ∀ m, Listed m →
      (∃ id, FirstLabelled m name id ∧
        Shows name id (next (Memory.answer (.listVolumes (.ofLabel name)) m).1) m) ∨
      m.labelled? name = none ∧
        Creates name (next (Memory.answer (.listVolumes (.ofLabel name)) m).1) m) :
    Stage s name (turns ++ [t]) t.who := by
  have hafter : s.after (turns ++ [t]) = ⟨Function.update (s.after turns).work t.who
      (next (Memory.answer (.listVolumes (.ofLabel name)) (s.after turns).provider).1),
      (s.after turns).provider⟩ := by
    rw [Session.after_append_one]
    exact Session.take_answered hwork rfl
  have hmade : ∀ id, ¬ s.Makes name (turns ++ [t]) t.who id := by
    intro id hmakes
    rw [Session.makes_append_one, ← Session.after_append_one, hafter] at hmakes
    rcases hmakes with hmakes | ⟨-, hbefore, hlater⟩
    · exact Session.not_makes_of_new hnew hmakes
    · exact hbefore hlater
  rcases hnext _ hlisted with ⟨id, hfirst, hshows⟩ | ⟨hnone, hcreates⟩
  · refine .found id ?_ ?_ hmade
    · rw [hafter]
      exact hfirst
    · rw [hafter]
      simpa using hshows
  · refine .missed ⟨turns, t, [], rfl, rfl, hnew, hnone⟩ ?_ hmade
    rw [hafter]
    simpa using hcreates

/-- A request that is under way has a turn. -/
theorem Stage.own (h : Stage s name turns t.who) (hlisted : Listed (s.after turns).provider)
    (hlisted' : Listed ((s.after turns).take t).provider)
    (hlast : LabelsLast (s.after turns).provider ((s.after turns).take t).provider)
    (hlook : (∀ u ∈ turns, u.who ≠ t.who) → (s.after turns).work t.who = s.work t.who →
      Stage s name (turns ++ [t]) t.who) :
    Stage s name (turns ++ [t]) t.who := by
  have hafter := s.after_append_one turns t
  cases h with
  | refused e hdone hmade =>
      have hsame := Session.take_done hdone
      refine .refused e (by rw [hafter, hsame, hdone]) fun id h => hmade id ?_
      exact (Session.makes_append_of_labels (by rw [hsame])).mp h
  | waiting hnew hstart => exact hlook hnew hstart
  | found id hfirst hshows hmade =>
      obtain ⟨hlabels, hshows'⟩ := hshows.take hlisted hlisted'
      rw [← hafter] at hlast hshows'
      refine .found id (hlast.first hlisted.numbered hfirst) hshows' fun j h => hmade j ?_
      exact (Session.makes_append_of_labels hlabels).mp h
  | missed hvain hcreates hmade =>
      rcases hcreates.take hlisted hlisted' hlast with ⟨hlabels, hcreates'⟩ | ⟨hlabels, hshows'⟩
      · rw [← hafter] at hcreates'
        refine .missed (hvain.append [t]) hcreates' fun j h => hmade j ?_
        exact (Session.makes_append_of_labels hlabels).mp h
      · rw [← hafter] at hshows'
        refine .made _ (hvain.append [t]) (fun j => ?_) hshows'
        rw [Session.makes_append_one, hlabels]
        constructor
        · rintro (h | ⟨-, hbefore, hlater⟩)
          · exact absurd h (hmade j)
          · by_contra hne
            rw [Function.update_of_ne hne] at hlater
            exact hbefore hlater
        · rintro rfl
          refine .inr ⟨rfl, fun hbefore => ?_, Function.update_self ..⟩
          exact Nat.lt_irrefl _ (lt_nextId_of_label hlisted.numbered hbefore)
  | made id hvain hmade hshows =>
      obtain ⟨hlabels, hshows'⟩ := hshows.take hlisted hlisted'
      rw [← hafter] at hshows'
      refine .made id (hvain.append [t]) (fun j => ?_) hshows'
      exact (Session.makes_append_of_labels hlabels).trans (hmade j)

end Stages

end Creations

section Run

variable (c : Controller) (req : CreateVolumeRequest) {m : Memory}

/-- The label that a request asks for. -/
def labelFor : String :=
  Label.normalized req.name c.labelPrefix

theorem createVolume_ne_ok {c : Controller} {req : CreateVolumeRequest}
    (response : CreateVolumeResponse) : (c.createVolume req).run ≠ .done (.ok response) := by
  cases hw : c.wanted req with
  | error e =>
      rw [createVolume, hw]
      exact nofun
  | ok w =>
      obtain ⟨next, hrun, -⟩ := createVolume_looks hw
      rw [hrun]
      exact nofun

/-- One request that is made many times. -/
abbrev Session.repeated (ι : Type) (m : Memory) :
    Session fun _ : ι => Except CsiError CreateVolumeResponse :=
  Session.start c (fun _ => .create req) m

theorem asks_deletesNothing : Asks Query.deletesNothing (c.createVolume req).run := by
  refine (asks_create c req).mono ?_
  rintro q hq id rfl
  exact hq

theorem labelsLast_after (past future : List (Turn ι))
    (h : (Session.repeated c req ι m).Throughout Listed (past ++ future)) :
    LabelsLast ((Session.repeated c req ι m).after past).provider
      ((Session.repeated c req ι m).after (past ++ future)).provider := by
  rw [Session.after_append]
  refine labelsLast.after (fun i => ?_) h.drop
  exact Session.after_asks (s := Session.repeated c req ι m) (asks_deletesNothing c req) past

theorem stage_look {turns : List (Turn ι)} {t : Turn ι}
    (hlisted : Listed ((Session.repeated c req ι m).after turns).provider)
    (hnew : ∀ u ∈ turns, u.who ≠ t.who)
    (hstart : ((Session.repeated c req ι m).after turns).work t.who = (c.createVolume req).run) :
    Stage (Session.repeated c req ι m) (labelFor c req) (turns ++ [t]) t.who := by
  cases hw : c.wanted req with
  | error e =>
      have hdone : ((Session.repeated c req ι m).after turns).work t.who = .done (.error e) := by
        rw [hstart, createVolume, hw]
        rfl
      have hsame := Session.take_done hdone
      refine .refused e (by rw [Session.after_append_one, hsame, hdone]) fun id hmakes => ?_
      rw [Session.makes_append_of_labels (by rw [hsame])] at hmakes
      exact Session.not_makes_of_new hnew hmakes
  | ok w =>
      obtain ⟨next, hrun, hnext⟩ := createVolume_looks hw
      rw [(wanted_eq_ok hw).1] at hrun hnext
      exact .look hnew hlisted (hstart.trans hrun) hnext

/-- The induction is on the turns, in each of which one request may come to its next stage. -/
theorem stage_after {turns : List (Turn ι)}
    (h : (Session.repeated c req ι m).Throughout Listed turns) (i : ι) :
    Stage (Session.repeated c req ι m) (labelFor c req) turns i := by
  induction turns using List.reverseRecOn with
  | nil => exact .waiting nofun rfl
  | append_singleton turns t ih =>
      have hbefore := h.of_prefix (List.prefix_append turns [t])
      have hlisted' := h.last
      have hlast := labelsLast_after c req turns [t] h
      rw [Session.after_append_one] at hlisted' hlast
      by_cases hi : i = t.who
      · subst hi
        exact (ih hbefore).own hbefore.last hlisted' hlast fun hnew hstart =>
          stage_look c req hbefore.last hnew hstart
      · exact (ih hbefore).other hbefore.last hlast hi

section Accounts

variable {c : Controller} {req : CreateVolumeRequest} {m : Memory} {name : String}
  {turns : List (Turn ι)} {i j : ι} {id : Nat}

/-- A volume is made in one turn. -/
theorem Session.Makes.unique (hi : (Session.repeated c req ι m).Makes name turns i id)
    (hj : (Session.repeated c req ι m).Makes name turns j id)
    (h : (Session.repeated c req ι m).Throughout Listed turns) : i = j := by
  have hearlier : ∀ {past more rest : List (Turn ι)} {t : Turn ι},
      turns = (past ++ t :: more) ++ rest →
      ((Session.repeated c req ι m).after (past ++ [t])).provider.labelOf? id = some name →
      ((Session.repeated c req ι m).after (past ++ t :: more)).provider.labelOf? id =
        some name := by
    rintro past more rest t rfl hlater
    have hpast := h.of_prefix (List.prefix_append _ rest)
    have hlast := labelsLast_after c req (past ++ [t]) more (by simpa using hpast)
    rw [List.append_assoc, List.singleton_append] at hlast
    exact hlast.label hpast.drop_cons.before.numbered hlater
  obtain ⟨past, t, future, hturns, rfl, hbefore, hlater⟩ := hi
  obtain ⟨past', t', future', hturns', rfl, hbefore', hlater'⟩ := hj
  rcases List.append_eq_append_iff.mp (hturns.symm.trans hturns') with
    ⟨more, rfl, hmore⟩ | ⟨more, rfl, hmore⟩
  · cases more with
    | nil => exact congrArg Turn.who (List.cons.inj hmore).1
    | cons u more =>
        obtain ⟨rfl, -⟩ := List.cons.inj hmore
        exact absurd (hearlier hturns' hlater) hbefore'
  · cases more with
    | nil => exact congrArg Turn.who (List.cons.inj hmore).1.symm
    | cons u more =>
        obtain ⟨rfl, -⟩ := List.cons.inj hmore
        exact absurd (hearlier hturns hlater') hbefore

theorem Session.LooksInVain.new (hvain : (Session.repeated c req ι m).LooksInVain name turns i)
    (h : (Session.repeated c req ι m).Throughout Listed turns) : m.labelOf? id ≠ some name := by
  obtain ⟨past, t, future, rfl, -, -, hnone⟩ := hvain
  intro hid
  have hpast := h.of_prefix (List.prefix_append past (t :: future))
  have hlabel := (labelsLast_after c req [] past hpast).label hpast.before.numbered hid
  have hordered := hpast.last.numbered.ordered
  obtain ⟨v, hv, -, hvlabel⟩ := (labelOf?_eq_some_iff hordered).mp hlabel
  exact Memory.labelled?_eq_none_iff.mp hnone v hv hvlabel

/-- What becomes of requests that are repeated. -/
structure Accounted (s : Session fun _ : ι => Except CsiError CreateVolumeResponse) (name : String)
    (turns : List (Turn ι)) : Prop where
  /-- A new volume with the label was made by one of the requests. -/
  maker : ∀ id, (s.after turns).provider.labelOf? id = some name →
    s.provider.labelOf? id = some name ∨ ∃! i, s.Makes name turns i id
  /-- Who makes a volume has looked for the label in vain, and makes no other one. -/
  once : ∀ i id, s.Makes name turns i id →
    s.LooksInVain name turns i ∧ ∀ id', s.Makes name turns i id' → id' = id
  /-- Who has made no volume is answered with the first one that has the label. -/
  answer : ∀ i response, (s.after turns).work i = .done (.ok response) →
    ∃ id, Tells response name id ∧ (s.Makes name turns i id ∨
      (∀ id', ¬ s.Makes name turns i id') ∧ FirstLabelled (s.after turns).provider name id)

theorem accounted (h : (Session.repeated c req ι m).Throughout Listed turns) :
    Accounted (Session.repeated c req ι m) (labelFor c req) turns := by
  constructor
  · intro id hid
    by_cases hold : m.labelOf? id = some (labelFor c req)
    · exact .inl hold
    · obtain ⟨past, t, future, rfl, hbefore, hlater⟩ := Session.exists_turn
        (s := Session.repeated c req ι m)
        (p := fun s => s.provider.labelOf? id ≠ some (labelFor c req)) hold (not_not.mpr hid)
      have hmakes : (Session.repeated c req ι m).Makes (labelFor c req) (past ++ t :: future)
          t.who id :=
        ⟨past, t, future, rfl, rfl, hbefore, by simpa using hlater⟩
      exact .inr ⟨t.who, hmakes, fun j hj => hj.unique hmakes h⟩
  · intro i id hmakes
    cases stage_after c req h i with
    | refused e hwork hmade => exact absurd hmakes (hmade id)
    | waiting hnew hwork => exact absurd hmakes (Session.not_makes_of_new hnew)
    | found j hfirst hshows hmade => exact absurd hmakes (hmade id)
    | missed hvain hcreates hmade => exact absurd hmakes (hmade id)
    | made j hvain hmade hshows =>
        obtain rfl := (hmade id).mp hmakes
        exact ⟨hvain, fun id' hid' => (hmade id').mp hid'⟩
  · intro i response hok
    have htells : ∀ {id}, Shows (labelFor c req) id
        (((Session.repeated c req ι m).after turns).work i)
        ((Session.repeated c req ι m).after turns).provider →
          Tells response (labelFor c req) id := by
      intro id hshows
      have hresult := hshows.tells
      rw [hok] at hresult
      exact hresult response rfl
    cases stage_after c req h i with
    | refused e hwork hmade => cases hok.symm.trans hwork
    | waiting hnew hwork => exact absurd (hwork.symm.trans hok) (createVolume_ne_ok response)
    | found id hfirst hshows hmade => exact ⟨id, htells hshows, .inr ⟨hmade, hfirst⟩⟩
    | missed hvain hcreates hmade =>
        rw [hok] at hcreates
        exact absurd rfl (hcreates response)
    | made id hvain hmade hshows => exact ⟨id, htells hshows, .inl ((hmade id).mpr rfl)⟩

/-- Many requests for one volume at the same time, in any order of their turns, as long as
identifiers do not begin anew. Each of them makes one volume at most, and only if it has looked for
the label in vain. If no two of them have done so, at most one volume with the label is made, and
all requests that succeed are answered with one volume. -/
theorem creations_at_once (c : Controller) (req : CreateVolumeRequest) {m : Memory}
    (h : m.Numbered) (hregards : m.ignoresLabels = false) (turns : List (Turn ι))
    (hwords : ((Session.repeated c req ι m).after turns).provider.nextId ≤ Text.wordBound) :
    Accounted (Session.repeated c req ι m) (labelFor c req) turns ∧
      ((∀ i j, (Session.repeated c req ι m).LooksInVain (labelFor c req) turns i →
          (Session.repeated c req ι m).LooksInVain (labelFor c req) turns j → i = j) →
        (∀ i j id id', (Session.repeated c req ι m).Makes (labelFor c req) turns i id →
          (Session.repeated c req ι m).Makes (labelFor c req) turns j id' → id = id') ∧
        ∀ i j response response',
          ((Session.repeated c req ι m).after turns).work i = .done (.ok response) →
          ((Session.repeated c req ι m).after turns).work j = .done (.ok response') →
          ∃ id, Tells response (labelFor c req) id ∧ Tells response' (labelFor c req) id) := by
  have hlisted : (Session.repeated c req ι m).Throughout Listed turns := by
    rintro past ⟨future, rfl⟩
    have hpast := Session.after_numbered (s := Session.repeated c req ι m) h past
    have hfuture := Session.after_counter hpast future
    rw [← Session.after_append] at hfuture
    exact ⟨hpast, Nat.le_trans hfuture hwords, (Session.after_regards h past).trans hregards⟩
  have haccounted : Accounted (Session.repeated c req ι m) (labelFor c req) turns :=
    accounted hlisted
  refine ⟨haccounted, fun hone => ?_⟩
  have hsame : ∀ i j id id', (Session.repeated c req ι m).Makes (labelFor c req) turns i id →
      (Session.repeated c req ι m).Makes (labelFor c req) turns j id' → id = id' := by
    intro i j id id' hid hid'
    obtain ⟨hi, -⟩ := haccounted.once i id hid
    obtain ⟨hj, honce⟩ := haccounted.once j id' hid'
    obtain rfl := hone i j hi hj
    exact honce id hid
  -- The first volume with the label is the one that was made, if one was made at all.
  have hfound : ∀ i id id', (Session.repeated c req ι m).Makes (labelFor c req) turns i id →
      FirstLabelled ((Session.repeated c req ι m).after turns).provider (labelFor c req) id' →
      id = id' := by
    intro i id id' hid hfirst
    rcases haccounted.maker id' hfirst.label with hold | ⟨j, hid', -⟩
    · exact absurd hold ((haccounted.once i id hid).1.new hlisted)
    · exact hsame i j id id' hid hid'
  refine ⟨hsame, fun i j response response' hok hok' => ?_⟩
  obtain ⟨id, htells, hid⟩ := haccounted.answer i response hok
  obtain ⟨id', htells', hid'⟩ := haccounted.answer j response' hok'
  have heq : id = id' := by
    rcases hid with hid | ⟨-, hid⟩ <;> rcases hid' with hid' | ⟨-, hid'⟩
    · exact hsame i j id id' hid hid'
    · exact hfound i id id' hid hid'
    · exact (hfound j id' id hid' hid).symm
    · exact hid.unique hid'
  exact ⟨id, htells, heq ▸ htells'⟩

end Accounts

end Run

end Sessions

/-- The second request looks for the volume when the first one has made it. -/
def patientTurns : List (Turn (Fin 2)) :=
  [⟨0, {}⟩, ⟨0, {}⟩, ⟨1, {}⟩, ⟨0, {}⟩]

/-- Both requests look for the volume before one of them makes it. -/
def hastyTurns : List (Turn (Fin 2)) :=
  [⟨0, {}⟩, ⟨1, {}⟩, ⟨0, {}⟩, ⟨1, {}⟩, ⟨0, {}⟩, ⟨1, {}⟩]

/-- The answer to a request for the blank volume that is granted the volume with an identifier. -/
def grantedBlank (id : Nat) : CreateVolumeResponse :=
  described blankRequest
    ⟨id, "pvc1", 20, "us-east", .active, none, Memory.devicePath "pvc1", []⟩

/-- When the second request has its first turn, the volume is there. -/
theorem patient_looks {i : Fin 2}
    (h : (Session.repeated eastern blankRequest (Fin 2) {}).LooksInVain "pvc1" patientTurns i) :
    i = 0 := by
  obtain ⟨past, t, future, hturns, rfl, -, hnone⟩ := h
  rcases past with _ | ⟨a, _ | ⟨b, _ | ⟨d, _ | ⟨e, past⟩⟩⟩⟩
  · rw [← (List.cons.inj hturns).1]
  · simp only [patientTurns, List.cons_append, List.nil_append, List.cons.injEq] at hturns
    rw [← hturns.2.1]
  · simp only [patientTurns, List.cons_append, List.nil_append, List.cons.injEq] at hturns
    obtain ⟨rfl, rfl, -⟩ := hturns
    exact absurd hnone (by decide +kernel)
  · simp only [patientTurns, List.cons_append, List.nil_append, List.cons.injEq] at hturns
    rw [← hturns.2.2.2.1]
  · simp [patientTurns] at hturns

theorem patient_requests_share_volume :
    ((Session.repeated eastern blankRequest (Fin 2) {}).after patientTurns).work 0 =
        .done (.ok (grantedBlank 100)) ∧
      ((Session.repeated eastern blankRequest (Fin 2) {}).after patientTurns).work 1 =
        .done (.ok (grantedBlank 100)) ∧
      ∃ id, Tells (grantedBlank 100) "pvc1" id ∧ Tells (grantedBlank 100) "pvc1" id := by
  have hfirst : ((Session.repeated eastern blankRequest (Fin 2) {}).after patientTurns).work 0 =
      .done (.ok (grantedBlank 100)) := by
    apply Prog.result?_eq_some_iff.mp
    decide +kernel
  have hsecond : ((Session.repeated eastern blankRequest (Fin 2) {}).after patientTurns).work 1 =
      .done (.ok (grantedBlank 100)) := by
    apply Prog.result?_eq_some_iff.mp
    decide +kernel
  have hname : labelFor eastern blankRequest = "pvc1" := by decide +kernel
  have hall := creations_at_once eastern blankRequest (m := {}) (.of_empty rfl) rfl patientTurns
    (by decide +kernel)
  rw [hname] at hall
  refine ⟨hfirst, hsecond, (hall.2 fun i j hi hj => ?_).2 0 1 _ _ hfirst hsecond⟩
  exact (patient_looks hi).trans (patient_looks hj).symm

theorem duplicates_of_hasty_requests :
    ((Session.repeated eastern blankRequest (Fin 2) {}).after hastyTurns).work 0 =
        .done (.ok (grantedBlank 100)) ∧
      ((Session.repeated eastern blankRequest (Fin 2) {}).after hastyTurns).work 1 =
        .done (.ok (grantedBlank 101)) ∧
      (grantedBlank 100).volume.map (·.volumeId) = some "100-pvc1" ∧
      (grantedBlank 101).volume.map (·.volumeId) = some "101-pvc1" ∧
      ((Session.repeated eastern blankRequest (Fin 2) {}).after hastyTurns).provider.labelOf? 100 =
        some "pvc1" ∧
      ((Session.repeated eastern blankRequest (Fin 2) {}).after hastyTurns).provider.labelOf? 101 =
        some "pvc1" := by
  refine ⟨?_, ?_, by decide +kernel⟩
  · apply Prog.result?_eq_some_iff.mp
    decide +kernel
  · apply Prog.result?_eq_some_iff.mp
    decide +kernel

end VolumePlugin.Controller
