import VolumePlugin.Proofs.Controller.Work

/-! # The volumes at the provider, from request to request

Labels stay distinct, sizes do not shrink, regions and labels stay as they are, and identifiers are
used once. Attachments come and go with the requests that name them, and volumes go when they are
deleted while nothing is attached to them.

All of this lasts until more identifiers have been given out than a word can tell apart. From then
on a new volume may take the place of an old one, and only the labels stay distinct. -/

namespace VolumePlugin.Controller

open Cloud (Memory)

/-! ## One request -/

/-- How what the provider has under an identifier may be different after a request. -/
inductive Change (r : Request) (next id : Nat) :
    Option RemoteVolume → Option RemoteVolume → Prop where
  | empty : Change r next id none none
  | kept {v v' : RemoteVolume} (hsize : v.size ≤ v'.size) (hregion : v'.region = v.region)
      (hlabel : v'.label = v.label) (hattachment : Reattached r id v.attachment v'.attachment) :
      Change r next id (some v) (some v')
  /-- Identifiers of new volumes were never given out before. -/
  | appeared {v' : RemoteVolume} (hid : next ≤ id) (hfree : v'.attachment = none)
      (hr : ∃ req, r = .create req) : Change r next id none (some v')
  | gone {v : RemoteVolume} (hfree : v.attachment = none)
      (hr : ∃ req, r = .delete req ∧ volumeNumber req.volumeId = id) :
      Change r next id (some v) none

/-- How the provider may be different after a request. -/
structure Step (r : Request) (m m' : Memory) : Prop where
  change : ∀ id, Change r m.nextId id (m.volume? id) (m'.volume? id)
  counter : m.nextId ≤ m'.nextId

namespace Reattached

variable {r : Request} {id : Nat} {a b c : Option Nat}

/-- A request that attaches volumes does not detach them, and the other way round. -/
theorem trans (h : Reattached r id a b) (h' : Reattached r id b c) : Reattached r id a c := by
  cases h with
  | same => exact h'
  | attached req =>
      cases h' with
      | same => exact .attached req
  | detached req n hn =>
      cases h' with
      | same => exact .detached req n hn

/-- Only requests to attach and to detach change attachments. -/
theorem eq (h : Reattached r id a b) (hpublish : ∀ req, r ≠ .publish req)
    (hunpublish : ∀ req, r ≠ .unpublish req) : a = b := by
  cases h with
  | same => rfl
  | attached req => exact absurd rfl (hpublish req)
  | detached req n hn => exact absurd rfl (hunpublish req)

end Reattached

namespace Change

variable {r : Request} {next id : Nat} {a b c : Option RemoteVolume}

theorem refl (r : Request) (next id : Nat) (a : Option RemoteVolume) : Change r next id a a := by
  cases a with
  | none => exact .empty
  | some v => exact .kept (Nat.le_refl _) rfl rfl (.same r id _)

/-- Changes by one request add up to a change by this request. -/
theorem trans {next' : Nat} (h : Change r next id a b) (hnext : next ≤ next')
    (h' : Change r next' id b c) : Change r next id a c := by
  cases h with
  | empty =>
      cases h' with
      | empty => exact .empty
      | appeared hid hfree hr => exact .appeared (Nat.le_trans hnext hid) hfree hr
  | kept hsize hregion hlabel hattachment =>
      cases h' with
      | kept hsize' hregion' hlabel' hattachment' =>
          exact .kept (Nat.le_trans hsize hsize') (hregion'.trans hregion) (hlabel'.trans hlabel)
            (hattachment.trans hattachment')
      | gone hfree hr =>
          obtain ⟨req, rfl, hid⟩ := hr
          exact .gone ((hattachment.eq nofun nofun).trans hfree) ⟨req, rfl, hid⟩
  | appeared hid hfree hr =>
      obtain ⟨req, rfl⟩ := hr
      cases h' with
      | kept hsize hregion hlabel hattachment =>
          exact .appeared hid ((hattachment.eq nofun nofun).symm.trans hfree) ⟨req, rfl⟩
      | gone hfree hr =>
          -- No request both makes and deletes volumes.
          obtain ⟨req', hreq, -⟩ := hr
          cases hreq
  | gone hfree hr =>
      obtain ⟨req, rfl, hid⟩ := hr
      cases h' with
      | empty => exact .gone hfree ⟨req, rfl, hid⟩
      | appeared hid' hfree' hr' =>
          obtain ⟨req', hreq⟩ := hr'
          cases hreq

end Change

theorem Step.refl (r : Request) (m : Memory) : Step r m m :=
  ⟨fun id => .refl r m.nextId id _, Nat.le_refl _⟩

theorem Step.trans {r : Request} {m m' m'' : Memory} (h : Step r m m') (h' : Step r m' m'') :
    Step r m m'' :=
  ⟨fun id => (h.change id).trans h.counter (h'.change id), Nat.le_trans h.counter h'.counter⟩

theorem Effect.step {r : Request} {m m' : Memory} (he : Effect r m m') (h : m.Sound)
    (hwords : m'.nextId ≤ Text.wordBound) : Step r m m' := by
  cases he with
  | failed => exact ⟨(Step.refl r m).change, Nat.le_refl _⟩
  | read ho =>
      refine ⟨fun id => ?_, ?_⟩
      · obtain ⟨read, hread⟩ := ho.volume? id
        rw [hread]
        cases m.volume? id with
        | none => exact .empty
        | some v => exact .kept (by simp) (by simp) (by simp) (by simpa using .same r id _)
      · obtain ⟨read, hidden, rfl⟩ := ho
        exact Nat.le_refl _
  | added make hid hnew hfree =>
      refine ⟨fun id => ?_, Nat.le_succ _⟩
      change Change _ _ _ _ ((m.putVolume (make m.newId)).volume? id)
      rw [Memory.volume?_putVolume, hid]
      split
      · next heq =>
          have hle : m.nextId ≤ id := heq ▸ Nat.le_of_eq (Memory.newId_of_lt hwords).symm
          rw [h.volume?_nextId hle]
          exact .appeared hle hfree ⟨_, rfl⟩
      · exact .refl _ _ _ _
  | @changed _ _ v w hw hsize hregion hlabel hattachment hattached =>
      refine ⟨fun id => ?_, Nat.le_refl _⟩
      rw [Memory.volume?_putVolume]
      split
      · next heq =>
          subst heq
          rw [hw]
          exact .kept hsize hregion hlabel hattachment
      · exact .refl _ _ _ _
  | dropped hv hfree =>
      refine ⟨fun id => ?_, Nat.le_refl _⟩
      rw [Memory.volume?_dropVolume]
      split
      · next heq =>
          subst heq
          rw [hv]
          exact .gone hfree ⟨_, rfl, rfl⟩
      · exact .refl _ _ _ _

theorem Evolves.step {r : Request} {m m' : Memory} (he : Evolves r m m') (h : m.Sound)
    (hwords : m'.nextId ≤ Text.wordBound) : Step r m m' := by
  induction he with
  | refl => exact .refl r m
  | tail hs he ih =>
      have hbefore := Nat.le_trans he.counter hwords
      exact (ih hbefore).trans (he.step (Evolves.sound hs h) hwords)

/-- The conditions that a request meets are no matter of the volumes. -/
theorem Arrival.meet_sound (a : Arrival) {m : Memory} (h : m.Sound) : (a.meet m).Sound :=
  ⟨h.ordered, h.fresh, h.labels, h.attached, h.regards⟩

theorem Arrival.outcome_evolves (a : Arrival) (c : Controller) {m : Memory} (h : m.Sound) :
    Evolves a.request (a.meet m) (a.outcome c m).2 :=
  (a.outcome_of_delivers (allowed_job c a.request (a.meet_sound h))).elim
    (fun _ hevolves => hevolves) (fun _ hevolves => hevolves)

theorem Arrival.outcome_sound (a : Arrival) (c : Controller) {m : Memory} (h : m.Sound) :
    (a.outcome c m).2.Sound :=
  (a.outcome_evolves c h).sound (a.meet_sound h)

theorem Arrival.outcome_counter (a : Arrival) (c : Controller) {m : Memory} (h : m.Sound) :
    m.nextId ≤ (a.outcome c m).2.nextId :=
  (a.outcome_evolves c h).counter

theorem Arrival.outcome_step (a : Arrival) (c : Controller) {m : Memory} (h : m.Sound)
    (hwords : (a.outcome c m).2.nextId ≤ Text.wordBound) :
    Step a.request m (a.outcome c m).2 :=
  have hstep := (a.outcome_evolves c h).step (a.meet_sound h) hwords
  ⟨hstep.change, hstep.counter⟩

/-! ## Many requests -/

/-- What lasts from one moment to all later ones. -/
structure Later (m m' : Memory) : Prop where
  kept : ∀ id v v', m.volume? id = some v → m'.volume? id = some v' →
    v.size ≤ v'.size ∧ v'.region = v.region ∧ v'.label = v.label
  /-- An identifier that was given out and is not in use is not used again. -/
  spent : ∀ id, id < m.nextId → m.volume? id = none → m'.volume? id = none
  counter : m.nextId ≤ m'.nextId

theorem Later.refl (m : Memory) : Later m m where
  kept id v v' hv hv' := by
    obtain rfl : v = v' := Option.some.inj (hv.symm.trans hv')
    exact ⟨Nat.le_refl _, rfl, rfl⟩
  spent _ _ hnone := hnone
  counter := Nat.le_refl _

theorem Later.trans {m m' m'' : Memory} (h : Later m m') (h' : Later m' m'') (hm : m.Numbered) :
    Later m m'' where
  kept id v v'' hv hv'' := by
    cases hmid : m'.volume? id with
    | none =>
        -- The identifier would be spent in between, and could not be in use in the end.
        have hlt := Nat.lt_of_lt_of_le (hm.lt_nextId hv) h.counter
        simp [h'.spent id hlt hmid] at hv''
    | some v' =>
        obtain ⟨hsize, hregion, hlabel⟩ := h.kept id v v' hv hmid
        obtain ⟨hsize', hregion', hlabel'⟩ := h'.kept id v' v'' hmid hv''
        exact ⟨Nat.le_trans hsize hsize', hregion'.trans hregion, hlabel'.trans hlabel⟩
  spent id hid hnone :=
    h'.spent id (Nat.lt_of_lt_of_le hid h.counter) (h.spent id hid hnone)
  counter := Nat.le_trans h.counter h'.counter

theorem Step.later {r : Request} {m m' : Memory} (h : Step r m m') : Later m m' where
  kept id v v' hv hv' := by
    have hchange := h.change id
    rw [hv, hv'] at hchange
    cases hchange with
    | kept hsize hregion hlabel hattachment => exact ⟨hsize, hregion, hlabel⟩
  spent id hid hnone := by
    have hchange := h.change id
    rw [hnone] at hchange
    cases hv' : m'.volume? id with
    | none => rfl
    | some v' =>
        rw [hv'] at hchange
        cases hchange with
        | appeared hid' hfree hr => omega
  counter := h.counter

theorem after_sound (c : Controller) (arrivals : List Arrival) :
    ∀ {m : Memory}, m.Sound → (after c m arrivals).Sound := by
  induction arrivals with
  | nil => exact fun h => h
  | cons a rest ih => exact fun h => ih (a.outcome_sound c h)

theorem after_counter (c : Controller) (arrivals : List Arrival) :
    ∀ {m : Memory}, m.Sound → m.nextId ≤ (after c m arrivals).nextId := by
  induction arrivals with
  | nil => exact fun _ => Nat.le_refl _
  | cons a rest ih =>
      intro m h
      exact Nat.le_trans (a.outcome_counter c h) (ih (a.outcome_sound c h))

theorem after_later (c : Controller) (arrivals : List Arrival) :
    ∀ {m : Memory}, m.Sound → (after c m arrivals).nextId ≤ Text.wordBound →
      Later m (after c m arrivals) := by
  induction arrivals with
  | nil => exact fun _ _ => .refl _
  | cons a rest ih =>
      intro m h hwords
      have hfirst := a.outcome_sound c h
      have hstep := a.outcome_step c h (Nat.le_trans (after_counter c rest hfirst) hwords)
      exact hstep.later.trans (ih hfirst hwords) h.numbered

/-- The volumes at the provider over a whole run in which identifiers do not begin anew. At every
moment the provider is sound, every request changes only what its kind allows, a volume keeps its
region, its label and at least its size for as long as it is there, and an identifier that is free
again stays free. -/
theorem store_over_run (c : Controller) {m : Memory} (h : m.Sound) (past : List Arrival)
    (next : Arrival) (future further : List Arrival)
    (hwords : (after c m (past ++ next :: (future ++ further))).nextId ≤ Text.wordBound) :
    (after c m past).Sound ∧
      Step next.request (after c m past) (after c m (past ++ [next])) ∧
      Later (after c m past) (after c m (past ++ next :: future)) ∧
      ∀ id v, (after c m past).volume? id = some v →
        (after c m (past ++ next :: future)).volume? id = none →
        (after c m (past ++ next :: (future ++ further))).volume? id = none := by
  have hpast := after_sound c past h
  have hnext := next.outcome_sound c hpast
  have hfuture := after_sound c future hnext
  simp only [after_append, after_cons, after_nil] at hwords ⊢
  have hwords' := Nat.le_trans (after_counter c further hfuture) hwords
  have hstep := next.outcome_step c hpast (Nat.le_trans (after_counter c future hnext) hwords')
  have hlater := hstep.later.trans (after_later c future hnext hwords') hpast.numbered
  refine ⟨hpast, hstep, hlater, fun id v hv hgone => ?_⟩
  have hspent := Nat.lt_of_lt_of_le (hpast.lt_nextId hv) hlater.counter
  exact (after_later c further hfuture hwords).spent id hspent hgone

/-- A provider with a volume that is attached, and one that is not. -/
def twoVolumes : Memory where
  nextId := 102
  volumes := [
    ⟨100, "data", 20, "us-east", .active, some 7, Memory.devicePath "data", []⟩,
    ⟨101, "logs", 10, "us-east", .active, none, Memory.devicePath "logs", []⟩]
  instances := [⟨7, "worker", "us-east", 1⟩]

theorem twoVolumes_sound : twoVolumes.Sound where
  ordered := by unfold Memory.Ordered; decide
  fresh := by decide
  labels := by decide
  attached := by
    intro v hv n hn
    simp only [twoVolumes, List.mem_cons, List.not_mem_nil, or_false] at hv
    rcases hv with rfl | rfl
    · obtain rfl : 7 = n := by simpa using hn
      decide
    · simp at hn
  regards := rfl

def deletion : Arrival where
  request := .delete { volumeId := "101-logs" }
  poller := { interval := 10, timeout := 100 }
  timeline := {}
  conditions := ⟨100, .active, none, 0⟩

def creationOf (name : String) : Arrival where
  request := .create { name, volumeCapabilities := [{ accessMode := some { mode := 1 } }] }
  poller := { interval := 10, timeout := 100 }
  timeline := {}
  conditions := ⟨100, .active, none, 0⟩

/-- After the volume is deleted, its label is asked for again. -/
theorem store_over_deletion :
    twoVolumes.Sound ∧
      (after ⟨"us-east", none⟩ twoVolumes
        ([] ++ deletion :: ([] ++ [creationOf "logs"]))).nextId ≤ Text.wordBound ∧
      (after ⟨"us-east", none⟩ twoVolumes []).Sound ∧
      Step deletion.request (after ⟨"us-east", none⟩ twoVolumes [])
        (after ⟨"us-east", none⟩ twoVolumes ([] ++ [deletion])) ∧
      Later (after ⟨"us-east", none⟩ twoVolumes [])
        (after ⟨"us-east", none⟩ twoVolumes ([] ++ deletion :: [])) ∧
      ∀ id v, (after ⟨"us-east", none⟩ twoVolumes []).volume? id = some v →
        (after ⟨"us-east", none⟩ twoVolumes ([] ++ deletion :: [])).volume? id = none →
        (after ⟨"us-east", none⟩ twoVolumes
          ([] ++ deletion :: ([] ++ [creationOf "logs"]))).volume? id = none := by
  have hwords : (after ⟨"us-east", none⟩ twoVolumes
      ([] ++ deletion :: ([] ++ [creationOf "logs"]))).nextId ≤ Text.wordBound := by
    decide +kernel
  exact ⟨twoVolumes_sound, hwords,
    store_over_run ⟨"us-east", none⟩ twoVolumes_sound [] deletion [] [creationOf "logs"] hwords⟩

/-- The bound is needed. Once identifiers begin anew, a new volume takes the place of one that
nobody has deleted. -/
example :
    let m : Memory := { twoVolumes with nextId := Text.wordBound + 101 }
    m.labelOf? 101 = some "logs" ∧
      (after ⟨"us-east", none⟩ m [creationOf "new"]).labelOf? 101 = some "new" := by
  decide +kernel

end VolumePlugin.Controller
