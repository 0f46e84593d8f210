import Mathlib.Data.List.Induction
import VolumePlugin.Proofs.Controller.Creation
import VolumePlugin.Proofs.Controller.Store

/-! # Where volumes come from

A request for a volume makes at most one, with the call that its content source asks for. Whether it
makes one at all depends on the search for the label: a volume that is found is taken as it is,
whatever it was made from. So the origin of a volume is in the request that made it. -/

namespace VolumePlugin.Controller

open Cloud (Memory)
open Cloud.Memory (Observed)
open Prog (Delivers Either Recorded)

def Query.makes : Query → Bool
  | .call (.createVolume _) | .call (.cloneVolume ..) => true
  | _ => false

/-- The call by which a request makes the wanted volume, if it can. -/
def makingCall (w : Wanted) (req : CreateVolumeRequest) : Option Cloud.Call :=
  match req.volumeContentSource.bind (·.type) with
  | some (.snapshot _) => none
  | some (.volume source) =>
    match VolumeKey.parse source.volumeId with
    | .ok key => some (.cloneVolume key.volume w.label)
    | .error _ => none
  | none => some (.createVolume ⟨w.label, w.region, w.size, volumeTags req.parameters⟩)

section Making

variable {w : Wanted} {req : CreateVolumeRequest}

theorem makingCall_blank (h : req.volumeContentSource.bind (·.type) = none) :
    makingCall w req =
      some (.createVolume ⟨w.label, w.region, w.size, volumeTags req.parameters⟩) := by
  rw [makingCall, h]

theorem makingCall_volume_eq_some_iff {source : VolumeSource} {call : Cloud.Call}
    (h : req.volumeContentSource.bind (·.type) = some (.volume source)) :
    makingCall w req = some call ↔ ∃ key, VolumeKey.parse source.volumeId = .ok key ∧
      call = .cloneVolume key.volume w.label := by
  rw [makingCall, h]
  dsimp only
  cases VolumeKey.parse source.volumeId with
  | error e => simp
  | ok key => simp [eq_comm]

theorem makingCall_snapshot {snapshot : SnapshotSource}
    (h : req.volumeContentSource.bind (·.type) = some (.snapshot snapshot)) :
    makingCall w req = none := by
  rw [makingCall, h]

end Making

/-! ## Work on record -/

/-- Work that neither makes volumes nor removes any. -/
structure Kept (s s' : List Query × Memory) : Prop where
  makings : s'.1.filter Query.makes = s.1.filter Query.makes
  labels : s'.2.labelOf? = s.2.labelOf?
  ordered : s.2.Ordered → s'.2.Ordered
  counter : s'.2.nextId = s.2.nextId

/-- Work that makes one volume by one call. -/
structure Added (call : Cloud.Call) (label : String) (s s' : List Query × Memory) : Prop where
  makings : s'.1.filter Query.makes = s.1.filter Query.makes ++ [.call call]
  labels : s'.2.labelOf? = Function.update s.2.labelOf? s.2.newId (some label)
  ordered : s.2.Ordered → s'.2.Ordered
  counter : s'.2.nextId = s.2.nextId + 1

section Recording

variable {s s' s'' : List Query × Memory} {call : Cloud.Call} {label : String}

theorem Kept.refl (s : List Query × Memory) : Kept s s :=
  ⟨rfl, rfl, fun h => h, rfl⟩

theorem Kept.trans (h : Kept s s') (h' : Kept s' s'') : Kept s s'' :=
  ⟨h'.makings.trans h.makings, h'.labels.trans h.labels, fun hs => h'.ordered (h.ordered hs),
    h'.counter.trans h.counter⟩

theorem Kept.newId (h : Kept s s') : s'.2.newId = s.2.newId :=
  congrArg (· % Text.wordBound) h.counter

theorem Kept.added (h : Kept s s') (h' : Added call label s' s'') : Added call label s s'' := by
  refine ⟨?_, ?_, fun hs => h'.ordered (h.ordered hs), ?_⟩
  · rw [h'.makings, h.makings]
  · rw [h'.labels, h.labels, h.newId]
  · rw [h'.counter, h.counter]

theorem Added.kept (h : Added call label s s') (h' : Kept s' s'') : Added call label s s'' :=
  ⟨h'.makings.trans h.makings, h'.labels.trans h.labels, fun hs => h'.ordered (h.ordered hs),
    h'.counter.trans h.counter⟩

theorem Kept.observed {record : List Query} {m m' : Memory} {q : Query} (hq : q.makes = false)
    (h : Observed m m') : Kept (record, m) (record ++ [q], m') := by
  refine ⟨by simp [hq], h.labelOf?, h.ordered, ?_⟩
  obtain ⟨read, n, rfl⟩ := h
  rfl

theorem Kept.resized (record : List Query) (m : Memory) (id size : Nat) :
    Kept (record, m) (record ++ [.call (.resizeVolume id size)], (m.resizeVolume id size).2) := by
  have hmakings : (record ++ [Query.call (.resizeVolume id size)]).filter Query.makes =
      record.filter Query.makes := by simp [Query.makes]
  unfold Memory.resizeVolume
  cases hv : m.volume? id with
  | none => exact ⟨hmakings, rfl, fun h => h, rfl⟩
  | some v =>
      dsimp only
      split
      · exact ⟨hmakings, rfl, fun h => h, rfl⟩
      · have hid : m.volume? v.id = some v := Memory.id_of_volume? hv ▸ hv
        exact ⟨hmakings, Memory.labelOf?_putVolume_of_volume? hid rfl, fun h => h.putVolume _, rfl⟩

theorem Added.addVolume (record : List Query) (m : Memory) (make : Nat → RemoteVolume)
    (hcall : (Query.call call).makes) (hid : (make m.newId).id = m.newId)
    (hlabel : (make m.newId).label = label) :
    Added call label (record, m) (record ++ [.call call], (m.addVolume make).2) := by
  refine ⟨by simp [hcall], ?_, fun h => h.putVolume _, rfl⟩
  rw [Memory.labelOf?_addVolume, hid, hlabel]

/-! ## Single questions on record -/

variable {α : Type} {record : List Query} {m : Memory}

theorem delivers_recorded_call (c : Cloud.Call) {ok : c.Result → List Query × Memory → Prop}
    {bad : CsiError → List Query × Memory → Prop} :
    Delivers (Recorded Answers) (Job.call c) (record, m) ok bad ↔
      Either (fun a m' => ok a (record ++ [.call c], m'))
        (fun e m' => bad (.cloud e) (record ++ [.call c], m'))
        (Memory.answer c m).1 (Memory.answer c m).2 :=
  (Prog.delivers_recorded_one (A := Query.Answer) (.call c)
    (fun answer : c.Answer => answer.mapError .cloud) record m ok bad).trans (delivers_call c m _ _)

theorem delivers_recorded_attempt (c : Cloud.Call) {ok : c.Answer → List Query × Memory → Prop}
    {bad : CsiError → List Query × Memory → Prop} :
    Delivers (Recorded Answers) (Job.attempt c) (record, m) ok bad ↔
      ok (Memory.answer c m).1 (record ++ [.call c], (Memory.answer c m).2) :=
  (Prog.delivers_recorded_one (A := Query.Answer) (.call c)
    (fun answer : c.Answer => .ok answer) record m ok bad).trans (delivers_attempt c m _ _)

theorem delivers_recorded_waitActive (h : m.Ordered) (id : Nat) :
    Delivers (Recorded Answers) (Job.waitActive id) (record, m)
      (fun v s => v.id = id ∧ Kept (record, m) s) (fun _ s => Kept (record, m) s) := by
  refine (Prog.delivers_recorded_one (A := Query.Answer) (.wait id (.status .active))
    (fun answer : Except CsiError RemoteVolume => answer) record m _ _).mpr
    ((delivers_waitActive h id).mono ?_ ?_)
  · rintro v m' ⟨hread, w, hshown, -, hw⟩
    have hid : v.id = w.id := hshown.congr fun _ => rfl
    exact ⟨hid.trans (Memory.id_of_volume? hw), .observed rfl hread⟩
  · exact fun _ _ hread => .observed rfl hread

theorem delivers_recorded_findVolume (h : m.ignoresLabels = false) (label : String)
    {f : Option RemoteVolume → Job α} {ok : α → List Query × Memory → Prop}
    {bad : CsiError → List Query × Memory → Prop} :
    Delivers (Recorded Answers) (Job.calls (Cloud.findVolume label) >>= f) (record, m) ok bad ↔
      Delivers (Recorded Answers) (f (m.labelled? label))
        (record ++ [.call (.listVolumes (.ofLabel label))], m) ok bad := by
  have hfind := Memory.find?_page_ofLabel h label
  unfold Delivers
  rw [findVolume_run]
  constructor
  · intro hall
    have hone := hall _ (record ++ [_], m) ⟨rfl, rfl⟩
    dsimp only at hone
    rwa [hfind] at hone
  · rintro hone answer ⟨record', m'⟩ ⟨rfl, hanswer⟩
    obtain ⟨rfl, rfl⟩ := Prod.mk.inj hanswer
    dsimp only
    rwa [hfind]

end Recording

/-! ## The work on a request for a volume -/

/-- Where the volume comes from that a request is answered with. -/
inductive Origin (w : Wanted) (req : CreateVolumeRequest) (s : List Query × Memory)
    (v : RemoteVolume) (s' : List Query × Memory) : Prop where
  | found (u : RemoteVolume) (hfound : s.2.labelled? w.label = some u) (hid : v.id = u.id)
      (hregion : u.region = w.region) (hsize : u.size = w.size) (hkept : Kept s s')
  | made (call : Cloud.Call) (hnew : s.2.labelled? w.label = none)
      (hcall : makingCall w req = some call) (hid : v.id = s.2.newId)
      (hadded : Added call w.label s s')

/-- What a request for a volume may have done when it ends, in whatever way. -/
inductive Trace (w : Wanted) (req : CreateVolumeRequest) (s s' : List Query × Memory) : Prop where
  | kept (h : Kept s s')
  | added (call : Cloud.Call) (hcall : makingCall w req = some call)
      (hadded : Added call w.label s s')

theorem Origin.trace {w : Wanted} {req : CreateVolumeRequest} {s s' : List Query × Memory}
    {v : RemoteVolume} (h : Origin w req s v s') : Trace w req s s' := by
  cases h with
  | found u hfound hid hregion hsize hkept => exact .kept hkept
  | made call hnew hcall hid hadded => exact .added call hcall hadded

section Work

variable {record : List Query} {m : Memory} {w : Wanted} {req : CreateVolumeRequest}

theorem origin_reuse (h : m.Ordered) {start : List Query × Memory}
    (hstart : Kept start (record, m)) {u : RemoteVolume}
    (hu : start.2.labelled? w.label = some u) :
    Delivers (Recorded Answers) (reuse w u) (record, m) (Origin w req start)
      (fun _ s => Trace w req start s) := by
  unfold reuse
  rw [Prog.delivers_bind, delivers_ofExcept]
  cases hcheck : checkExisting w u with
  | error e => exact .kept hstart
  | ok a =>
      obtain ⟨hregion, hsize⟩ := checkExisting_eq_ok hcheck
      rw [Prog.either_ok]
      split
      · exact .found u hu rfl hregion hsize hstart
      · refine (delivers_recorded_waitActive h u.id).mono ?_ ?_
        · rintro v s ⟨hid, hkept⟩
          exact .found u hu hid hregion hsize (hstart.trans hkept)
        · exact fun _ s hkept => .kept (hstart.trans hkept)

theorem origin_createBlank (h : m.Ordered) {start : List Query × Memory}
    (hstart : Kept start (record, m)) (hnew : start.2.labelled? w.label = none)
    (hblank : req.volumeContentSource.bind (·.type) = none) :
    Delivers (Recorded Answers) (createBlank w req.parameters) (record, m) (Origin w req start)
      (fun _ s => Trace w req start s) := by
  let o : CreateOptions := ⟨w.label, w.region, w.size, volumeTags req.parameters⟩
  have hcall : makingCall w req = some (.createVolume o) := makingCall_blank hblank
  have hadded : Added (.createVolume o) w.label (record, m)
      (record ++ [.call (.createVolume o)], (m.addVolume (m.blank o)).2) :=
    .addVolume record m (m.blank o) rfl rfl rfl
  unfold createBlank
  rw [Prog.delivers_bind, delivers_recorded_call, Memory.answer, Memory.createVolume_eq m o]
  refine (delivers_recorded_waitActive (hadded.ordered h) _).mono ?_ ?_
  · rintro v s ⟨hid, hkept⟩
    exact .made _ hnew hcall (hid.trans hstart.newId) (hstart.added (hadded.kept hkept))
  · exact fun _ s hkept => .added _ hcall (hstart.added (hadded.kept hkept))

/-- The clone stays what it is while it gets its size. -/
theorem origin_resized {call : Cloud.Call} (h : m.Ordered) {start : List Query × Memory}
    (hnew : start.2.labelled? w.label = none) (hcall : makingCall w req = some call)
    (hadded : Added call w.label start (record, m)) {id : Nat} (hid : id = start.2.newId) :
    Delivers (Recorded Answers) (do
      let volume ← Job.waitActive id
      if volume.size = w.size then return volume
      else
        Job.call (.resizeVolume volume.id w.size)
        Job.waitActive volume.id) (record, m) (Origin w req start)
      (fun _ s => Trace w req start s) := by
  rw [Prog.delivers_bind]
  refine (delivers_recorded_waitActive h id).mono ?_ ?_
  · rintro v ⟨record', m'⟩ ⟨hv, hkept⟩
    have hwaited := hadded.kept hkept
    split
    · exact .made call hnew hcall (hv.trans hid) hwaited
    · have hresized := Kept.resized record' m' v.id w.size
      have hall := hwaited.kept hresized
      rw [Prog.delivers_bind, delivers_recorded_call, Memory.answer]
      cases (m'.resizeVolume v.id w.size).1 with
      | error e => exact .added call hcall hall
      | ok a =>
          refine (delivers_recorded_waitActive (hresized.ordered (hkept.ordered h)) v.id).mono ?_ ?_
          · rintro u s ⟨hu, hkept'⟩
            exact .made call hnew hcall (hu.trans (hv.trans hid)) (hall.kept hkept')
          · exact fun _ s hkept' => .added call hcall (hall.kept hkept')
  · exact fun _ s hkept => .added call hcall (hadded.kept hkept)

theorem origin_cloneFrom (h : m.Ordered) {start : List Query × Memory}
    (hstart : Kept start (record, m)) (hnew : start.2.labelled? w.label = none)
    {source : VolumeSource}
    (hsource : req.volumeContentSource.bind (·.type) = some (.volume source)) :
    Delivers (Recorded Answers) (cloneFrom w source.volumeId) (record, m) (Origin w req start)
      (fun _ s => Trace w req start s) := by
  unfold cloneFrom
  rw [Prog.delivers_bind, delivers_ofExcept]
  cases hkey : VolumeKey.parse source.volumeId with
  | error e => exact .kept hstart
  | ok key =>
      have hcall : makingCall w req = some (.cloneVolume key.volume w.label) :=
        (makingCall_volume_eq_some_iff hsource).mpr ⟨key, hkey, rfl⟩
      change Delivers ..
      have hread := hstart.trans
        (.observed (q := .call (.getVolume key.volume)) rfl (Observed.getVolume h key.volume))
      rw [Prog.delivers_bind, delivers_recorded_attempt, Memory.answer]
      cases hget : (m.getVolume key.volume).1 with
      | error e =>
          dsimp only
          split
          · exact .kept hread
          · exact .kept hread
      | ok origin =>
          obtain ⟨s, hs, hshown, hafter⟩ := Memory.getVolume_eq_ok hget
          have hid : origin.id = key.volume :=
            (hshown.congr fun _ => rfl).trans (Memory.id_of_volume? hs)
          dsimp only
          have hordered := (Observed.getVolume h key.volume).ordered h
          generalize (m.getVolume key.volume).2 = m' at hread hafter hordered ⊢
          rw [Prog.delivers_bind]
          change Either _ _ (checkSource w origin) _
          cases checkSource w origin with
          | error e => exact .kept hread
          | ok a =>
              rw [Prog.either_ok, Prog.delivers_bind, delivers_recorded_call, Memory.answer, hid,
                Memory.cloneVolume_eq hafter]
              let clone : Cloud.Call := .cloneVolume key.volume w.label
              let make := m'.copy (Memory.settle s) w.label
              have hcloned : Added clone w.label (record ++ [.call (.getVolume key.volume)], m')
                  (record ++ [.call (.getVolume key.volume)] ++ [.call clone],
                    (m'.addVolume make).2) :=
                .addVolume _ m' make rfl rfl rfl
              exact origin_resized (hcloned.ordered hordered) hnew hcall (hread.added hcloned)
                hread.newId

theorem origin_obtain (h : m.Ordered) (hregards : m.ignoresLabels = false) (w : Wanted)
    (req : CreateVolumeRequest) :
    Delivers (Recorded Answers) (obtain w req) (record, m) (Origin w req (record, m))
      (fun _ s => Trace w req (record, m) s) := by
  have hsearch : Kept (record, m) (record ++ [.call (.listVolumes (.ofLabel w.label))], m) :=
    .observed rfl (.refl m)
  unfold obtain
  rw [delivers_recorded_findVolume hregards]
  cases hfind : m.labelled? w.label with
  | some existing => exact origin_reuse h hsearch hfind
  | none =>
      dsimp only
      split
      · exact .kept hsearch
      · next hsource => exact origin_cloneFrom h hsearch hfind hsource
      · next hblank => exact origin_createBlank h hsearch hfind hblank

theorem origin_createVolume (c : Controller) (req : CreateVolumeRequest) (h : m.Ordered)
    (hregards : m.ignoresLabels = false) :
    Delivers (Recorded Answers) (c.createVolume req) (record, m)
      (fun response s => ∃ w v, c.wanted req = .ok w ∧ response = described req v ∧
        Origin w req (record, m) v s)
      (fun _ s => Kept (record, m) s ∨ ∃ w, c.wanted req = .ok w ∧ Trace w req (record, m) s) := by
  unfold createVolume
  rw [Prog.delivers_bind, delivers_ofExcept]
  cases hw : c.wanted req with
  | error e => exact .inl (.refl _)
  | ok w =>
      rw [Prog.either_ok, Prog.delivers_bind]
      refine (origin_obtain h hregards w req).mono ?_ ?_
      · exact fun v s horigin => ⟨w, v, rfl, rfl, horigin⟩
      · exact fun e s htrace => .inr ⟨w, rfl, htrace⟩

end Work

/-! ## Runs -/

/-- A request for a volume that arrives. -/
abbrev Arrival.creation (req : CreateVolumeRequest) (p : Poller) (t : Timeline)
    (conditions : Conditions) : Arrival :=
  ⟨.create req, p, t, conditions⟩

/-- A volume is there after a request and was not there before, and the request made one call that
makes volumes. -/
structure MadeBy (c : Controller) (m : Memory) (a : Arrival) (call : Cloud.Call) (id : Nat) :
    Prop where
  only : (a.asked c m).filter Query.makes = [.call call]
  before : m.volume? id = none
  after : ((a.outcome c m).2.volume? id).isSome

/-- A volume was made, by the call that its content source asks for, by a request of the run whose
volume has the given label. -/
inductive Made (c : Controller) (m : Memory) : List Arrival → String → Nat → Prop where
  | now {past : List Arrival} {req : CreateVolumeRequest} {p : Poller} {t : Timeline}
      {conditions : Conditions} {w : Wanted} {call : Cloud.Call} {id : Nat}
      (hw : c.wanted req = .ok w) (hcall : makingCall w req = some call)
      (hmade : MadeBy c (after c m past) (.creation req p t conditions) call id) :
      Made c m (past ++ [.creation req p t conditions]) w.label id
  | before {past : List Arrival} {label : String} {id : Nat} (a : Arrival)
      (h : Made c m past label id) : Made c m (past ++ [a]) label id

section Runs

variable {c : Controller} {m : Memory} {req : CreateVolumeRequest} {p : Poller} {t : Timeline}
  {conditions : Conditions}

/-- The call puts the label under the next identifier, which nothing had before. -/
theorem Added.madeBy {call : Cloud.Call} {label : String} (h : m.Sound)
    (hwords : ((Arrival.creation req p t conditions).outcome c m).2.nextId ≤ Text.wordBound)
    (hadded : Added call label ([], (Arrival.creation req p t conditions).meet m)
      ((Arrival.creation req p t conditions).asked c m,
        ((Arrival.creation req p t conditions).outcome c m).2)) :
    MadeBy c m (.creation req p t conditions) call m.newId := by
  have hcounter : ((Arrival.creation req p t conditions).outcome c m).2.nextId = m.nextId + 1 :=
    hadded.counter
  have hid : m.newId = m.nextId := Memory.newId_of_lt (by omega)
  refine ⟨hadded.makings, h.volume?_nextId (Nat.le_of_eq hid.symm), ?_⟩
  have hlabels : ((Arrival.creation req p t conditions).outcome c m).2.labelOf? =
      Function.update m.labelOf? m.newId (some label) := hadded.labels
  have hlabel := congrFun hlabels m.newId
  rw [Function.update_self, Memory.labelOf?] at hlabel
  exact Option.isSome_of_mem (Option.map_eq_some_iff.mp hlabel).choose_spec.1

/-- A volume that a request for a volume leaves behind, in success or in failure, was made by it if
it was not there before. -/
theorem creation_made (h : m.Sound)
    (hwords : ((Arrival.creation req p t conditions).outcome c m).2.nextId ≤ Text.wordBound)
    {id : Nat} {v : RemoteVolume} (hbefore : m.volume? id = none)
    (hafter : ((Arrival.creation req p t conditions).outcome c m).2.volume? id = some v) :
    ∃ w call, c.wanted req = .ok w ∧ v.label = w.label ∧ makingCall w req = some call ∧
      MadeBy c m (.creation req p t conditions) call id := by
  let a : Arrival := .creation req p t conditions
  have hordered : (a.meet m).Ordered := h.ordered
  have hrecord := Arrival.outcome_of_recorded (a := a)
    (origin_createVolume c req hordered h.regards)
  have hend : Kept ([], a.meet m) (a.asked c m, (a.outcome c m).2) ∨
      ∃ w, c.wanted req = .ok w ∧
        Trace w req ([], a.meet m) (a.asked c m, (a.outcome c m).2) := by
    refine hrecord.elim ?_ fun _ hbad => hbad
    rintro response ⟨w, v, hw, -, horigin⟩
    exact .inr ⟨w, hw, horigin.trace⟩
  have hnone : (a.meet m).labelOf? id = none := by
    change (m.volume? id).map _ = none
    rw [hbefore]
    rfl
  have hsome : (a.outcome c m).2.labelOf? id = some v.label := by
    rw [Memory.labelOf?, hafter]
    rfl
  have hnot : ¬ Kept ([], a.meet m) (a.asked c m, (a.outcome c m).2) := by
    intro hkept
    have hsame := congrFun hkept.labels id
    simp [hnone, hsome] at hsame
  rcases hend with hkept | ⟨w, hw, hkept | ⟨call, hcall, hadded⟩⟩
  · exact absurd hkept hnot
  · exact absurd hkept hnot
  · have hlabels : (a.outcome c m).2.labelOf? =
        Function.update (a.meet m).labelOf? m.newId (some w.label) := hadded.labels
    have hlabel := congrFun hlabels id
    rw [hsome] at hlabel
    by_cases hid : id = m.newId
    · subst hid
      rw [Function.update_self] at hlabel
      exact ⟨w, call, hw, Option.some.inj hlabel, hcall, hadded.madeBy h hwords⟩
    · rw [Function.update_of_ne hid, hnone] at hlabel
      cases hlabel

/-- In a run that begins without volumes each volume was made. The induction is on the end of the
run: what its last request found is as old as it was, and what it did not find it has made. -/
theorem made_of_volume? (h : m.Sound) (hempty : m.volumes = []) (arrivals : List Arrival) :
    (after c m arrivals).nextId ≤ Text.wordBound →
      ∀ {id : Nat} {v : RemoteVolume}, (after c m arrivals).volume? id = some v →
        Made c m arrivals v.label id := by
  induction arrivals using List.reverseRecOn with
  | nil =>
      intro _ id v hv
      simp [Memory.volume?, hempty] at hv
  | append_singleton past a ih =>
      intro hwords id v hv
      have hpast := after_sound c past h
      rw [after_append, after_cons, after_nil] at hwords hv
      have hbefore := Nat.le_trans (a.outcome_counter c hpast) hwords
      have hchange := (a.outcome_step c hpast hwords).change id
      cases hold : (after c m past).volume? id with
      | some u =>
          rw [hold, hv] at hchange
          cases hchange with
          | kept hsize hregion hlabel hattachment =>
              rw [hlabel]
              exact .before a (ih hbefore hold)
      | none =>
          rw [hold, hv] at hchange
          cases hchange with
          | appeared hid hfree hr =>
              obtain ⟨req, hr⟩ := hr
              obtain ⟨request, p, t, conditions⟩ := a
              cases hr
              obtain ⟨w, call, hw, hlabel, hcall, hmade⟩ := creation_made hpast hwords hold hv
              rw [hlabel]
              exact .now hw hcall hmade

end Runs

/-- Content sources over a whole run that begins without volumes, and in which identifiers do not
begin anew. A request for a volume that succeeds is told about a volume with the wanted label and
size. If no volume has the label yet, the request has made this one by the call that its content
source asks for, so for a handle by cloning the volume that the handle names. If a volume has the
label, it is this one, it has the wanted region and size, and some request of the run for this label
has made it in such a way. A request for a snapshot succeeds only in the latter case. -/
theorem content_sources_over_run (c : Controller) {m : Memory} (hempty : m.volumes = [])
    (hregards : m.ignoresLabels = false) (past : List Arrival) (req : CreateVolumeRequest)
    (p : Poller) (t : Timeline) (conditions : Conditions) {response : CreateVolumeResponse}
    (hok : ((Arrival.creation req p t conditions).outcome c (after c m past)).1 = .ok response)
    (hwords : ((Arrival.creation req p t conditions).outcome c (after c m past)).2.nextId ≤
      Text.wordBound) :
    ∃ w v d, c.wanted req = .ok w ∧ v.label = w.label ∧ v.size = w.size ∧ response = ⟨some d⟩ ∧
      Describes req v d ∧
      (∀ u, (after c m past).labelled? w.label = some u →
        v.id = u.id ∧ u.region = w.region ∧ u.size = w.size ∧ Made c m past w.label u.id) ∧
      ((after c m past).labelled? w.label = none →
        (∃ call, makingCall w req = some call ∧
          MadeBy c (after c m past) (.creation req p t conditions) call v.id) ∧
        ∀ source, req.volumeContentSource.bind (·.type) = some (.volume source) →
          ∃ key, VolumeKey.parse source.volumeId = .ok key ∧
            MadeBy c (after c m past) (.creation req p t conditions)
              (.cloneVolume key.volume w.label) v.id) ∧
      ∀ snapshot, req.volumeContentSource.bind (·.type) = some (.snapshot snapshot) →
        (after c m past).labelled? w.label ≠ none := by
  have hsound : m.Sound := by
    refine ⟨?_, ?_, ?_, ?_, hregards⟩ <;> simp [Memory.Ordered, hempty]
  have hpast := after_sound c past hsound
  have hbefore := Nat.le_trans (Arrival.outcome_counter _ c hpast) hwords
  let start : Memory := (Arrival.creation req p t conditions).meet (after c m past)
  have hregular : Regular start :=
    ⟨hpast.ordered, hpast.regards, fun v hv => Nat.lt_of_lt_of_le (hpast.fresh v hv) hbefore⟩
  have hrecord := Arrival.outcome_of_recorded (a := .creation req p t conditions)
    (origin_createVolume c req hregular.ordered hregular.regards)
  have hready := Arrival.outcome_of_delivers (a := .creation req p t conditions)
    (delivers_createVolume c req hregular)
  rw [hok] at hrecord hready
  obtain ⟨w, shown, hw, rfl, horigin⟩ := hrecord
  obtain ⟨w', v, hw', hready, hsame⟩ := hready
  obtain rfl : w = w' := Except.ok.inj (hw.symm.trans hw')
  obtain ⟨hshown, -⟩ := same_of_described_eq hsame
  obtain ⟨d, hresponse, hdescribes⟩ := described_eq req v
  have hgranted : Capacity.resolve req.capacityRange = .ok v.size :=
    hready.size ▸ (wanted_eq_ok hw).2.2
  refine ⟨w, v, d, hw, (Memory.label_of_labelled? hready.first).2, hready.size,
    hsame.trans hresponse, hdescribes hgranted, ?_⟩
  rw [← hshown]
  cases horigin with
  | found u hfound hid hregion hsize hkept =>
      have hfound : (after c m past).labelled? w.label = some u := hfound
      obtain ⟨hmem, hlabel⟩ := Memory.label_of_labelled? hfound
      have hu : (after c m past).volume? u.id = some u :=
        (Memory.volume?_eq_some_iff hpast.ordered).mpr ⟨hmem, rfl⟩
      refine ⟨?_, ?_, ?_⟩
      · intro u' hu'
        obtain rfl : u = u' := Option.some.inj (hfound.symm.trans hu')
        exact ⟨hid, hregion, hsize, hlabel ▸ made_of_volume? hsound hempty past hbefore hu⟩
      · intro hnone
        simp [hfound] at hnone
      · simp [hfound]
  | made call hnew hcall hid hadded =>
      have hnew : (after c m past).labelled? w.label = none := hnew
      have hmade : MadeBy c (after c m past) (.creation req p t conditions) call shown.id :=
        hid ▸ hadded.madeBy hpast hwords
      refine ⟨?_, fun _ => ⟨⟨call, hcall, hmade⟩, ?_⟩, ?_⟩
      · intro u hu
        simp [hnew] at hu
      · intro source hsource
        obtain ⟨key, hkey, rfl⟩ := (makingCall_volume_eq_some_iff hsource).mp hcall
        exact ⟨key, hkey, hmade⟩
      · intro snapshot hsnapshot
        rw [makingCall_snapshot hsnapshot] at hcall
        cases hcall

/-- The service in a region, with labels that are names without hyphens. -/
def eastern : Controller := ⟨"us-east", none⟩

/-- A request for a volume that arrives at a provider without delays. -/
abbrev arrive (req : CreateVolumeRequest) : Arrival :=
  .creation req ⟨10, 100, false, 0⟩ {} ⟨100, .active, none, 0⟩

def dataRequest : CreateVolumeRequest where
  name := "data"
  volumeCapabilities := [{ accessMode := some { mode := 1 } }]

/-- The request for a copy of this volume, but for a blank volume. -/
def blankRequest : CreateVolumeRequest :=
  { copyRequest with volumeContentSource := none }

def snapshotRequest : CreateVolumeRequest :=
  { copyRequest with
    volumeContentSource := some { type := some (.snapshot { snapshotId := "1-nightly" }) } }

theorem content_sources_over_copy :
    ∃ w v d, eastern.wanted copyRequest = .ok w ∧ v.label = w.label ∧ v.size = w.size ∧
      copyResponse = ⟨some d⟩ ∧ Describes copyRequest v d ∧
      (∀ u, (after eastern {} [arrive dataRequest]).labelled? w.label = some u →
        v.id = u.id ∧ u.region = w.region ∧ u.size = w.size ∧
          Made eastern {} [arrive dataRequest] w.label u.id) ∧
      ((after eastern {} [arrive dataRequest]).labelled? w.label = none →
        (∃ call, makingCall w copyRequest = some call ∧
          MadeBy eastern (after eastern {} [arrive dataRequest]) (arrive copyRequest) call v.id) ∧
        ∀ source, copyRequest.volumeContentSource.bind (·.type) = some (.volume source) →
          ∃ key, VolumeKey.parse source.volumeId = .ok key ∧
            MadeBy eastern (after eastern {} [arrive dataRequest]) (arrive copyRequest)
              (.cloneVolume key.volume w.label) v.id) ∧
      ∀ snapshot, copyRequest.volumeContentSource.bind (·.type) = some (.snapshot snapshot) →
        (after eastern {} [arrive dataRequest]).labelled? w.label ≠ none :=
  content_sources_over_run eastern rfl rfl [arrive dataRequest] copyRequest ⟨10, 100, false, 0⟩ {}
    ⟨100, .active, none, 0⟩ (by decide +kernel) (by decide +kernel)

def snapshotResponse : CreateVolumeResponse where
  volume := some {
    capacityBytes := 21474836480
    volumeId := "101-pvc1"
    contentSource := some { type := some (.snapshot { snapshotId := "1-nightly" }) }
    accessibleTopology :=
      [{ segments := ⟨[("topology.blockcsi.rk8s.io/region", "us-east")]⟩ }] }

/-- What is found under the label is no copy of anything. The request for a copy gets it, and so
does the request for the volume of a snapshot. -/
theorem content_sources_not_copied :
    ((arrive copyRequest).outcome eastern
        (after eastern {} [arrive dataRequest, arrive blankRequest])).1 = .ok copyResponse ∧
      ((arrive dataRequest).asked eastern {} ++
          (arrive blankRequest).asked eastern (after eastern {} [arrive dataRequest]) ++
          (arrive copyRequest).asked eastern
            (after eastern {} [arrive dataRequest, arrive blankRequest])).filter Query.makes =
        [.call (.createVolume ⟨"data", "us-east", 10, []⟩),
          .call (.createVolume ⟨"pvc1", "us-east", 20, []⟩)] ∧
      ((arrive snapshotRequest).outcome eastern
        (after eastern {} [arrive dataRequest, arrive blankRequest])).1 = .ok snapshotResponse := by
  decide +kernel

end VolumePlugin.Controller
