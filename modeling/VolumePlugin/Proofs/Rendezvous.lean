import VolumePlugin.Device
import VolumePlugin.Node.Service
import VolumePlugin.Proofs.Controller.Listing
import VolumePlugin.Proofs.Controller.Naming
import VolumePlugin.Proofs.Controller.Publication

/-! # Where the controller and the node meet

The two services share no state. All that ties them together is what an orchestrator carries from
the one to the other: the handle of a volume, the identifier of a node, and the path of a device. -/

namespace VolumePlugin

open Cloud (Memory)
open Cloud.Memory (Observed reread settle)
open Controller

/-! ## The paths of devices -/

namespace Cloud.Memory

/-- The device of every volume is where the label of the volume says. -/
def PathsOfLabels (m : Memory) : Prop :=
  ∀ v ∈ m.volumes, v.devicePath = devicePath v.label

namespace PathsOfLabels

variable {m m' : Memory}

theorem observed (h : m.PathsOfLabels) (ho : Observed m m') : m'.PathsOfLabels := by
  obtain ⟨read, n, rfl⟩ := ho
  intro v hv
  obtain ⟨u, hu, rfl⟩ := List.mem_map.mp hv
  have hpath : (reread read u).devicePath = u.devicePath := reread_congr (fun _ => rfl) read u
  rw [hpath, reread_label]
  exact h u hu

theorem putVolume (h : m.PathsOfLabels) (hm : m.Numbered) {v : RemoteVolume}
    (hv : v.devicePath = devicePath v.label) : (m.putVolume v).PathsOfLabels := by
  intro u hu
  rcases (hm.ordered.mem_putVolume v u).mp hu with rfl | ⟨hu, -⟩
  · exact hv
  · exact h u hu

theorem of_volume? (h : m.PathsOfLabels) {id : Nat} {v : RemoteVolume}
    (hv : m.volume? id = some v) : v.devicePath = devicePath v.label :=
  h v (List.mem_of_find?_eq_some hv)

/-- A volume may change in place if it keeps its label and its path. -/
theorem changed (h : m.PathsOfLabels) (hm : m.Numbered) {id : Nat} {v w : RemoteVolume}
    (hw : m.volume? id = some w) (hlabel : v.label = w.label)
    (hpath : v.devicePath = w.devicePath) : (m.putVolume v).PathsOfLabels := by
  refine h.putVolume hm ?_
  rw [hpath, hlabel]
  exact h.of_volume? hw

/-- The provider makes the path of a new volume of its label, and no call changes a path. -/
theorem answer (h : m.PathsOfLabels) (hm : m.Numbered) (c : Call) :
    (Memory.answer c m).2.PathsOfLabels := by
  cases c with
  | listVolumes o => exact h
  | getVolume id => exact h.observed (.getVolume hm.ordered id)
  | createVolume o => exact h.putVolume hm (v := m.blank o m.newId) rfl
  | deleteVolume id =>
      simp only [Memory.answer, Memory.deleteVolume]
      split
      · exact h
      · split
        · exact h
        · exact fun v hv => h v (List.mem_filter.mp hv).1
  | attachVolume id target =>
      simp only [Memory.answer, Memory.attachVolume]
      split
      · exact h
      · split
        · exact h
        · split
          · exact h
          · next v hv =>
              split
              · exact h
              · exact h.changed hm hv rfl rfl
  | detachVolume id =>
      simp only [Memory.answer, Memory.detachVolume]
      split
      · exact h
      · next v hv => exact h.changed hm hv rfl rfl
  | resizeVolume id size =>
      simp only [Memory.answer, Memory.resizeVolume]
      split
      · exact h
      · next v hv =>
          split
          · exact h
          · exact h.changed hm hv rfl rfl
  | cloneVolume id label =>
      cases hsource : m.volume? id with
      | none => simpa [Memory.answer, Memory.cloneVolume, hsource] using h
      | some source =>
          rw [Memory.answer, cloneVolume_eq hsource]
          exact h.putVolume hm (v := m.copy source label m.newId) rfl
  | listInstances o => exact h
  | getInstance id => exact h

end PathsOfLabels

end Cloud.Memory

namespace Controller

/-- A provider that numbers its volumes and has their devices where the labels say. -/
structure Orderly (m : Memory) : Prop where
  numbered : m.Numbered
  paths : m.PathsOfLabels

theorem Orderly.of_answers {q : Query} {m m' : Memory} {a : q.Answer} (h : Orderly m)
    (ha : Answers q m a m') : Orderly m' := by
  refine ⟨(ha.answered h.numbered).numbered, ?_⟩
  cases q with
  | call c =>
      obtain ⟨-, rfl⟩ := Prod.mk.inj ha
      exact h.paths.answer h.numbered c
  | wait volume goal =>
      obtain ⟨p, t, t', hwait⟩ := ha
      have hspec := p.wait_spec goal.action volume 0 (probeSpec h.numbered.ordered volume goal) t
        (Observed.refl m)
      rw [hwait] at hspec
      exact h.paths.observed hspec.1

theorem Arrival.outcome_orderly (a : Arrival) (c : Controller) {m : Memory} (h : Orderly m) :
    Orderly (a.outcome c m).2 := by
  have hmeet : Orderly (a.meet m) := ⟨⟨h.numbered.ordered, h.numbered.fresh⟩, h.paths⟩
  have hkeeps : Prog.Ensures Answers (a.request.job c).run (a.meet m) fun _ m' => Orderly m' :=
    (Prog.asks_any _).keeps Orderly (fun _ _ _ _ _ ha h => h.of_answers ha) hmeet
  exact hkeeps.run (answers_sound a.poller) (t := (a.timeline, a.meet m))

theorem after_orderly (c : Controller) (arrivals : List Arrival) {m : Memory} (h : Orderly m) :
    Orderly (after c m arrivals) := by
  induction arrivals generalizing m with
  | nil => exact h
  | cons a rest ih => exact ih (a.outcome_orderly c h)

end Controller

/-- The provider's path is the last of those that a node looks at. -/
theorem devicePath_mem_candidates (label : String) :
    Memory.devicePath label ∈ Device.candidates label none := by
  have hcandidates : Device.candidates label none =
      [Device.linkDirectory ++ "/linode-" ++ label ++ "",
        Device.linkDirectory ++ "/scsi-0Linode_Volume_" ++ label ++ ""] := by
    unfold Device.candidates
    rfl
  have hstart : "/dev/disk/by-id/scsi-0Linode_Volume_" =
      Device.linkDirectory ++ "/scsi-0Linode_Volume_" := by decide
  have hpath : Memory.devicePath label =
      Device.linkDirectory ++ "/scsi-0Linode_Volume_" ++ label ++ "" := by
    unfold Memory.devicePath
    rw [hstart]
    exact String.append_empty.symm
  rw [hcandidates, hpath]
  exact List.mem_cons_of_mem _ List.mem_cons_self

/-! ## The volume of a handle and the instance of a node -/

/-- A request to attach a volume means this volume and this instance. It asks about nothing else,
and all that it may do is to attach the one to the other. If it is granted, the volume is attached,
and the path in the answer is one that a node looks for. Where nothing is in the way it is
granted. -/
structure Joins (c : Controller) (now : Memory) (req : ControllerPublishVolumeRequest)
    (v : RemoteVolume) (i : Instance) : Prop where
  asked : ∀ p t conditions, ∀ q ∈ (Arrival.publication req p t conditions).asked c now,
    q.joins v.id i.id
  joined : ∀ p t conditions, Joined v.id i.id now
    ((Arrival.publication req p t conditions).outcome c now).2
  attached : ∀ p t conditions response,
    ((Arrival.publication req p t conditions).outcome c now).1 = .ok response →
    ((Arrival.publication req p t conditions).outcome c now).2.attachmentOf? v.id = some i.id
  path : ∀ p t conditions response,
    ((Arrival.publication req p t conditions).outcome c now).1 = .ok response →
    ∃ path ∈ Device.candidates v.label none,
      response.publishContext.get? Setting.devicePath = some path
  granted : ∀ p t conditions cap,
    Willing ((Arrival.publication req p t conditions).meet now) v.id i.id →
    VolumeCapability.requireSingleNodeWriter req.volumeCapability = .ok cap →
    Poller.forbids p t.signal = false →
    ∃ response, ((Arrival.publication req p t conditions).outcome c now).1 = .ok response

/-- A volume is listed under a handle: of all that is listed, this volume and nothing else has the
handle, and as long as numbers of pages do not run out it is on some page of every size. While it is
attached to the instance, it is published to a node whose identifier means the instance. -/
structure Listed (c : Controller) (now : Memory) (handle : String) (v : RemoteVolume)
    (i : Instance) : Prop where
  only : ∀ req p t conditions response,
    ((Arrival.inspection req p t conditions).outcome c now).1 = .ok response →
    ∀ e ∈ response.entries, e.volume.map (·.volumeId) = some handle ↔ e = listed v
  somewhere : now.volumes.length + 1 < Text.halfWordBound → ∀ n : Int32, 0 ≤ n →
    ∀ p t conditions, ∃ token response,
      ((Arrival.inspection ⟨n, token⟩ p t conditions).outcome c now).1 = .ok response ∧
        listed v ∈ response.entries
  published : v.attachment = some i.id → ∃ nodeId,
    (listed v).status.map (·.publishedNodeIds) = some [nodeId] ∧ instanceNumber nodeId = i.id

section Meeting

variable {c : Controller} {made now : Memory} {v : RemoteVolume} {i : Instance}

theorem get?_devicePath_published (v : RemoteVolume) :
    (published v).publishContext.get? Setting.devicePath = some v.devicePath := by
  simp [published, Attributes.single, Attributes.get?]

/-- The volume was there at some time with this label, so that is the label that it has. -/
theorem joins_of_handle (hnow : Orderly now) (hwords : now.nextId ≤ Text.wordBound)
    (hlater : Later made now) (hmade : made.Numbered)
    (hv : made.volume? v.id = some v) (hword : v.id < Text.wordBound) (hi : i.id < Text.wordBound)
    {req : ControllerPublishVolumeRequest}
    (hvolume : req.volumeId = handleOf v) (hnode : req.nodeId = (Node.info i).nodeId) :
    Joins c now req v i := by
  have hid : volumeNumber req.volumeId = v.id := by
    have hnumber : volumeNumber (handleOf v) = v.id := volumeNumber_handle hword
    rw [hvolume, hnumber]
  have htarget : instanceNumber req.nodeId = i.id := by
    rw [hnode]
    exact instanceNumber_toString hi
  refine ⟨?_, ?_, ?_, ?_, ?_⟩
  · intro p t conditions
    have hasked := publication_asked c req p t conditions now
    rwa [hid, htarget] at hasked
  · intro p t conditions
    have hjoined := publication_joined c req p t conditions now
    rwa [hid, htarget] at hjoined
  · intro p t conditions response hok
    obtain ⟨u, hu, hattached, -⟩ := publication_published hnow.numbered hok
    rw [hid] at hu
    rw [htarget] at hattached
    rw [Memory.attachmentOf?, hu]
    exact hattached
  · intro p t conditions response hok
    let a : Arrival := .publication req p t conditions
    obtain ⟨u, hu, -, rfl⟩ := publication_published hnow.numbered hok
    rw [hid] at hu
    have hcounter := (publication_joined c req p t conditions now).counter
    have hafter := hlater.trans
      ((a.outcome_onward c hnow.numbered).later (Nat.le_trans (Nat.le_of_eq hcounter) hwords)) hmade
    obtain ⟨-, -, hlabel⟩ := hafter.kept v.id v u hv hu
    have hpath : u.devicePath = Memory.devicePath v.label := by
      rw [(a.outcome_orderly c hnow).paths.of_volume? hu, hlabel]
    exact ⟨_, hpath ▸ devicePath_mem_candidates v.label, get?_devicePath_published u⟩
  · intro p t conditions cap hwilling hcapability hsignal
    have hvolume' : req.volumeId ≠ "" := by
      rw [hvolume]
      exact VolumeKey.handle_ne_empty _
    have hnode' : req.nodeId ≠ "" := by
      rw [hnode]
      exact Text.toString_ne_empty i.id
    rw [← hid, ← htarget] at hwilling
    exact publish_granted hwilling hvolume' hnode' hcapability hsignal

theorem listed_of_handle (hnow : now.Numbered) (hv : now.volume? v.id = some v)
    (hi : i.id < Text.wordBound) : Listed c now (handleOf v) v i := by
  have hmem : v ∈ now.volumes := List.mem_of_find?_eq_some hv
  refine ⟨?_, ?_, ?_⟩
  · intro req p t conditions response hok e he
    rw [inspection_outcome] at hok
    obtain ⟨u, hu, rfl⟩ := listed_of_mem_listing hok he
    constructor
    · intro hhandle
      obtain ⟨hid, -⟩ := VolumeKey.mk.inj (VolumeKey.handle_inj.mp (Option.some.inj hhandle))
      rw [hnow.ordered.eq_of_id hu hmem hid]
    · intro hlisted
      rw [hlisted]
      rfl
  · intro hpages n hn p t conditions
    obtain ⟨token, response, hok, hlisted⟩ := exists_listing
      (m := (Arrival.inspection ⟨n, ""⟩ p t conditions).meet now) hmem hpages hn
    refine ⟨token, response, ?_, hlisted⟩
    rw [inspection_outcome]
    exact hok
  · intro hattached
    refine ⟨toString i.id, ?_, instanceNumber_toString hi⟩
    simp [listed, hattached]

end Meeting

/-- A request for a volume was granted, and other requests may have come since, as long as
identifiers do not begin anew. Whoever asks to attach the volume of the handle in the answer to the
node that an instance says it is means this volume and this instance, and is answered with a path
that the node looks for. Where volumes are listed, the volume is listed under the handle and, while
it is attached to the instance, with this node. -/
theorem rendezvous_after_creation (c : Controller) {m : Memory} (h : m.Numbered)
    (hpaths : m.PathsOfLabels) (req : CreateVolumeRequest) (p : Poller) (t : Timeline)
    (conditions : Conditions) {response : CreateVolumeResponse}
    (hok : ((Arrival.creation req p t conditions).outcome c m).1 = .ok response)
    (hwords : ((Arrival.creation req p t conditions).outcome c m).2.nextId ≤ Text.wordBound)
    (i : Instance) (hi : i.id < Text.wordBound) :
    ∃ d v, response.volume = some d ∧
      ((Arrival.creation req p t conditions).outcome c m).2.volume? v.id = some v ∧
      VolumeKey.parse d.volumeId = .ok ⟨v.id, v.label⟩ ∧
      ∀ between : List Arrival,
        (after c m (.creation req p t conditions :: between)).nextId ≤ Text.wordBound →
        (∀ publish : ControllerPublishVolumeRequest, publish.volumeId = d.volumeId →
          publish.nodeId = (Node.info i).nodeId →
          Joins c (after c m (.creation req p t conditions :: between)) publish v i) ∧
        ∀ u, (after c m (.creation req p t conditions :: between)).volume? v.id = some u →
          Listed c (after c m (.creation req p t conditions :: between)) d.volumeId u i := by
  let a : Arrival := .creation req p t conditions
  have hmade : Orderly (a.outcome c m).2 := a.outcome_orderly c ⟨h, hpaths⟩
  have hmeet : (a.meet m).Numbered := ⟨h.ordered, h.fresh⟩
  have hshown := Arrival.outcome_of_delivers (a := a) (truthful_createVolume c req hmeet)
  rw [hok] at hshown
  obtain ⟨shown, rfl, hlabel⟩ := hshown
  obtain ⟨v, hv, hvlabel⟩ := Option.map_eq_some_iff.mp hlabel
  have hid : shown.id = v.id := (Memory.id_of_volume? hv).symm
  have hhandle : handleOf shown = handleOf v := by
    rw [handleOf, handleOf, hid, hvlabel]
  rw [hid] at hv
  have hword : v.id < Text.wordBound := Nat.lt_of_lt_of_le (hmade.numbered.lt_nextId hv) hwords
  refine ⟨_, v, rfl, hv, ?_, fun between hlast => ?_⟩
  · have hparse : VolumeKey.parse (handleOf v) = .ok ⟨v.id, v.label⟩ := VolumeKey.parse_handle hword
    rwa [← hhandle] at hparse
  · have hnow : Orderly (after c m (a :: between)) := after_orderly c between hmade
    have hlater : Later (a.outcome c m).2 (after c m (a :: between)) :=
      (after_onward c between hmade.numbered).later hlast
    refine ⟨fun publish hvolume hnode => ?_, fun u hu => ?_⟩
    · exact joins_of_handle hnow hlast hlater hmade.numbered hv hword hi (hvolume.trans hhandle)
        hnode
    · obtain ⟨-, -, hulabel⟩ := hlater.kept v.id v u hv hu
      have huid : u.id = v.id := Memory.id_of_volume? hu
      have hsame : handleOf shown = handleOf u := by
        rw [hhandle, handleOf, handleOf, huid, hulabel]
      change Listed c _ (handleOf shown) u i
      rw [hsame]
      exact listed_of_handle hnow.numbered (huid.symm ▸ hu) hi

def worker : Instance := ⟨7, "worker-7", "us-east", 1⟩

def lonelyWorker : Memory where
  instances := [worker]

theorem rendezvous_of_data_and_worker :
    ∃ d v, dataResponse.volume = some d ∧
      ((arrive dataRequest).outcome eastern lonelyWorker).2.volume? v.id = some v ∧
      VolumeKey.parse d.volumeId = .ok ⟨v.id, v.label⟩ ∧
      ∀ between : List Arrival,
        (after eastern lonelyWorker (arrive dataRequest :: between)).nextId ≤ Text.wordBound →
        (∀ publish : ControllerPublishVolumeRequest, publish.volumeId = d.volumeId →
          publish.nodeId = (Node.info worker).nodeId →
          Joins eastern (after eastern lonelyWorker (arrive dataRequest :: between)) publish v
            worker) ∧
        ∀ u, (after eastern lonelyWorker (arrive dataRequest :: between)).volume? v.id = some u →
          Listed eastern (after eastern lonelyWorker (arrive dataRequest :: between)) d.volumeId u
            worker :=
  rendezvous_after_creation eastern (.of_empty rfl) (by simp [Memory.PathsOfLabels, lonelyWorker])
    dataRequest ⟨10, 100, false, 0⟩ {} ⟨100, .active, none, 0⟩ (by decide +kernel)
    (by decide +kernel) worker (by decide)

def dataAttachment : ControllerPublishVolumeRequest where
  volumeId := "100-data"
  nodeId := "7"
  volumeCapability := some { accessMode := some { mode := 1 } }

example :
    ((Arrival.publication dataAttachment ⟨10, 100, false, 0⟩ {} ⟨100, .active, none, 0⟩).outcome
        eastern (after eastern lonelyWorker [arrive dataRequest])).1 =
      .ok { publishContext :=
        .single "devicePath" "/dev/disk/by-id/scsi-0Linode_Volume_data" } := by
  decide +kernel

end VolumePlugin
