import VolumePlugin.Proofs.Controller.Creation

/-! # Asking again after giving up

Whoever asks again for a volume comes by the search for its label, whatever the first request was
about to do next. A blank volume has its size from the beginning. A clone has it only after it was
resized, and nobody resizes it if the first request gave up before that. -/

namespace VolumePlugin.Controller

open Cloud (Memory)

/-- The volume when the provider is done with it. -/
def activated (v : RemoteVolume) : RemoteVolume :=
  { v with status := .active }

/-- In the requested region the size decides. -/
theorem checkExisting_activated {w : Wanted} {v : RemoteVolume} (hlabel : v.label = w.label)
    (hregion : v.region = w.region) :
    checkExisting w (activated v) =
      if v.size = w.size then .ok () else .error (.volumeAlreadyExists
        s!"{w.label} with size {v.size} GiB, requested {w.size} GiB") := by
  rw [← hlabel]
  unfold checkExisting activated
  rw [if_neg (not_not.mpr hregion), ite_not]

/-- A request that gave up waiting leaves a volume in the requested region, which it has made if
there was none with the label. When that volume is active, the request can be repeated at any time.
It gets the volume if the size of it is the requested one, and is refused otherwise. -/
theorem createVolume_retry (c : Controller) (req : CreateVolumeRequest) {m m' : Memory}
    (h : Regular m) {p : Poller} {t t' : Timeline} {e : CsiError}
    (hrun : (c.createVolume req).run.run (answerQuery p Memory.answer) (t, m) =
      (.error e, (t', m')))
    (hgave : GaveUp e) :
    ∃ w v d, c.wanted req = .ok w ∧ m'.labelled? w.label = some v ∧ Begun w req m v ∧
      (v.size = w.size → Describes req v d) ∧
      ∀ (p' : Poller) (now : Timeline),
        (c.createVolume req).run.run (answerQuery p' Memory.answer)
            (now, m'.putVolume (activated v)) =
          (if v.size = w.size then .ok ⟨some d⟩
            else .error (.volumeAlreadyExists
              s!"{w.label} with size {v.size} GiB, requested {w.size} GiB"),
            (now, m'.putVolume (activated v))) ∧
        (c.createVolume req).run.asked (answerQuery p' Memory.answer)
            (now, m'.putVolume (activated v)) =
          [.call (.listVolumes (.ofLabel w.label))] := by
  have houtcome := (delivers_createVolume c req h).run (answers_sound p) (t := (t, m))
  rw [hrun] at houtcome
  obtain ⟨w, v, hw, hregular, hfirst, hbegun⟩ := houtcome hgave
  have hlabel : v.label = w.label := (Memory.label_of_labelled? hfirst).2
  have hactivated : (m'.putVolume (activated v)).labelled? w.label = some (activated v) :=
    hregular.ordered.labelled?_putVolume hfirst rfl hlabel
  obtain ⟨d, hresponse, hdescribes⟩ := described_eq req (activated v)
  have hgranted : v.size = w.size → Describes req v d := by
    intro hsize
    have hd := hdescribes (hsize ▸ (wanted_eq_ok hw).2.2)
    exact ⟨hd.handle, hd.capacity, hd.topology, hd.context, hd.source⟩
  refine ⟨w, v, d, hw, hfirst, hbegun, hgranted, fun p' now => ?_⟩
  obtain ⟨hanswer, hasked⟩ :=
    createVolume_found (m := m'.putVolume (activated v)) hregular.regards hw hactivated rfl p' now
  refine ⟨hanswer.trans ?_, hasked⟩
  rw [checkExisting_activated hlabel hbegun.region, hresponse]
  split
  · rfl
  · rfl

/-- The provider when the copy has been made, and the service is about to shut down. -/
def providerWithSmallCopy : Memory :=
  { slowProvider with
    nextId := 102
    volumes := slowProvider.volumes ++
      [⟨101, "pvc1", 10, "us-east", .creating, none, Memory.devicePath "pvc1", []⟩] }

/-- The signal to shut down comes before the copy is ready to be resized. -/
theorem copyRequest_cancelled :
    (createVolume ⟨"us-east", none⟩ copyRequest).run.run
        (answerQuery ⟨1000, 60000, false, 0⟩ Memory.answer)
        ({ signal := { value := true } }, slowProvider) =
      (.error (.unavailable "wait for status Active on volume 101 cancelled by shutdown"),
        ({ signal := { value := true } }, providerWithSmallCopy)) := by
  decide +kernel

theorem copyRequest_retry :
    ∃ w v d, wanted ⟨"us-east", none⟩ copyRequest = .ok w ∧
      providerWithSmallCopy.labelled? w.label = some v ∧ Begun w copyRequest slowProvider v ∧
      (v.size = w.size → Describes copyRequest v d) ∧
      ∀ (p' : Poller) (now : Timeline),
        (createVolume ⟨"us-east", none⟩ copyRequest).run.run (answerQuery p' Memory.answer)
            (now, providerWithSmallCopy.putVolume (activated v)) =
          (if v.size = w.size then .ok ⟨some d⟩
            else .error (.volumeAlreadyExists
              s!"{w.label} with size {v.size} GiB, requested {w.size} GiB"),
            (now, providerWithSmallCopy.putVolume (activated v))) ∧
        (createVolume ⟨"us-east", none⟩ copyRequest).run.asked (answerQuery p' Memory.answer)
            (now, providerWithSmallCopy.putVolume (activated v)) =
          [.call (.listVolumes (.ofLabel w.label))] :=
  createVolume_retry ⟨"us-east", none⟩ copyRequest slowProvider_regular copyRequest_cancelled
    (.unavailable _)

/-- The copy that was not resized stands in the way of the request that asked for it, although it is
active by then and nobody shuts down any more. -/
theorem copyRequest_stuck :
    ∃ v, providerWithSmallCopy.labelled? "pvc1" = some v ∧
      ((createVolume ⟨"us-east", none⟩ copyRequest).run.run
        (answerQuery ⟨1000, 60000, false, 0⟩ Memory.answer)
        ({ signal := { value := true } }, slowProvider)).1 =
          .error (.unavailable "wait for status Active on volume 101 cancelled by shutdown") ∧
      ((createVolume ⟨"us-east", none⟩ copyRequest).run.run
        (answerQuery ⟨1000, 60000, false, 0⟩ Memory.answer)
        ({}, providerWithSmallCopy.putVolume (activated v))).1 =
          .error (.volumeAlreadyExists "pvc1 with size 10 GiB, requested 20 GiB") := by
  exact ⟨⟨101, "pvc1", 10, "us-east", .creating, none, Memory.devicePath "pvc1", []⟩,
    by decide +kernel⟩

end VolumePlugin.Controller
