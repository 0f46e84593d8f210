import VolumePlugin.Proofs.Controller.Answers

/-! # The calls of a run

Whether the service is right about a volume depends on what the provider has shown to it, so the
calls of a run are recorded with their answers, those of its waits included. The record changes
nothing about the run. -/

namespace VolumePlugin.Controller

/-- A call, and what the provider has answered. -/
structure Exchange where
  call : Cloud.Call
  answer : call.Answer

/-- What an exchange shows of a volume. -/
def Exchange.shown? (volume : Nat) : Exchange → Option RemoteVolume
  | ⟨.getVolume id, .ok v⟩ => if id = volume then some v else none
  | _ => none

/-- What was shown of a volume last. -/
def lastShown? (volume : Nat) (exchanges : List Exchange) : Option RemoteVolume :=
  (exchanges.filterMap (Exchange.shown? volume)).getLast?

theorem lastShown?_concat (volume : Nat) (exchanges : List Exchange) (v : RemoteVolume) :
    lastShown? volume (exchanges ++ [⟨.getVolume volume, .ok v⟩]) = some v := by
  simp [lastShown?, Exchange.shown?]

variable {σ α : Type}

/-- A provider all of whose exchanges are recorded. -/
def recorded (answer : (c : Cloud.Call) → σ → c.Answer × σ) (c : Cloud.Call)
    (s : List Exchange × σ) : c.Answer × (List Exchange × σ) :=
  let reply := answer c s.2
  (reply.1, (s.1 ++ [⟨c, reply.1⟩], reply.2))

variable {answer : (c : Cloud.Call) → σ → c.Answer × σ}

theorem probe_recorded (volume : Nat) (goal : Goal) (now : Nat) (s : List Exchange × σ) :
    probe answer volume goal now s.2 =
      ((probe (recorded answer) volume goal now s).1,
        (probe (recorded answer) volume goal now s).2.2) := by
  simp only [probe, recorded]
  rcases answer (.getVolume volume) s.2 with ⟨result, s'⟩
  cases result <;> rfl

/-- Recorded answers are the answers. -/
theorem answerQuery_recorded (p : Poller) (q : Query) (t : Timeline) (s : List Exchange × σ) :
    answerQuery p answer q (t, s.2) =
      let reply := answerQuery p (recorded answer) q (t, s)
      (reply.1, (reply.2.1, reply.2.2.2)) := by
  cases q with
  | call c => rfl
  | wait volume goal =>
      simp only [answerQuery]
      rw [Poller.wait_view (fun now s => probe_recorded volume goal now s)]

/-- A run is the same without the record. -/
theorem run_recorded (p : Poller) (work : Prog Query.Answer α) (t : Timeline)
    (s : List Exchange × σ) :
    work.run (answerQuery p answer) (t, s.2) =
      let made := work.run (answerQuery p (recorded answer)) (t, s)
      (made.1, (made.2.1, made.2.2.2)) := by
  induction work generalizing t s with
  | done a => rfl
  | ask q next ih =>
      simp only [Prog.run]
      rw [answerQuery_recorded]
      exact ih _ _ _

variable (answer) in
/-- The exchanges of a run. -/
def exchanges (p : Poller) (job : Job α) (t : Timeline) (s : σ) : List Exchange :=
  (job.run.run (answerQuery p (recorded answer)) (t, ([], s))).2.2.1

/-! ## Reads of a wait -/

/-- The exchanges that were added to a record are reads of a volume. -/
def Reads (volume : Nat) (before after : List Exchange) : Prop :=
  ∃ reads, after = before ++ reads ∧ ∀ e ∈ reads, e.call = .getVolume volume

theorem Reads.refl (volume : Nat) (before : List Exchange) : Reads volume before before :=
  ⟨[], (List.append_nil before).symm, nofun⟩

theorem Reads.concat {volume : Nat} {before after : List Exchange}
    (h : Reads volume before after) (a : (Cloud.Call.getVolume volume).Answer) :
    Reads volume before (after ++ [⟨.getVolume volume, a⟩]) := by
  obtain ⟨reads, rfl, hreads⟩ := h
  refine ⟨reads ++ [⟨.getVolume volume, a⟩], List.append_assoc .., fun e he => ?_⟩
  rcases List.mem_append.mp he with he | he
  · exact hreads e he
  · rw [List.mem_singleton.mp he]

variable (answer) in
theorem probeSpec_recorded (kept : σ → Prop) (shows : RemoteVolume → Prop) (volume : Nat)
    (goal : Goal) (before : List Exchange)
    (hread : ∀ s, kept s → kept (answer (.getVolume volume) s).2 ∧
      ∀ v, (answer (.getVolume volume) s).1 = .ok v → shows v) :
    Poller.ProbeSpec (probe (recorded answer) volume goal)
      (fun s => Reads volume before s.1 ∧ kept s.2)
      fun v s => goal.isMet v ∧ shows v ∧
        ∃ earlier, Reads volume before earlier ∧ s.1 = earlier ++ [⟨.getVolume volume, .ok v⟩] := by
  constructor
  · rintro now ⟨log, s⟩ ⟨hlog, hs⟩
    have hkept := (hread s hs).1
    simp only [probe, recorded]
    rcases hreply : answer (.getVolume volume) s with ⟨result, s'⟩
    rw [hreply] at hkept
    cases result <;> exact ⟨hlog.concat _, hkept⟩
  · rintro now ⟨log, s⟩ v ⟨hlog, hs⟩ hv
    have hshows := (hread s hs).2
    simp only [probe, recorded] at hv ⊢
    rcases hreply : answer (.getVolume volume) s with ⟨result, s'⟩
    rw [hreply] at hv hshows
    cases result with
    | error e => cases hv
    | ok u =>
        by_cases hmet : goal.isMet u
        · obtain rfl : u = v := by simpa [hmet] using hv
          exact ⟨hmet, hshows u rfl, log, hlog, rfl⟩
        · simp [hmet] at hv

/-- A wait only reads, and the last read shows the volume as it was waited for. -/
theorem wait_recorded {p : Poller} {volume : Nat} {goal : Goal} {t t' : Timeline}
    {before : List Exchange} {s : σ} {s' : List Exchange × σ} {v : RemoteVolume}
    (hwait : p.wait goal.action volume 0 (probe (recorded answer) volume goal) t (before, s) =
      (.ok v, t', s')) :
    goal.isMet v ∧
      ∃ earlier, Reads volume before earlier ∧ s'.1 = earlier ++ [⟨.getVolume volume, .ok v⟩] := by
  have hspec := p.wait_spec goal.action volume 0 (probeSpec_recorded answer (fun _ => True)
    (fun _ => True) volume goal before fun _ _ => ⟨trivial, fun _ _ => trivial⟩) t
    (s := (before, s)) ⟨Reads.refl .., trivial⟩
  rw [hwait] at hspec
  obtain ⟨hmet, -, hread⟩ := hspec.2 v rfl
  exact ⟨hmet, hread⟩

/-- What every read shows is true of what a wait ends with. -/
theorem wait_recorded_shows {p : Poller} {volume : Nat} {goal : Goal} {t t' : Timeline}
    {before : List Exchange} {s : σ} {s' : List Exchange × σ} {v : RemoteVolume}
    (hwait : p.wait goal.action volume 0 (probe (recorded answer) volume goal) t (before, s) =
      (.ok v, t', s'))
    {kept : σ → Prop} {shows : RemoteVolume → Prop} (hs : kept s)
    (hread : ∀ s, kept s → kept (answer (.getVolume volume) s).2 ∧
      ∀ v, (answer (.getVolume volume) s).1 = .ok v → shows v) : shows v := by
  have hspec := p.wait_spec goal.action volume 0 (probeSpec_recorded answer kept shows volume goal
    before hread) t (s := (before, s)) ⟨Reads.refl .., hs⟩
  rw [hwait] at hspec
  exact (hspec.2 v rfl).2.1

end VolumePlugin.Controller
