import VolumePlugin.Proofs.Controller.Refusals
import VolumePlugin.Proofs.Samples
import VolumePlugin.Testbed.World

/-! # Metrics account for every call

A call is counted when it has ended. Nothing that the plugin asks for in between touches the
metrics, so what they hold after a run is what the finished calls of the run amount to. -/

namespace VolumePlugin

open Controller (TakesUp)
open Message (Packed)

/-! ## The procedures that are not offered -/

/-- The procedures of the controller service that answer nothing but that they are not offered. -/
def unoffered : List String :=
  ["GetCapacity", "CreateSnapshot", "DeleteSnapshot", "ListSnapshots", "ControllerGetVolume"]

theorem observed_iff {rpc : Rpc} (h : rpc ∈ Rpc.catalog) :
    rpc.observed = true ↔ rpc.name ∉ unoffered := by
  have hall : Rpc.catalog.all (fun rpc => rpc.observed == decide (rpc.name ∉ unoffered)) := by
    decide +kernel
  have hrpc := List.all_eq_true.mp hall rpc h
  rw [beq_iff_eq] at hrpc
  rw [hrpc, decide_eq_true_iff]

theorem takesUp_unoffered {rpc : Rpc} (h : rpc ∈ Rpc.catalog) (hname : rpc.name ∈ unoffered)
    {p : Plugin} {work : Work Packed} (hwork : TakesUp rpc p work) :
    work = .done (.error (.unimplemented rpc.name)) := by
  simp only [Rpc.catalog, Rpc.identityCatalog, Rpc.controllerCatalog, Rpc.nodeCatalog,
    List.cons_append, List.nil_append, List.mem_cons, List.not_mem_nil, or_false] at h
  rcases h with rfl | rfl | rfl | rfl | rfl | rfl | rfl | rfl | rfl | rfl | rfl | rfl | rfl |
    rfl | rfl | rfl | rfl | rfl | rfl | rfl | rfl | rfl | rfl | rfl
  all_goals first
    | exact absurd hname (by decide)
    | exact Controller.takesUp_refused hwork

namespace Testbed

namespace World

/-- What no call to the surroundings changes. -/
def ledger (w : World) : Bool × Metrics :=
  (w.counts, w.metrics)

theorem ledger_askCloud (c : Cloud.Call) (w : World) : (askCloud c w).2.ledger = w.ledger := by
  unfold askCloud note
  dsimp only
  split <;> rfl

theorem ledger_askHost (c : Host.Call) (w : World) : (askHost c w).2.ledger = w.ledger := by
  unfold askHost note
  dsimp only
  split <;> rfl

variable {α : Type}

theorem ledger_runController (w : World) (job : Controller.Job α) :
    (w.runController job).2.ledger = w.ledger := by
  have hanswer : ∀ (p : Poller) (q : Controller.Query) (s : Timeline × World),
      (Controller.answerQuery p askCloud q s).2.2.ledger = s.2.ledger := by
    intro p q s
    cases q with
    | call c => exact ledger_askCloud c s.2
    | wait volume goal =>
        -- A wait reads any number of times, so the ledger is an invariant of its reads.
        have hspec : Poller.ProbeSpec (Controller.probe askCloud volume goal)
            (fun u => u.ledger = s.2.ledger) fun _ _ => True := by
          refine ⟨fun now u hu => ?_, fun _ _ _ _ _ => trivial⟩
          rw [← hu, ← ledger_askCloud (.getVolume volume) u]
          unfold Controller.probe
          rcases askCloud (.getVolume volume) u with ⟨result, u'⟩
          cases result <;> rfl
        exact (p.wait_spec goal.action volume 0 hspec s.1 rfl).1
  exact Prog.run_keeps (fun s => s.2.ledger) (hanswer _) job.run (w.timeline, w)

theorem ledger_runNode (w : World) (work : Host.Work α) :
    (w.runNode work).2.ledger = w.ledger := by
  have hanswer : ∀ (q : Host.Query) (s : List String × World),
      (Host.answerQuery askHost q s).2.2.ledger = s.2.ledger := by
    intro q s
    cases q with
    | call c => exact ledger_askHost c s.2
    | _ => rfl
  exact Prog.run_keeps (fun s => s.2.ledger) hanswer work (w.nodeDisks, w)

theorem ledger_runWork (w : World) (work : Work α) : (w.runWork work).2.ledger = w.ledger := by
  cases work with
  | done result => rfl
  | signal see => rfl
  | controller job => exact ledger_runController w job
  | node job => exact ledger_runNode w job.run

end World

/-! ## Runs -/

/-- A call to the plugin: what has happened to its surroundings since the last call, the procedure,
and the work on the request, which depends on how the plugin is set up. -/
structure Visit where
  change : World → World
  rpc : Rpc
  work : Plugin → Work Packed
  untouched : ∀ w, (change w).ledger = w.ledger
  offered : rpc ∈ Rpc.catalog
  takesUp : ∀ p, TakesUp rpc p (work p)

/-- How a call went. -/
structure Served where
  operation : String
  /-- The code of what the work on the request ended with, unless it broke off. -/
  ended : Option StatusCode
  /-- The code of what the caller was answered, if there was an answer. -/
  answer : Option StatusCode
  elapsed : Nat
  deriving DecidableEq, Repr

namespace Served

/-- The sample that a call leaves. A procedure that is not offered leaves none, and neither does
work that broke off. -/
def sample? (call : Served) : Option Sample :=
  if call.operation ∈ unoffered then none
  else call.ended.map fun code => ⟨call.operation, code, call.elapsed⟩

theorem operation_of_sample? {call : Served} {s : Sample} (h : call.sample? = some s) :
    s.operation ∉ unoffered := by
  unfold sample? at h
  split at h
  · cases h
  · next hname =>
      obtain ⟨code, -, rfl⟩ := Option.map_eq_some_iff.mp h
      exact hname

end Served

namespace World

/-- How a call went, and the world after it. -/
def serve (w : World) (v : Visit) : Served × World :=
  let start := v.change w
  let result := (start.runWork (v.work start.plugin)).1
  let reply := start.call v.rpc (v.work start.plugin)
  (⟨v.rpc.name, (heard result).map statusOf, reply.1.map statusOf,
    (reply.2.timeline.now - start.timeline.now) * Metrics.millisecond⟩, reply.2)

/-- How the calls of a run went, and the world after them. -/
def serveAll (w : World) : List Visit → List Served × World
  | [] => ([], w)
  | v :: rest =>
    let first := w.serve v
    let more := first.2.serveAll rest
    (first.1 :: more.1, more.2)

/-- Adds a sample to metrics, if there is one. -/
def counted (m : Metrics) (sample : Option Sample) : Metrics :=
  sample.elim m fun s => m.record s.operation s.code s.elapsed

/-- A call is counted once, if it leaves a sample. The caller is answered what the work ended with,
unless the sample cannot be recorded. -/
theorem serve_spec {w : World} (h : w.counts = true) (v : Visit) :
    (w.serve v).2.ledger = (true, counted w.metrics (w.serve v).1.sample?) ∧
      ((w.serve v).1.answer = (w.serve v).1.ended ↔
        ∀ s, (w.serve v).1.sample? = some s → (w.metrics.record? s).isSome) := by
  have hstart : (v.change w).ledger = (true, w.metrics) := by
    rw [v.untouched, ledger, h]
  have hwork := (ledger_runWork (v.change w) (v.work (v.change w).plugin)).trans hstart
  obtain ⟨hcounts, hmetrics⟩ := Prod.mk.inj hwork
  have hobserved : v.rpc.observed = decide (v.rpc.name ∉ unoffered) := by
    rw [Bool.eq_iff_iff, observed_iff v.offered, decide_eq_true_iff]
  simp only [ledger, serve, call, finish, if_pos hcounts, Served.sample?]
  rw [hcounts, hmetrics, Metrics.observe, hobserved]
  generalize ((v.change w).runWork (v.work (v.change w).plugin)).1 = result
  generalize (((v.change w).runWork (v.work (v.change w).plugin)).2.timeline.now -
    (v.change w).timeline.now) * Metrics.millisecond = elapsed
  by_cases hname : v.rpc.name ∈ unoffered
  · simp [hname, counted]
  · cases hbroke : brokeOff result with
    | true => simp [hname, hbroke, heard, counted]
    | false =>
        cases hadmits : w.metrics.admits v.rpc.name (statusOf result) elapsed <;>
          simp [hname, hbroke, heard, counted, Metrics.record?, hadmits]

theorem heard_of_finish {w : World} {rpc : Rpc} {start : Nat} {result answer : Except CsiError α}
    (h : (w.finish rpc start result).1 = some answer) : heard result = some answer := by
  cases hbroke : brokeOff result with
  | true => simpa [finish, Metrics.observe, hbroke, apply_ite Prod.fst] using h
  | false =>
      rw [heard, if_neg (by simp [hbroke])]
      simp only [finish, Metrics.observe, heard, hbroke] at h
      grind

/-- A call is answered nothing but what the work ended with. -/
theorem ended_of_answer {w : World} {v : Visit} {code : StatusCode}
    (h : (w.serve v).1.answer = some code) : (w.serve v).1.ended = some code := by
  obtain ⟨answer, hanswer, rfl⟩ := Option.map_eq_some_iff.mp h
  exact congrArg (Option.map statusOf) (heard_of_finish hanswer)

/-- A refused call answers what it has to. -/
theorem answer_serve_unoffered {w : World} (v : Visit) (hname : v.rpc.name ∈ unoffered) :
    (w.serve v).1.answer = some .unimplemented := by
  have hwork := takesUp_unoffered v.offered hname (v.takesUp (v.change w).plugin)
  have hobserved : v.rpc.observed = false :=
    Bool.eq_false_iff.mpr fun h => (observed_iff v.offered).mp h hname
  simp only [serve, call, finish, Metrics.observe, hobserved]
  rw [hwork]
  split <;> rfl

/-- The samples that the calls of a run leave. -/
def samplesOf (calls : List Served) : List Sample :=
  calls.filterMap Served.sample?

/-- What a run has counted is what its calls left. They are all answered if all of this can be
recorded, and only then. -/
theorem serveAll_spec (visits : List Visit) : ∀ {w : World}, w.counts = true →
    (w.serveAll visits).2.metrics = (samplesOf (w.serveAll visits).1).foldl
        (fun m s => m.record s.operation s.code s.elapsed) w.metrics ∧
      ((∀ call ∈ (w.serveAll visits).1, call.answer = call.ended) ↔
        ((samplesOf (w.serveAll visits).1).foldlM Metrics.record? w.metrics).isSome) := by
  induction visits with
  | nil => exact fun _ => ⟨rfl, by simp [serveAll, samplesOf]⟩
  | cons v rest ih =>
      intro w h
      obtain ⟨hledger, hanswer⟩ := serve_spec h v
      obtain ⟨hcounts, hmetrics⟩ := Prod.mk.inj hledger
      obtain ⟨hafter, hanswers⟩ := ih hcounts
      simp only [serveAll, samplesOf, List.forall_mem_cons] at *
      rw [hafter, hanswer, hanswers, hmetrics]
      cases hsample : (w.serve v).1.sample? with
      | none =>
          rw [List.filterMap_cons_none hsample]
          exact ⟨rfl, and_iff_right nofun⟩
      | some s =>
          rw [List.filterMap_cons_some hsample, List.foldl_cons, List.foldlM_cons]
          refine ⟨rfl, ?_⟩
          simp only [Option.some.injEq, forall_eq', counted, Option.elim_some, Metrics.record?]
          split <;> simp

/-- Every call of a run is served once, in the order in which the calls were made. -/
theorem serveAll_operations (visits : List Visit) : ∀ w : World,
    (w.serveAll visits).1.map Served.operation = visits.map fun v => v.rpc.name := by
  induction visits with
  | nil => exact fun _ => rfl
  | cons v rest ih => exact fun w => congrArg (v.rpc.name :: ·) (ih (w.serve v).2)

/-- What every single call satisfies, all calls of a run do. -/
theorem forall_mem_serveAll {p : Served → Prop} (hserve : ∀ w v, p (serve w v).1)
    (visits : List Visit) : ∀ w : World, ∀ call ∈ (w.serveAll visits).1, p call := by
  induction visits with
  | nil => exact fun _ => List.forall_mem_nil p
  | cons v rest ih => exact fun w => List.forall_mem_cons.mpr ⟨hserve w v, ih (w.serve v).2⟩

end World

/-! ## All calls -/

/-- Metrics say of the samples that they have recorded what there is to say, in whatever order these
came. They record them all as long as the number of samples of an operation and status code is a
word, and the latencies of these samples add up to a time.

In a run of the plugin, every call whose work does not break off leaves one sample, except to
procedures that are not offered. What a run asks of its surroundings leaves nothing. As long as all
samples can be recorded every caller hears what the work ended with. -/
theorem metrics_account_for_calls {w : World} (hcounts : w.counts = true) (hfresh : w.metrics = {})
    (visits : List Visit) :
    let calls := (w.serveAll visits).1
    let metrics := (w.serveAll visits).2.metrics
    (∀ samples m, Metrics.recording samples = some m → m.Accounts samples) ∧
      (∀ samples, (Metrics.recording samples).isSome ↔ Metrics.Fits samples) ∧
      (∀ samples samples' m, samples.Perm samples' → Metrics.recording samples = some m →
        ∃ m', Metrics.recording samples' = some m' ∧ m'.get = m.get ∧ m'.snapshot = m.snapshot) ∧
      calls.map Served.operation = visits.map (fun v => v.rpc.name) ∧
      (∀ call ∈ calls, ∀ code, call.answer = some code → call.ended = some code) ∧
      ((∀ call ∈ calls, call.answer = call.ended) ↔ Metrics.Fits (World.samplesOf calls)) ∧
      (Metrics.Fits (World.samplesOf calls) → metrics.Accounts (World.samplesOf calls)) ∧
      (∀ call ∈ calls, call.operation ∈ unoffered → call.answer = some .unimplemented) ∧
      ∀ e ∈ metrics.snapshot, e.operation ∉ unoffered := by
  intro calls metrics
  obtain ⟨hmetrics, hanswers⟩ := World.serveAll_spec visits hcounts
  rw [hfresh] at hmetrics hanswers
  change metrics = .counting (World.samplesOf calls) at hmetrics
  refine ⟨?_, Metrics.isSome_recording_iff, ?_, World.serveAll_operations visits w, ?_, ?_, ?_, ?_,
    ?_⟩
  · intro samples m hm
    obtain ⟨hfits, rfl⟩ := (Metrics.recording_eq_some_iff samples m).mp hm
    exact Metrics.accounts_counting hfits
  · exact fun _ _ _ hperm hm => Metrics.recording_perm hperm hm
  · exact World.forall_mem_serveAll (fun _ _ _ h => World.ended_of_answer h) visits w
  · exact hanswers.trans (Metrics.isSome_recording_iff _)
  · exact fun hfits => hmetrics ▸ Metrics.accounts_counting hfits
  · exact World.forall_mem_serveAll (fun _ v hname => World.answer_serve_unoffered v hname) visits w
  · intro e he
    rw [hmetrics] at he
    obtain ⟨s, hs, hname, -⟩ := Metrics.exists_sample_of_mem_snapshot _ he
    obtain ⟨call, -, hsample⟩ := List.mem_filterMap.mp hs
    exact hname ▸ Served.operation_of_sample? hsample

/-- A world in which the volume that nobody has is shown as free twice more when it is not. -/
def lateWorld : World where
  plugin := Controller.easternPlugin
  poller := { interval := 10, timeout := 100 }
  cloud := { Controller.twoVolumes with hiddenReads := 3 }

def logsRequest : ControllerPublishVolumeRequest where
  volumeId := "101-logs"
  nodeId := "7"
  volumeCapability := some { accessMode := some { mode := 1 } }

/-- Asks for the volume that nobody has, some time after the last call. -/
def logsVisit : Visit where
  change w := { w with timeline := { w.timeline with now := w.timeline.now + 5 } }
  rpc := .of "ControllerPublishVolume" .controller fun _ req =>
    .controller (Controller.publishVolume req)
  work _ := (Work.controller (Controller.publishVolume logsRequest)).map Message.pack
  untouched _ := rfl
  offered := List.mem_append_left _ (List.mem_append_right _ (.tail _ (.tail _ (.head _))))
  takesUp _ := by
    let request : Json := .object [("volume_id", .text "101-logs"), ("node_id", .text "7"),
      ("volume_capability", .object [("access_mode", .object [("mode", .nat 1)])])]
    have hrequest : Message.ofJson request = some logsRequest := by decide +kernel
    exact .inr ⟨request, congrArg (Option.map fun req =>
      (Work.controller (Controller.publishVolume req)).map Message.pack) hrequest⟩

/-- Asks for the capacity, which is not offered. -/
def capacityVisit : Visit where
  change w := w
  rpc := .refused GetCapacityRequest "GetCapacity"
  work _ := .done (.error (.unimplemented "GetCapacity"))
  untouched _ := rfl
  offered := List.mem_append_left _
    (List.mem_append_right _ (.tail _ (.tail _ (.tail _ (.tail _ (.tail _ (.tail _ (.head _))))))))
  takesUp _ := by
    have hrequest : (Message.ofJson (.object []) : Option GetCapacityRequest).isSome := by
      decide +kernel
    obtain ⟨req, hreq⟩ := Option.isSome_iff_exists.mp hrequest
    exact .inr ⟨.object [], congrArg (Option.map fun _ =>
      (Work.done (.error (.unimplemented "GetCapacity")) : Work Packed)) hreq⟩

def lastPageRequest : ListVolumesRequest where
  startingToken := "4294967295"

/-- Asks for the last page that a page number can name. The number of the page after it is out of
range. -/
def lastPageVisit : Visit where
  change w := w
  rpc := .of "ListVolumes" .controller fun _ req => .controller (Controller.listVolumes req)
  work _ := (Work.controller (Controller.listVolumes lastPageRequest)).map Message.pack
  untouched _ := rfl
  offered := List.mem_append_left _
    (List.mem_append_right _ (.tail _ (.tail _ (.tail _ (.tail _ (.tail _ (.head _)))))))
  takesUp _ := by
    let request : Json := .object [("starting_token", .text "4294967295")]
    have hrequest : Message.ofJson request = some lastPageRequest := by decide +kernel
    exact .inr ⟨request, congrArg (Option.map fun req =>
      (Work.controller (Controller.listVolumes req)).map Message.pack) hrequest⟩

def lateVisits : List Visit :=
  [logsVisit, capacityVisit, lastPageVisit, logsVisit]

/-- The first call waits for the volume, and the last one finds it where it has to be. The call in
between that breaks off leaves nothing. -/
theorem metrics_account_for_calls_late :
    (lateWorld.serveAll lateVisits).1 =
        [⟨"ControllerPublishVolume", some .ok, some .ok, 20000000⟩,
          ⟨"GetCapacity", some .unimplemented, some .unimplemented, 0⟩,
          ⟨"ListVolumes", none, none, 0⟩, ⟨"ControllerPublishVolume", some .ok, some .ok, 0⟩] ∧
      (lateWorld.serveAll lateVisits).2.metrics.get "ControllerPublishVolume" .ok =
        { count := 2, total := 20000000, max := 20000000 } ∧
      (lateWorld.serveAll lateVisits).2.metrics.get "ListVolumes" .internal = {} := by
  have hcalls : (lateWorld.serveAll lateVisits).1 =
      [⟨"ControllerPublishVolume", some .ok, some .ok, 20000000⟩,
        ⟨"GetCapacity", some .unimplemented, some .unimplemented, 0⟩,
        ⟨"ListVolumes", none, none, 0⟩, ⟨"ControllerPublishVolume", some .ok, some .ok, 0⟩] := by
    decide +kernel
  obtain ⟨-, -, -, -, -, hanswers, haccounts, -⟩ :=
    metrics_account_for_calls (w := lateWorld) rfl rfl lateVisits
  have hfits := hanswers.mp (by rw [hcalls]; decide)
  have hget := (haccounts hfits).get
  rw [hcalls] at hget
  exact ⟨hcalls, (hget _ _).trans (by decide), (hget _ _).trans (by decide)⟩

end Testbed

end VolumePlugin
