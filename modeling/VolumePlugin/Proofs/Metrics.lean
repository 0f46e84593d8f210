import VolumePlugin.Rpc

/-! # What is counted of finished calls

How often an operation ended with a status code does not depend on how long the calls took. -/

namespace VolumePlugin.Metrics

open Message (Packed)

/-- The operations and status codes that have been counted, and how often. -/
def counts (m : Metrics) : List (String × StatusCode × Nat) :=
  m.entries.map fun e => (e.operation, e.code, e.stats.count)

/-- Counts an operation once more, as far as a 64-bit word goes. -/
def countIn (operation : String) (code : StatusCode) :
    List (String × StatusCode × Nat) → List (String × StatusCode × Nat)
  | [] => [(operation, code, 1)]
  | (o, c, n) :: rest =>
    if o = operation ∧ c = code then (o, c, if n + 1 < Text.wordBound then n + 1 else n) :: rest
    else (o, c, n) :: countIn operation code rest

theorem count_add (s : OpStats) (elapsed : Nat) :
    (s.add elapsed).count = if s.count + 1 < Text.wordBound then s.count + 1 else s.count := by
  unfold OpStats.add
  split
  · next hadmits =>
      have hcount : s.count + 1 < Text.wordBound := by
        simp only [OpStats.admits, Bool.and_eq_true, decide_eq_true_eq] at hadmits
        exact hadmits.1
      rw [if_pos hcount]
  · split <;> rfl

theorem counts_record (m : Metrics) (operation : String) (code : StatusCode) (elapsed : Nat) :
    (m.record operation code elapsed).counts = countIn operation code m.counts := by
  unfold counts record
  dsimp only
  induction m.entries with
  | nil => simp [addTo, countIn, count_add, Text.wordBound]
  | cons e rest ih =>
      rw [addTo, List.map_cons, countIn]
      split
      · rw [List.map_cons, count_add]
      · rw [List.map_cons, ih]

theorem counts_observe {α : Type} (m : Metrics) (rpc : Rpc) (result : Except CsiError α)
    (elapsed : Nat) :
    (m.observe rpc result elapsed).2.counts =
      if rpc.observed && !brokeOff result then countIn rpc.name (statusOf result) m.counts
      else m.counts := by
  unfold observe
  split
  · exact counts_record m rpc.name (statusOf result) elapsed
  · rfl

/-- The metrics after some finished calls, given the time that each of them took. -/
def observeAll (m : Metrics) (finished : List (Rpc × Except CsiError Packed)) (times : List Nat) :
    Metrics :=
  (finished.zip times).foldl (fun m call => (m.observe call.1.1 call.1.2 call.2).2) m

theorem counts_observeAll (finished : List (Rpc × Except CsiError Packed)) :
    ∀ {m m' : Metrics} {times times' : List Nat}, m.counts = m'.counts →
      times.length = times'.length →
      (m.observeAll finished times).counts = (m'.observeAll finished times').counts := by
  induction finished with
  | nil => exact fun hcounts _ => hcounts
  | cons call rest ih =>
      intro m m' times times' hcounts hlength
      cases times with
      | nil =>
          rw [List.length_eq_zero_iff.mp hlength.symm]
          exact hcounts
      | cons time times =>
          cases times' with
          | nil => cases hlength
          | cons time' times' =>
              refine ih ?_ (Nat.succ.inj hlength)
              rw [counts_observe, counts_observe, hcounts]

end VolumePlugin.Metrics
