import VolumePlugin.Error
import VolumePlugin.Text.Unsigned

/-! Counts and latencies of finished calls, by operation and status code. Times are in nanoseconds.
Counts are 64-bit words, and so are the whole seconds of a time. -/

namespace VolumePlugin

/-- The samples of one operation with one status code. -/
structure OpStats where
  count : Nat := 0
  total : Nat := 0
  max : Nat := 0
  deriving DecidableEq, Repr, Inhabited

namespace OpStats

/-- The number of nanoseconds that no time reaches. -/
def timeBound : Nat := Text.wordBound * 1000000000

/-- The mean latency. It is zero for no sample, and for more samples than a 32-bit word counts. -/
def avg (s : OpStats) : Nat :=
  if s.count < 0x100000000 then s.total / s.count else 0

/-- Whether one more sample is in range, with its latency added to the others. -/
def admits (s : OpStats) (elapsed : Nat) : Bool :=
  s.count + 1 < Text.wordBound && s.total + elapsed < timeBound

/-- The numbers after one more sample. A sample is counted before its latency is added, so one whose
latency leaves the range has been counted all the same. -/
def add (s : OpStats) (elapsed : Nat) : OpStats :=
  if s.admits elapsed then
    { count := s.count + 1, total := s.total + elapsed, max := Nat.max s.max elapsed }
  else if s.count + 1 < Text.wordBound then { s with count := s.count + 1 }
  else s

end OpStats

/-- The samples of one operation and status code in a summary. -/
structure OpEntry where
  operation : String
  code : StatusCode
  stats : OpStats
  deriving DecidableEq, Repr

namespace OpEntry

/-- Entries are ordered by operation, then by the number of the code. -/
def le (a b : OpEntry) : Bool :=
  if a.operation = b.operation then a.code.number ≤ b.code.number
  else decide (a.operation < b.operation)

end OpEntry

/-- The samples of all operations, one entry for each operation and status code. -/
structure Metrics where
  entries : List OpEntry := []
  deriving DecidableEq, Repr

namespace Metrics

/-- Adds a sample to its entry, or a new entry for it. -/
def addTo (operation : String) (code : StatusCode) (elapsed : Nat) : List OpEntry → List OpEntry
  | [] => [⟨operation, code, OpStats.add {} elapsed⟩]
  | e :: es =>
    if e.operation = operation ∧ e.code = code then { e with stats := e.stats.add elapsed } :: es
    else e :: addTo operation code elapsed es

def get (m : Metrics) (operation : String) (code : StatusCode) : OpStats :=
  match m.entries.find? fun e => e.operation = operation ∧ e.code = code with
  | some e => e.stats
  | none => {}

/-- Whether one more finished call can be recorded. Whoever tries to record another one gets no
further. -/
def admits (m : Metrics) (operation : String) (code : StatusCode) (elapsed : Nat) : Bool :=
  (m.get operation code).admits elapsed

/-- The metrics after one more finished call. -/
def record (m : Metrics) (operation : String) (code : StatusCode) (elapsed : Nat) : Metrics :=
  ⟨addTo operation code elapsed m.entries⟩

def snapshot (m : Metrics) : List OpEntry :=
  m.entries.mergeSort OpEntry.le

/-- What the summary that is logged at the end says about one entry, in milliseconds. -/
structure SummaryLine where
  operation : String
  code : String
  count : Nat
  avgMillis : Nat
  maxMillis : Nat

def millisecond : Nat := 1000000

def summary (m : Metrics) : List SummaryLine :=
  m.snapshot.map fun e =>
    { operation := e.operation, code := e.code.name, count := e.stats.count,
      avgMillis := e.stats.avg / millisecond, maxMillis := e.stats.max / millisecond }

end Metrics

end VolumePlugin
