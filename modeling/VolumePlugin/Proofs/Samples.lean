import Mathlib.Algebra.Order.BigOperators.Group.List
import Mathlib.Algebra.Order.Group.Nat
import Mathlib.Algebra.Ring.Nat
import Mathlib.Data.List.Induction
import Mathlib.Data.List.Nodup
import Mathlib.Data.List.Pairwise
import VolumePlugin.Metrics

/-! # What metrics say about the calls that they have counted

Metrics keep one entry for each operation and status code. What an entry says can be told from the
latencies of its calls alone, and it does not matter in which order the calls were counted. All of
them can be counted as long as no entry has more calls than a word counts, or latencies that add up
to more than a time can be. -/

namespace VolumePlugin

/-- A finished call, with the time that it took. -/
structure Sample where
  operation : String
  code : StatusCode
  elapsed : Nat
  deriving DecidableEq, Repr

/-! ## The numbers of an entry -/

namespace OpStats

/-- How many latencies there are, what they add up to, and the greatest one. -/
def ofLatencies (latencies : List Nat) : OpStats :=
  { count := latencies.length, total := latencies.sum, max := latencies.max?.getD 0 }

/-- Whether the number of latencies is a word, and what they add up to a time. -/
def InRange (latencies : List Nat) : Prop :=
  latencies.length < Text.wordBound ∧ latencies.sum < timeBound

theorem inRange_nil : InRange [] :=
  ⟨by decide, by decide⟩

theorem InRange.of_append {latencies more : List Nat} (h : InRange (latencies ++ more)) :
    InRange latencies := by
  obtain ⟨hlength, hsum⟩ := h
  rw [List.length_append] at hlength
  rw [List.sum_append] at hsum
  exact ⟨by omega, by omega⟩

theorem inRange_perm {latencies latencies' : List Nat} (h : latencies.Perm latencies') :
    InRange latencies ↔ InRange latencies' := by
  unfold InRange
  rw [h.length_eq, h.sum_nat]

theorem admits_ofLatencies_iff (latencies : List Nat) (n : Nat) :
    (ofLatencies latencies).admits n = true ↔ InRange (latencies ++ [n]) := by
  rw [admits, Bool.and_eq_true, decide_eq_true_eq, decide_eq_true_eq]
  simp [ofLatencies, InRange]

theorem max?_getD_eq_foldl (latencies : List Nat) :
    latencies.max?.getD 0 = latencies.foldl Nat.max 0 := by
  cases latencies with
  | nil => rfl
  | cons n rest =>
      have hfirst : Nat.max 0 n = n := Nat.zero_max n
      rw [List.max?_cons', List.foldl_cons, hfirst]
      rfl

theorem ofLatencies_concat {latencies : List Nat} {n : Nat} (h : InRange (latencies ++ [n])) :
    ofLatencies (latencies ++ [n]) = (ofLatencies latencies).add n := by
  rw [add, if_pos ((admits_ofLatencies_iff latencies n).mpr h)]
  simp [ofLatencies, max?_getD_eq_foldl]

theorem ofLatencies_perm {latencies latencies' : List Nat} (h : latencies.Perm latencies') :
    ofLatencies latencies = ofLatencies latencies' := by
  have hmax : latencies.foldl Nat.max 0 = latencies'.foldl Nat.max 0 :=
    h.foldl_eq 0
  simp [ofLatencies, max?_getD_eq_foldl, h.length_eq, h.sum_nat, hmax]

/-- No mean is greater than the greatest latency. -/
theorem avg_ofLatencies_le (latencies : List Nat) :
    (ofLatencies latencies).avg ≤ (ofLatencies latencies).max := by
  have hbound : ∀ n ∈ latencies, n ≤ latencies.max?.getD 0 :=
    fun _ hn => List.le_max?_getD_of_mem hn
  have htotal := List.sum_le_card_nsmul latencies _ hbound
  rw [Nat.nsmul_eq_mul] at htotal
  unfold avg
  split
  · exact Nat.div_le_of_le_mul htotal
  · exact Nat.zero_le _

end OpStats

/-! ## The order of entries -/

theorem StatusCode.ofNumber_number (code : StatusCode) : ofNumber code.number = code := by
  cases code <;> rfl

theorem StatusCode.number_inj {code code' : StatusCode} (h : code.number = code'.number) :
    code = code' := by
  rw [← ofNumber_number code, h, ofNumber_number]

namespace OpEntry

/-- What an entry is found by. -/
def key (e : OpEntry) : String × StatusCode :=
  (e.operation, e.code)

/-- Whether an entry comes before another one in a summary. -/
def Before (e f : OpEntry) : Prop :=
  e.operation < f.operation ∨ e.operation = f.operation ∧ e.code.number < f.code.number

theorem le_iff (e f : OpEntry) :
    e.le f = true ↔
      e.operation < f.operation ∨ e.operation = f.operation ∧ e.code.number ≤ f.code.number := by
  unfold le
  by_cases h : e.operation = f.operation <;> simp [h]

theorem le_trans (a b c : OpEntry) (hab : a.le b = true) (hbc : b.le c = true) :
    a.le c = true := by
  rw [le_iff] at *
  rcases hab with hab | ⟨hab, hab'⟩
  · rcases hbc with hbc | ⟨hbc, -⟩
    · exact .inl (String.lt_trans hab hbc)
    · exact .inl (hbc ▸ hab)
  · rcases hbc with hbc | ⟨hbc, hbc'⟩
    · exact .inl (hab ▸ hbc)
    · exact .inr ⟨hab.trans hbc, hab'.trans hbc'⟩

theorem le_total (a b : OpEntry) : (a.le b || b.le a) = true := by
  rw [Bool.or_eq_true, le_iff, le_iff]
  by_cases h : a.operation = b.operation
  · rcases Nat.le_total a.code.number b.code.number with hle | hle
    · exact .inl (.inr ⟨h, hle⟩)
    · exact .inr (.inr ⟨h.symm, hle⟩)
  · by_cases hlt : a.operation < b.operation
    · exact .inl (.inl hlt)
    · by_cases hgt : b.operation < a.operation
      · exact .inr (.inl hgt)
      · exact absurd (String.le_antisymm (String.not_lt.mp hgt) (String.not_lt.mp hlt)) h

/-- Entries that may follow one another and are about different things are in order. -/
theorem before_of_le {e f : OpEntry} (h : e.le f = true) (hne : e.key ≠ f.key) : e.Before f := by
  refine ((le_iff e f).mp h).imp_right fun ⟨hoperation, hcode⟩ => ⟨hoperation, ?_⟩
  refine Nat.lt_of_le_of_ne hcode fun hnumber => hne ?_
  exact Prod.ext hoperation (StatusCode.number_inj hnumber)

theorem Before.asymm {e f : OpEntry} (h : e.Before f) : ¬ f.Before e := by
  rintro (h' | ⟨h', hcode'⟩)
  · rcases h with h | ⟨h, -⟩
    · exact String.lt_asymm h h'
    · exact String.lt_irrefl _ (h ▸ h')
  · rcases h with h | ⟨-, hcode⟩
    · exact String.lt_irrefl _ (h' ▸ h)
    · omega

end OpEntry

/-! ## The entries -/

namespace Metrics

/-- The latencies of the calls of an operation that ended with a status code. -/
def latencies (operation : String) (code : StatusCode) (samples : List Sample) : List Nat :=
  (samples.filter fun s => s.operation = operation ∧ s.code = code).map (·.elapsed)

theorem latencies_concat (operation : String) (code : StatusCode) (samples : List Sample)
    (s : Sample) :
    latencies operation code (samples ++ [s]) =
      latencies operation code samples ++
        if s.operation = operation ∧ s.code = code then [s.elapsed] else [] := by
  by_cases h : s.operation = operation ∧ s.code = code <;> simp [latencies, h]

/-- Whether some samples can all be counted. -/
def Fits (samples : List Sample) : Prop :=
  ∀ operation code, OpStats.InRange (latencies operation code samples)

theorem fits_concat_iff (samples : List Sample) (s : Sample) :
    Fits (samples ++ [s]) ↔
      Fits samples ∧ OpStats.InRange (latencies s.operation s.code samples ++ [s.elapsed]) := by
  constructor
  · intro h
    refine ⟨fun operation code => ?_, ?_⟩
    · have hentry := h operation code
      rw [latencies_concat] at hentry
      exact hentry.of_append
    · have hentry := h s.operation s.code
      rwa [latencies_concat, if_pos ⟨rfl, rfl⟩] at hentry
  · rintro ⟨hsamples, hentry⟩ operation code
    rw [latencies_concat]
    split
    · next heq =>
        obtain ⟨rfl, rfl⟩ := heq
        exact hentry
    · rw [List.append_nil]
      exact hsamples operation code

/-- The metrics that have counted some calls, one after the other. -/
def counting (samples : List Sample) : Metrics :=
  samples.foldl (fun m s => m.record s.operation s.code s.elapsed) {}

theorem counting_concat (samples : List Sample) (s : Sample) :
    counting (samples ++ [s]) = (counting samples).record s.operation s.code s.elapsed := by
  simp [counting]

/-- The entry of an operation and a status code. -/
def entryOf? (operation : String) (code : StatusCode) (entries : List OpEntry) : Option OpEntry :=
  entries.find? fun e => e.operation = operation ∧ e.code = code

theorem get_eq (m : Metrics) (operation : String) (code : StatusCode) :
    m.get operation code = ((entryOf? operation code m.entries).map OpEntry.stats).getD {} := by
  unfold get entryOf?
  split
  · next e he => rw [he]; rfl
  · next he => rw [he]; rfl

theorem entryOf?_cons (operation : String) (code : StatusCode) (e : OpEntry) (rest : List OpEntry) :
    entryOf? operation code (e :: rest) =
      if e.operation = operation ∧ e.code = code then some e else entryOf? operation code rest := by
  by_cases h : e.operation = operation ∧ e.code = code <;> simp [entryOf?, h]

/-- A sample changes the entry that it belongs to, and makes one if there is none. -/
theorem entryOf?_addTo (operation : String) (code : StatusCode) (elapsed : Nat)
    (entries : List OpEntry) (operation' : String) (code' : StatusCode) :
    entryOf? operation' code' (addTo operation code elapsed entries) =
      if operation = operation' ∧ code = code' then
        some ⟨operation, code, (get ⟨entries⟩ operation code).add elapsed⟩
      else entryOf? operation' code' entries := by
  rw [get_eq]
  induction entries with
  | nil => exact entryOf?_cons operation' code' _ []
  | cons e rest ih =>
      by_cases he : e.operation = operation ∧ e.code = code
      · obtain ⟨rfl, rfl⟩ := he
        by_cases h : e.operation = operation' ∧ e.code = code' <;> simp [addTo, entryOf?_cons, h]
      · rw [addTo, if_neg he, entryOf?_cons, ih, entryOf?_cons, if_neg he, entryOf?_cons]
        by_cases h : e.operation = operation' ∧ e.code = code'
        · have hne : ¬ (operation = operation' ∧ code = code') := fun heq =>
            he ⟨h.1.trans heq.1.symm, h.2.trans heq.2.symm⟩
          simp [h, hne]
        · simp [h]

/-- There is an entry for every operation and status code of which there was a sample, and it says
what the latencies of these samples say. -/
theorem entryOf?_counting (operation : String) (code : StatusCode) {samples : List Sample}
    (hfits : Fits samples) :
    entryOf? operation code (counting samples).entries =
      if latencies operation code samples = [] then none
      else some ⟨operation, code, .ofLatencies (latencies operation code samples)⟩ := by
  induction samples using List.reverseRecOn with
  | nil => rfl
  | append_singleton samples s ih =>
      obtain ⟨hsamples, hentry⟩ := (fits_concat_iff samples s).mp hfits
      rw [counting_concat, latencies_concat]
      simp only [record]
      rw [entryOf?_addTo]
      by_cases h : s.operation = operation ∧ s.code = code
      · obtain ⟨rfl, rfl⟩ := h
        have hget : get ⟨(counting samples).entries⟩ s.operation s.code =
            .ofLatencies (latencies s.operation s.code samples) := by
          rw [get_eq, ih hsamples]
          split
          · next hnone => simp [hnone, OpStats.ofLatencies]
          · rfl
        simp [hget, OpStats.ofLatencies_concat hentry]
      · simp [h, ih hsamples]

theorem get_counting (operation : String) (code : StatusCode) {samples : List Sample}
    (hfits : Fits samples) :
    (counting samples).get operation code =
      .ofLatencies (latencies operation code samples) := by
  rw [get_eq, entryOf?_counting operation code hfits]
  split
  · next hnone => simp [hnone, OpStats.ofLatencies]
  · rfl

/-! ## Samples that are recorded -/

/-- The metrics after one more sample, if it can be recorded. -/
def record? (m : Metrics) (s : Sample) : Option Metrics :=
  if m.admits s.operation s.code s.elapsed then some (m.record s.operation s.code s.elapsed)
  else none

/-- The metrics that have recorded some samples, one after the other, if they all can be. -/
def recording (samples : List Sample) : Option Metrics :=
  samples.foldlM record? {}

theorem record?_counting (samples : List Sample) (s : Sample) (hfits : Fits samples) (m : Metrics) :
    (counting samples).record? s = some m ↔
      Fits (samples ++ [s]) ∧ m = counting (samples ++ [s]) := by
  have hadmits : (counting samples).admits s.operation s.code s.elapsed = true ↔
      Fits (samples ++ [s]) := by
    rw [admits, get_counting s.operation s.code hfits, OpStats.admits_ofLatencies_iff,
      fits_concat_iff, and_iff_right hfits]
  rw [record?, ← hadmits, counting_concat]
  split
  · next h => rw [and_iff_right h, Option.some.injEq, eq_comm]
  · next h => exact ⟨nofun, fun h' => absurd h'.1 h⟩

/-- Samples can be recorded if and only if they fit, and then they are all counted. -/
theorem recording_eq_some_iff (samples : List Sample) (m : Metrics) :
    recording samples = some m ↔ Fits samples ∧ m = counting samples := by
  induction samples using List.reverseRecOn generalizing m with
  | nil =>
      have hfits : Fits [] := fun _ _ => OpStats.inRange_nil
      rw [and_iff_right hfits, eq_comm]
      exact Option.some_inj
  | append_singleton samples s ih =>
      have hstep : recording (samples ++ [s]) = (recording samples).bind (record? · s) := by
        simp [recording]
      rw [hstep, Option.bind_eq_some_iff]
      constructor
      · rintro ⟨before, hbefore, hm⟩
        obtain ⟨hfits, rfl⟩ := (ih before).mp hbefore
        exact (record?_counting samples s hfits m).mp hm
      · intro h
        have hfits := ((fits_concat_iff samples s).mp h.1).1
        exact ⟨counting samples, (ih _).mpr ⟨hfits, rfl⟩,
          (record?_counting samples s hfits m).mpr h⟩

theorem isSome_recording_iff (samples : List Sample) :
    (recording samples).isSome ↔ Fits samples := by
  simp [Option.isSome_iff_exists, recording_eq_some_iff]

/-! ## The entries of a summary -/

theorem map_key_addTo (operation : String) (code : StatusCode) (elapsed : Nat)
    (entries : List OpEntry) :
    (addTo operation code elapsed entries).map OpEntry.key =
      entries.map OpEntry.key ++
        if (operation, code) ∈ entries.map OpEntry.key then [] else [(operation, code)] := by
  induction entries with
  | nil => simp [addTo, OpEntry.key]
  | cons e rest ih =>
      by_cases he : e.operation = operation ∧ e.code = code
      · simp [addTo, he, OpEntry.key]
      · have hne : (operation, code) ≠ e.key := fun h =>
          he ⟨(congrArg Prod.fst h).symm, (congrArg Prod.snd h).symm⟩
        rw [addTo, if_neg he, List.map_cons, List.map_cons, ih]
        simp [hne]

theorem mem_keys_addTo_iff (operation : String) (code : StatusCode) (elapsed : Nat)
    (entries : List OpEntry) (k : String × StatusCode) :
    k ∈ (addTo operation code elapsed entries).map OpEntry.key ↔
      k ∈ entries.map OpEntry.key ∨ k = (operation, code) := by
  rw [map_key_addTo, List.mem_append]
  split
  · next hold =>
      rw [or_iff_left List.not_mem_nil]
      exact ⟨.inl, fun h => h.elim id fun hk => hk ▸ hold⟩
  · rw [List.mem_singleton]

/-- There is an entry for what there was a sample of, and for nothing else. -/
theorem mem_keys_counting_iff (samples : List Sample) (operation : String) (code : StatusCode) :
    (operation, code) ∈ (counting samples).entries.map OpEntry.key ↔
      latencies operation code samples ≠ [] := by
  induction samples using List.reverseRecOn with
  | nil => simp [counting, latencies]
  | append_singleton samples s ih =>
      rw [counting_concat, record, mem_keys_addTo_iff, ih, latencies_concat, Ne, Ne,
        List.append_eq_nil_iff, not_and_or, Prod.mk.injEq]
      refine or_congr_right ?_
      by_cases h : s.operation = operation ∧ s.code = code <;> simp [h, eq_comm]

theorem nodup_counting (samples : List Sample) :
    ((counting samples).entries.map OpEntry.key).Nodup := by
  induction samples using List.reverseRecOn with
  | nil => exact List.nodup_nil
  | append_singleton samples s ih =>
      rw [counting_concat, record, map_key_addTo]
      split
      · rwa [List.append_nil]
      · next hnew => exact List.nodup_append.mpr ⟨ih, by simp, by simpa using hnew⟩

theorem entryOf?_eq_some_iff {entries : List OpEntry} (h : (entries.map OpEntry.key).Nodup)
    {operation : String} {code : StatusCode} {e : OpEntry} :
    entryOf? operation code entries = some e ↔ e ∈ entries ∧ e.key = (operation, code) := by
  have hkey : ∀ e' : OpEntry, e'.key = (operation, code) ↔
      e'.operation = operation ∧ e'.code = code := by simp [OpEntry.key]
  constructor
  · intro he
    exact ⟨List.mem_of_find?_eq_some he, (hkey e).mpr (by simpa using List.find?_some he)⟩
  · rintro ⟨hmem, he⟩
    cases hfound : entryOf? operation code entries with
    | none => exact absurd (List.find?_eq_none.mp hfound e hmem) (by simpa using (hkey e).mp he)
    | some e' =>
        have hmem' : e' ∈ entries := List.mem_of_find?_eq_some hfound
        have he' : e'.key = (operation, code) :=
          (hkey e').mpr (by simpa using List.find?_some hfound)
        rw [List.inj_on_of_nodup_map h hmem' hmem (he'.trans he.symm)]

/-- The entries are those that can be told from the latencies. -/
theorem mem_counting_iff {samples : List Sample} (hfits : Fits samples) (e : OpEntry) :
    e ∈ (counting samples).entries ↔
      latencies e.operation e.code samples ≠ [] ∧
        e.stats = .ofLatencies (latencies e.operation e.code samples) := by
  have hfound : entryOf? e.operation e.code (counting samples).entries = some e ↔
      e ∈ (counting samples).entries :=
    (entryOf?_eq_some_iff (nodup_counting samples)).trans (and_iff_left rfl)
  rw [← hfound, entryOf?_counting _ _ hfits]
  by_cases hnone : latencies e.operation e.code samples = []
  · simp [hnone]
  · rw [if_neg hnone, Option.some.injEq, and_iff_right hnone, OpEntry.mk.injEq]
    simp [eq_comm]

section Snapshot

variable (samples : List Sample)

theorem snapshot_perm (m : Metrics) : m.snapshot.Perm m.entries :=
  List.mergeSort_perm m.entries OpEntry.le

/-- What is in a summary was counted. -/
theorem exists_sample_of_mem_snapshot {e : OpEntry} (h : e ∈ (counting samples).snapshot) :
    ∃ s ∈ samples, s.operation = e.operation ∧ s.code = e.code := by
  have hkey : (e.operation, e.code) ∈ (counting samples).entries.map OpEntry.key :=
    List.mem_map_of_mem ((snapshot_perm _).mem_iff.mp h)
  have hsome := (mem_keys_counting_iff samples e.operation e.code).mp hkey
  obtain ⟨elapsed, hmem⟩ := List.exists_mem_of_ne_nil _ hsome
  obtain ⟨s, hs, -⟩ := List.mem_map.mp hmem
  obtain ⟨hs, hkey⟩ := List.mem_filter.mp hs
  exact ⟨s, hs, of_decide_eq_true hkey⟩

theorem nodup_snapshot : ((counting samples).snapshot.map OpEntry.key).Nodup :=
  ((snapshot_perm _).map OpEntry.key).nodup_iff.mpr (nodup_counting samples)

/-- A summary is strictly in order. -/
theorem pairwise_snapshot : (counting samples).snapshot.Pairwise OpEntry.Before := by
  have hsorted : (counting samples).snapshot.Pairwise fun e f => e.le f = true :=
    List.pairwise_mergeSort OpEntry.le_trans OpEntry.le_total _
  have hkeys := List.pairwise_map.mp (nodup_snapshot samples)
  exact hsorted.imp₂ (fun _ _ hle hne => OpEntry.before_of_le hle hne) hkeys

/-- What is found in a summary is what is found in the metrics. -/
theorem entryOf?_snapshot (operation : String) (code : StatusCode) :
    entryOf? operation code (counting samples).snapshot =
      entryOf? operation code (counting samples).entries := by
  apply Option.ext
  intro e
  rw [entryOf?_eq_some_iff (nodup_snapshot samples), entryOf?_eq_some_iff (nodup_counting samples),
    (snapshot_perm (counting samples)).mem_iff]

/-- A summary has one entry for everything of which there was a sample, and no other entry. -/
theorem count_snapshot (operation : String) (code : StatusCode) :
    ((counting samples).snapshot.map OpEntry.key).count (operation, code) =
      if latencies operation code samples = [] then 0 else 1 := by
  have hperm := (snapshot_perm (counting samples)).map OpEntry.key
  rw [hperm.count_eq]
  split
  · next hnone =>
      refine List.count_eq_zero.mpr fun hmem => ?_
      exact (mem_keys_counting_iff samples operation code).mp hmem hnone
  · next hsome =>
      have hmem := (mem_keys_counting_iff samples operation code).mpr hsome
      exact List.count_eq_one_of_mem (nodup_counting samples) hmem

end Snapshot

/-! ## The order of the samples -/

theorem latencies_perm {samples samples' : List Sample} (h : samples.Perm samples')
    (operation : String) (code : StatusCode) :
    (latencies operation code samples).Perm (latencies operation code samples') :=
  (h.filter _).map _

theorem fits_perm {samples samples' : List Sample} (h : samples.Perm samples') :
    Fits samples ↔ Fits samples' :=
  forall₂_congr fun operation code => OpStats.inRange_perm (latencies_perm h operation code)

section Perm

variable {samples samples' : List Sample} (h : samples.Perm samples') (hfits : Fits samples)

include h hfits

theorem get_perm : (counting samples).get = (counting samples').get := by
  funext operation code
  rw [get_counting operation code hfits, get_counting operation code ((fits_perm h).mp hfits),
    OpStats.ofLatencies_perm (latencies_perm h operation code)]

/-- Counted in whatever order, the same calls lead to the same summary. -/
theorem snapshot_perm_eq : (counting samples).snapshot = (counting samples').snapshot := by
  have hmem : ∀ e, e ∈ (counting samples).snapshot ↔ e ∈ (counting samples').snapshot := by
    intro e
    have hlatencies := latencies_perm h e.operation e.code
    have hnone : latencies e.operation e.code samples = [] ↔
        latencies e.operation e.code samples' = [] := by
      rw [← List.length_eq_zero_iff, ← List.length_eq_zero_iff, hlatencies.length_eq]
    rw [(snapshot_perm _).mem_iff, (snapshot_perm _).mem_iff, mem_counting_iff hfits,
      mem_counting_iff ((fits_perm h).mp hfits), OpStats.ofLatencies_perm hlatencies, Ne, Ne, hnone]
  have hperm : (counting samples).snapshot.Perm (counting samples').snapshot :=
    (List.perm_ext_iff_of_nodup (nodup_snapshot samples).of_map
      (nodup_snapshot samples').of_map).mpr hmem
  -- No two entries of a summary may change places, so its entries alone tell the summary.
  refine hperm.eq_of_pairwise (fun e f _ _ (hef : e.Before f) hfe => absurd hfe hef.asymm) ?_ ?_
  · exact pairwise_snapshot samples
  · exact pairwise_snapshot samples'

end Perm

/-- Samples that can be recorded one after the other can be recorded in any order, and it does not
matter in which. -/
theorem recording_perm {samples samples' : List Sample} (h : samples.Perm samples') {m : Metrics}
    (hm : recording samples = some m) :
    ∃ m', recording samples' = some m' ∧ m'.get = m.get ∧ m'.snapshot = m.snapshot := by
  obtain ⟨hfits, rfl⟩ := (recording_eq_some_iff samples m).mp hm
  refine ⟨counting samples', ?_, (get_perm h hfits).symm, (snapshot_perm_eq h hfits).symm⟩
  exact (recording_eq_some_iff samples' _).mpr ⟨(fits_perm h).mp hfits, rfl⟩

/-! ## All that metrics say -/

/-- Whether metrics say of some samples what there is to say. -/
structure Accounts (m : Metrics) (samples : List Sample) : Prop where
  get : ∀ operation code, m.get operation code = .ofLatencies (latencies operation code samples)
  sorted : m.snapshot.Pairwise OpEntry.Before
  /-- A summary lists that of which there was a sample, once, and nothing else. -/
  listed : ∀ operation code, (m.snapshot.map OpEntry.key).count (operation, code) =
    if latencies operation code samples = [] then 0 else 1
  agrees : ∀ operation code, m.get operation code =
    ((entryOf? operation code m.snapshot).map OpEntry.stats).getD {}
  mean : ∀ operation code, (m.get operation code).avg ≤ (m.get operation code).max

theorem accounts_counting {samples : List Sample} (hfits : Fits samples) :
    Accounts (counting samples) samples where
  get operation code := get_counting operation code hfits
  sorted := pairwise_snapshot samples
  listed := count_snapshot samples
  agrees operation code := by rw [entryOf?_snapshot, get_eq]
  mean operation code := by
    rw [get_counting operation code hfits]
    exact OpStats.avg_ofLatencies_le _

end Metrics

end VolumePlugin
