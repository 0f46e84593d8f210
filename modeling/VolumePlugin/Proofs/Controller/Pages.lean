import VolumePlugin.Proofs.Controller.Listing
import VolumePlugin.Proofs.Handle

/-! # Listing page by page

The answer to a request for volumes names the page that comes next, if there is one. To ask for page
after page until there is none is to see every volume once, in the order of identifiers. -/

namespace VolumePlugin.Controller

open Cloud (Memory)

/-- Asks for volumes from a token on, each time with the token that came with the last answer, until
an answer comes without one. -/
inductive Walk (p : Poller) (n : Int32) :
    Timeline × Memory → String → List ListVolumesResponse → Prop where
  | last {s s' : Timeline × Memory} {token : String} {r : ListVolumesResponse}
      (hrun : (listVolumes { maxEntries := n, startingToken := token }).run.run
        (answerQuery p Memory.answer) s = (.ok r, s'))
      (hend : r.nextToken = "") : Walk p n s token [r]
  | more {s s' : Timeline × Memory} {token : String} {r : ListVolumesResponse}
      {rest : List ListVolumesResponse}
      (hrun : (listVolumes { maxEntries := n, startingToken := token }).run.run
        (answerQuery p Memory.answer) s = (.ok r, s'))
      (hnext : r.nextToken ≠ "") (hrest : Walk p n s' r.nextToken rest) :
      Walk p n s token (r :: rest)

section Walks

variable {p : Poller} {n : Int32} {s : Timeline × Memory} {token : String}

/-- Nothing is left to choice on the way. -/
theorem Walk.unique {rs rs' : List ListVolumesResponse} (h : Walk p n s token rs)
    (h' : Walk p n s token rs') : rs = rs' := by
  induction h generalizing rs' with
  | last hrun hend =>
      cases h' with
      | last hrun' hend' =>
          obtain ⟨⟨⟩, -⟩ := Prod.mk.inj (hrun.symm.trans hrun')
          rfl
      | more hrun' hnext' hrest' =>
          obtain ⟨⟨⟩, -⟩ := Prod.mk.inj (hrun.symm.trans hrun')
          exact absurd hend hnext'
  | more hrun hnext hrest ih =>
      cases h' with
      | last hrun' hend' =>
          obtain ⟨⟨⟩, -⟩ := Prod.mk.inj (hrun.symm.trans hrun')
          exact absurd hend' hnext
      | more hrun' hnext' hrest' =>
          obtain ⟨⟨⟩, rfl⟩ := Prod.mk.inj (hrun.symm.trans hrun')
          rw [ih hrest']

/-- The volumes that answers list. -/
def entriesOf (rs : List ListVolumesResponse) : List ListedVolume :=
  rs.flatMap (·.entries)

@[simp] theorem entriesOf_nil : entriesOf [] = [] := rfl

@[simp] theorem entriesOf_cons (r : ListVolumesResponse) (rs : List ListVolumesResponse) :
    entriesOf (r :: rs) = r.entries ++ entriesOf rs := rfl

/-- From a page on, the pages list the volumes that are not on the pages before it. The induction is
on the number of pages that follow. -/
theorem exists_walk (p : Poller) (t : Timeline) {m : Memory}
    (hpages : pageCount m n + 1 < Text.halfWordBound) (hn : 0 ≤ n) (left : Nat) :
    ∀ (k : Nat) (token : String), pageOfToken token = .ok (k + 1) →
      k + 1 + left = pageCount m n →
      ∃ rs, Walk p n (t, m) token rs ∧
        entriesOf rs = (m.volumes.drop (k * perPage m n)).map listed ∧
        ∀ r ∈ rs, r.entries.length ≤ perPage m n := by
  have hfull : ∀ l : List RemoteVolume,
      ((l.take (perPage m n)).map listed).length ≤ perPage m n := by
    intro l
    rw [List.length_map]
    exact List.length_take_le ..
  induction left with
  | zero =>
      intro k token htoken hk
      have hpage := listing_page m hn (by omega) htoken
      rw [if_neg (by omega)] at hpage
      refine ⟨_, .last ((listVolumes_run _ m p t).trans (by rw [hpage])) rfl, ?_, ?_⟩
      · have hrest : (m.volumes.drop (k * perPage m n)).length ≤ perPage m n := by
          have hall := length_le_pageCount_mul m n
          rw [← hk, Nat.add_zero, Nat.succ_mul] at hall
          rw [List.length_drop]
          omega
        simp [List.take_of_length_le hrest]
      · exact List.forall_mem_singleton.mpr (hfull _)
  | succ left ih =>
      intro k token htoken hk
      have hpage := listing_page m hn (by omega) htoken
      rw [if_pos (by omega)] at hpage
      have htoken' : pageOfToken (toString (k + 2)) = .ok (k + 1 + 1) :=
        pageOfToken_toString (by omega)
      obtain ⟨rs, hwalk, hentries, hsizes⟩ := ih (k + 1) _ htoken' (by omega)
      refine ⟨_, .more ((listVolumes_run _ m p t).trans (by rw [hpage]))
        (Text.toString_ne_empty _) hwalk, ?_, ?_⟩
      · rw [entriesOf_cons, hentries, Nat.succ_mul, ← List.drop_drop, ← List.map_append,
          List.take_append_drop]
      · intro r hr
        rcases List.mem_cons.mp hr with rfl | hr
        · exact hfull (m.volumes.drop (k * perPage m n))
        · exact hsizes r hr

end Walks

/-- The numbers of the volumes that are listed, as their handles give them. -/
def numbersOf (entries : List ListedVolume) : List Nat :=
  entries.filterMap fun e => e.volume.map fun v => volumeNumber v.volumeId

theorem numbersOf_listed {volumes : List RemoteVolume} (h : ∀ v ∈ volumes, v.id < Text.wordBound) :
    numbersOf (volumes.map listed) = volumes.map (·.id) := by
  induction volumes with
  | nil => rfl
  | cons v rest ih =>
      have hfirst : volumeNumber (handleOf v) = v.id :=
        @volumeNumber_handle ⟨v.id, v.label⟩ (h v (by simp))
      have hrest := ih fun u hu => h u (by simp [hu])
      simpa [numbersOf, listed, hfirst] using hrest

/-- Whatever number of volumes is on a page, to go from page to page comes to an end, and shows
every volume once, in the order of identifiers, and at most as many on a page as were asked for. -/
theorem pages_enumerate (p : Poller) (t : Timeline) {m : Memory} (hordered : m.Ordered)
    (hwords : ∀ v ∈ m.volumes, v.id < Text.wordBound) (hcount : m.volumes.length < 0x80000000)
    {n : Int32} (hn : 0 ≤ n) :
    ∃ rs, (∀ rs', Walk p n (t, m) "" rs' ↔ rs' = rs) ∧
      entriesOf rs = m.volumes.map listed ∧
      numbersOf (entriesOf rs) = m.volumes.map (·.id) ∧
      (numbersOf (entriesOf rs)).Pairwise (· < ·) ∧
      ∀ r ∈ rs, 0 < n → (r.entries.length : Int) ≤ n.toInt := by
  have hpages : pageCount m n + 1 < Text.halfWordBound := by
    have hle := pageCount_le m n
    have hbound : 0x80000000 + 1 < Text.halfWordBound := by decide
    omega
  have hfirst : 1 ≤ pageCount m n := Nat.le_max_left ..
  obtain ⟨rs, hwalk, hentries, hsizes⟩ :=
    exists_walk p t hpages hn (pageCount m n - 1) 0 "" rfl (by omega)
  rw [Nat.zero_mul, List.drop_zero] at hentries
  have hnumbers : numbersOf (entriesOf rs) = m.volumes.map (·.id) := by
    rw [hentries, numbersOf_listed hwords]
  refine ⟨rs, fun rs' => ⟨fun h => h.unique hwalk, fun h => h ▸ hwalk⟩, hentries, hnumbers, ?_, ?_⟩
  · rw [hnumbers]
    exact List.pairwise_map.mpr hordered
  · intro r hr hpositive
    have hlimit : (0 : Int) < n.toInt := Int32.lt_iff_toInt_lt.mp hpositive
    have hasked : perPage m n = n.toInt.toNat := by
      unfold perPage
      rw [if_neg (by omega)]
      omega
    have hsize := hsizes r hr
    omega

/-- A provider whose volumes fill two pages of two. -/
def fourVolumes : Memory where
  nextId := 104
  volumes := ["data", "logs", "mail", "web"].zipIdx.map fun (label, i) =>
    ⟨100 + i, label, 10, "us-east", .active, none, Memory.devicePath label, []⟩

theorem pages_enumerate_full :
    ∃ rs, (∀ rs', Walk ⟨10, 100, false, 0⟩ 2 ({}, fourVolumes) "" rs' ↔ rs' = rs) ∧
      entriesOf rs = fourVolumes.volumes.map listed ∧
      numbersOf (entriesOf rs) = [100, 101, 102, 103] ∧
      (numbersOf (entriesOf rs)).Pairwise (· < ·) ∧
      ∀ r ∈ rs, (0 : Int32) < 2 → (r.entries.length : Int) ≤ (2 : Int32).toInt :=
  pages_enumerate ⟨10, 100, false, 0⟩ {} (by unfold Memory.Ordered; decide) (by decide) (by decide)
    (by decide)

end VolumePlugin.Controller
