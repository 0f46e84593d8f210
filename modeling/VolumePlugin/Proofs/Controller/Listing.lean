import VolumePlugin.Proofs.Controller.Run
import VolumePlugin.Proofs.Except
import VolumePlugin.Proofs.Text.Unsigned

/-! # Listings

To list volumes is to ask for one page of them, which changes nothing. A volume that is there is on
the page that its place in the list falls on. -/

namespace VolumePlugin.Controller

open Cloud (Memory)

/-! ## One page -/

/-- The answer to a request for a page of the volumes. -/
def listing (m : Memory) (req : ListVolumesRequest) : Except CsiError ListVolumesResponse := do
  let options ← listOptions req
  let page := m.page options (m.selected (·.label) options m.volumes)
  let next ← page.next.mapError .cloud
  return { entries := page.items.map listed, nextToken := tokenOfPage next }

/-- Looking at a page takes no time and leaves the provider as it is. -/
theorem listVolumes_run (req : ListVolumesRequest) (m : Memory) (p : Poller) (t : Timeline) :
    (listVolumes req).run.run (answerQuery p Memory.answer) (t, m) = (listing m req, (t, m)) := by
  unfold listVolumes listing
  cases listOptions req with
  | error e => rfl
  | ok options =>
      let items := (m.page options (m.selected (·.label) options m.volumes)).items
      have hrest : ∀ next : Except CloudError (Option Nat),
          (do
            let token ← Job.ofExcept (next.mapError CsiError.cloud)
            return { entries := items.map listed, nextToken := tokenOfPage token } :
              Job ListVolumesResponse).run.run (answerQuery p Memory.answer) (t, m) =
            (do
              let token ← next.mapError CsiError.cloud
              return { entries := items.map listed, nextToken := tokenOfPage token }, (t, m)) := by
        intro next
        cases next <;> rfl
      exact hrest _

/-- Whatever page is asked for, it lists volumes that are there. -/
theorem listed_of_mem_listing {m : Memory} {req : ListVolumesRequest}
    {response : ListVolumesResponse} (h : listing m req = .ok response) {e : ListedVolume}
    (he : e ∈ response.entries) : ∃ v ∈ m.volumes, e = listed v := by
  unfold listing at h
  simp only [except_bind_eq_ok] at h
  obtain ⟨options, -, next, -, h⟩ := h
  obtain rfl := Except.ok.inj h
  obtain ⟨v, hv, rfl⟩ := List.mem_map.mp he
  exact ⟨v, Memory.mem_of_mem_page hv, rfl⟩

/-! ## Cutting the list into pages -/

/-- In a list that is cut into pieces of one size, every element is in one of them. -/
theorem exists_mem_take_drop {α : Type} {l : List α} {a : α} (h : a ∈ l) {size : Nat}
    (hsize : 0 < size) : ∃ k < l.length, a ∈ (l.drop (k * size)).take size := by
  obtain ⟨i, hi, rfl⟩ := List.mem_iff_getElem.mp h
  have hcut : i / size * size + i % size = i := Nat.div_add_mod' i size
  have hrest : i % size < size := Nat.mod_lt i hsize
  refine ⟨i / size, Nat.lt_of_le_of_lt (Nat.div_le_self i size) hi, ?_⟩
  have hplace : ((l.drop (i / size * size)).take size)[i % size]? = some l[i] := by
    rw [List.getElem?_take_of_lt hrest, List.getElem?_drop, hcut, List.getElem?_eq_getElem hi]
  exact List.mem_of_getElem? hplace

theorem pageOfToken_toString {page : Nat} (h : page < Text.halfWordBound) :
    pageOfToken (toString page) = .ok page := by
  unfold pageOfToken
  rw [if_neg (Text.toString_ne_empty page), Text.readUnsigned_toString h]

/-- How many volumes are on a page, unless it is the last one. -/
def perPage (m : Memory) (n : Int32) : Nat :=
  max 1 (if n.toInt.toNat = 0 then m.pageSize else n.toInt.toNat)

def pageCount (m : Memory) (n : Int32) : Nat :=
  max 1 ((m.volumes.length + (perPage m n - 1)) / perPage m n)

theorem perPage_pos (m : Memory) (n : Int32) : 0 < perPage m n :=
  Nat.le_max_left ..

/-- The pages hold all volumes. -/
theorem length_le_pageCount_mul (m : Memory) (n : Int32) :
    m.volumes.length ≤ pageCount m n * perPage m n := by
  have hsize := perPage_pos m n
  have hfloor := Nat.lt_mul_div_succ (m.volumes.length + (perPage m n - 1)) hsize
  rw [Nat.mul_succ, Nat.mul_comm] at hfloor
  calc m.volumes.length
      ≤ (m.volumes.length + (perPage m n - 1)) / perPage m n * perPage m n := by omega
    _ ≤ pageCount m n * perPage m n := Nat.mul_le_mul_right _ (Nat.le_max_right ..)

/-- There are no more pages than volumes, except for the first page. -/
theorem pageCount_le (m : Memory) (n : Int32) : pageCount m n ≤ max 1 m.volumes.length := by
  have hsize := perPage_pos m n
  refine Nat.max_le.mpr ⟨Nat.le_max_left .., ?_⟩
  cases hlength : m.volumes.length with
  | zero => rw [Nat.div_eq_of_lt (by omega)]; exact Nat.zero_le _
  | succ k =>
      refine Nat.le_trans (Nat.div_le_of_le_mul ?_) (Nat.le_max_right ..)
      have hk : k ≤ perPage m n * k := Nat.le_mul_of_pos_left k hsize
      rw [Nat.mul_succ]
      omega

theorem listOptions_of_token {n : Int32} (hn : 0 ≤ n) {token : String} {page : Nat}
    (htoken : pageOfToken token = .ok page) :
    listOptions { maxEntries := n, startingToken := token } =
      .ok { page := page, pageSize := if n.toInt.toNat = 0 then none else some n.toInt.toNat } := by
  unfold listOptions
  rw [if_neg (Int32.not_lt.mpr hn), htoken]
  rfl

/-- The answer to a request for a page, as long as numbers of pages do not run out. -/
theorem listing_page (m : Memory) {n : Int32} (hn : 0 ≤ n) {token : String} {k : Nat}
    (hk : k + 2 < Text.halfWordBound) (htoken : pageOfToken token = .ok (k + 1)) :
    listing m { maxEntries := n, startingToken := token } = .ok
      { entries := ((m.volumes.drop (k * perPage m n)).take (perPage m n)).map listed
        nextToken := if k + 1 < pageCount m n then toString (k + 2) else "" } := by
  let options : ListOptions :=
    { page := k + 1, pageSize := if n.toInt.toNat = 0 then none else some n.toInt.toNat }
  have hsize : max 1 (options.pageSize.getD m.pageSize) = perPage m n := by
    unfold perPage
    simp only [options]
    split <;> rfl
  have hnumber : max 1 (k + 1) = k + 1 := Nat.max_eq_right (Nat.le_add_left 1 k)
  have hpage : m.page options m.volumes =
      ⟨(m.volumes.drop (k * perPage m n)).take (perPage m n), k + 1, pageCount m n⟩ := by
    simp only [Memory.page, hsize, pageCount, options, hnumber, Nat.add_sub_cancel]
  unfold listing
  rw [listOptions_of_token hn htoken]
  change (do
    let next ← (m.page options m.volumes).next.mapError CsiError.cloud
    return { entries := (m.page options m.volumes).items.map listed
             nextToken := tokenOfPage next : ListVolumesResponse }) = _
  rw [hpage, Page.next_of_lt hk]
  by_cases hmore : k + 1 < pageCount m n
  · rw [if_pos hmore, if_pos hmore]
    rfl
  · rw [if_neg hmore, if_neg hmore]
    rfl

/-- As long as numbers of pages do not run out, there is a token for the page of every volume, and
the request for this page is granted. -/
theorem exists_listing {m : Memory} {v : RemoteVolume} (hv : v ∈ m.volumes)
    (hpages : m.volumes.length + 1 < Text.halfWordBound) {n : Int32} (hn : 0 ≤ n) :
    ∃ token response,
      listing m { maxEntries := n, startingToken := token } = .ok response ∧
        listed v ∈ response.entries := by
  obtain ⟨k, hk, hmem⟩ := exists_mem_take_drop hv (perPage_pos m n)
  have htoken : pageOfToken (toString (k + 1)) = .ok (k + 1) := pageOfToken_toString (by omega)
  exact ⟨toString (k + 1), _, listing_page m hn (by omega) htoken, List.mem_map_of_mem hmem⟩

/-! ## Runs -/

/-- A request for a page of the volumes that arrives. -/
abbrev Arrival.inspection (req : ListVolumesRequest) (p : Poller) (t : Timeline)
    (conditions : Conditions) : Arrival :=
  ⟨.list req, p, t, conditions⟩

theorem inspection_outcome (c : Controller) (req : ListVolumesRequest) (p : Poller) (t : Timeline)
    (conditions : Conditions) (m : Memory) :
    (Arrival.inspection req p t conditions).outcome c m =
      let seen := (Arrival.inspection req p t conditions).meet m
      (listing seen req, seen) := by
  unfold Arrival.outcome
  simp only [Request.job, listVolumes_run]

end VolumePlugin.Controller
