import VolumePlugin.Cloud.Memory
import Mathlib.Data.List.Nodup
import Mathlib.Data.List.Pairwise

/-! # The provider in memory, through its identifiers -/

namespace VolumePlugin.Cloud

/-! ## Lists in the order of identifiers -/

section Placing

variable {α : Type} {id : α → Nat}

theorem find?_placeById (a : α) (l : List α) (i : Nat) :
    (placeById id a l).find? (fun b => id b = i) =
      if id a = i then some a else l.find? (fun b => id b = i) := by
  induction l with
  | nil => by_cases h : id a = i <;> simp [placeById, h]
  | cons b rest ih =>
      rcases Nat.lt_trichotomy (id a) (id b) with hlt | heq | hgt
      · rw [placeById, if_pos hlt, List.find?_cons]
        by_cases h : id a = i <;> simp [h]
      · rw [placeById, if_neg (by omega), if_pos heq, List.find?_cons, List.find?_cons]
        by_cases h : id a = i <;> simp [h, ← heq]
      · rw [placeById, if_neg (by omega), if_neg (by omega), List.find?_cons, List.find?_cons, ih]
        by_cases h : id a = i
        · -- The object comes later, and what comes before it has another identifier.
          have hb : id b ≠ i := by omega
          simp [h, hb]
        · simp [h]

/-- Of two objects with one identifier the later one is left. -/
theorem placeById_placeById {a b : α} (h : id a = id b) (l : List α) :
    placeById id b (placeById id a l) = placeById id b l := by
  induction l with
  | nil => simp [placeById, h]
  | cons c rest ih =>
      rcases Nat.lt_trichotomy (id b) (id c) with hlt | heq | hgt
      · simp [placeById, h, hlt]
      · simp [placeById, h, heq]
      · have hlt : ¬ id b < id c := by omega
        have hne : id b ≠ id c := by omega
        simp [placeById, h, hlt, hne, ih]

/-- An object takes the place of the one with its identifier. -/
theorem placeById_of_mem (a : α) (l : List α) (hl : l.Pairwise fun b c => id b < id c)
    (h : ∃ b ∈ l, id b = id a) :
    placeById id a l = l.map fun b => if id b = id a then a else b := by
  induction l with
  | nil => simp at h
  | cons b rest ih =>
      obtain ⟨hb, hrest⟩ := List.pairwise_cons.mp hl
      obtain ⟨c, hc, hca⟩ := h
      by_cases hba : id b = id a
      · have hkeep : ∀ c ∈ rest, (if id c = id a then a else c) = c := by
          intro c hc
          exact if_neg fun h => absurd (hb c hc) (by omega)
        rw [placeById, if_neg (by omega), if_pos hba.symm, List.map_cons, if_pos hba,
          List.map_congr_left hkeep, List.map_id']
      · have hc' : c ∈ rest := by
          rcases List.mem_cons.mp hc with rfl | hc
          · exact absurd hca hba
          · exact hc
        have hlt : id b < id a := hca ▸ hb c hc'
        rw [placeById, if_neg (by omega), if_neg (by omega), ih hrest ⟨c, hc', hca⟩,
          List.map_cons, if_neg hba]

theorem mem_placeById (a : α) (l : List α) (hl : l.Pairwise fun b c => id b < id c) (x : α) :
    x ∈ placeById id a l ↔ x = a ∨ x ∈ l ∧ id x ≠ id a := by
  induction l with
  | nil => simp [placeById]
  | cons b rest ih =>
      obtain ⟨hb, hrest⟩ := List.pairwise_cons.mp hl
      unfold placeById
      split_ifs with hlt heq
      · have hne : ∀ y ∈ b :: rest, id y ≠ id a := by
          intro y hy
          rcases List.mem_cons.mp hy with rfl | hy
          · omega
          · have := hb y hy
            omega
        constructor
        · intro hx
          exact (List.mem_cons.mp hx).imp_right fun hx => ⟨hx, hne x hx⟩
        · rintro (rfl | ⟨hx, -⟩)
          · exact List.mem_cons_self
          · exact List.mem_cons_of_mem _ hx
      · have hne : ∀ y ∈ rest, id y ≠ id a := fun y hy => by
          have := hb y hy
          omega
        simp only [List.mem_cons]
        constructor
        · rintro (rfl | hx)
          · exact .inl rfl
          · exact .inr ⟨.inr hx, hne x hx⟩
        · rintro (rfl | ⟨rfl | hx, hxa⟩)
          · exact .inl rfl
          · exact absurd heq.symm hxa
          · exact .inr hx
      · rw [List.mem_cons, ih hrest, List.mem_cons]
        constructor
        · rintro (rfl | rfl | ⟨hx, hxa⟩)
          · exact .inr ⟨.inl rfl, fun h => heq h.symm⟩
          · exact .inl rfl
          · exact .inr ⟨.inr hx, hxa⟩
        · rintro (rfl | ⟨rfl | hx, hxa⟩)
          · exact .inr (.inl rfl)
          · exact .inl rfl
          · exact .inr (.inr ⟨hx, hxa⟩)

theorem pairwise_placeById (a : α) (l : List α) (hl : l.Pairwise fun b c => id b < id c) :
    (placeById id a l).Pairwise fun b c => id b < id c := by
  induction l with
  | nil => simp [placeById]
  | cons b rest ih =>
      obtain ⟨hb, hrest⟩ := List.pairwise_cons.mp hl
      unfold placeById
      split_ifs with hlt heq
      · refine List.pairwise_cons.mpr ⟨fun c hc => ?_, hl⟩
        rcases List.mem_cons.mp hc with rfl | hc
        · exact hlt
        · exact Nat.lt_trans hlt (hb c hc)
      · exact List.pairwise_cons.mpr ⟨fun c hc => heq ▸ hb c hc, hrest⟩
      · refine List.pairwise_cons.mpr ⟨fun c hc => ?_, ih hrest⟩
        rcases (mem_placeById a rest hrest c).mp hc with rfl | ⟨hc, -⟩
        · omega
        · exact hb c hc

end Placing

namespace Memory

/-! ## The volume with an identifier -/

/-- The volumes stand in the order of their identifiers, each identifier once. -/
def Ordered (m : Memory) : Prop :=
  m.volumes.Pairwise fun v w => v.id < w.id

theorem Ordered.eq_of_id {m : Memory} (h : m.Ordered) {v w : RemoteVolume}
    (hv : v ∈ m.volumes) (hw : w ∈ m.volumes) (hid : v.id = w.id) : v = w := by
  have hids : (m.volumes.map (·.id)).Nodup :=
    List.pairwise_map.mpr (List.Pairwise.imp Nat.ne_of_lt h)
  exact List.inj_on_of_nodup_map hids hv hw hid

theorem id_of_volume? {m : Memory} {id : Nat} {v : RemoteVolume} (h : m.volume? id = some v) :
    v.id = id := by
  simpa using List.find?_some h

@[simp] theorem volume?_putVolume (m : Memory) (v : RemoteVolume) (id : Nat) :
    (m.putVolume v).volume? id = if v.id = id then some v else m.volume? id :=
  find?_placeById v m.volumes id

@[simp] theorem volume?_dropVolume (m : Memory) (id other : Nat) :
    (m.dropVolume id).volume? other = if other = id then none else m.volume? other := by
  unfold volume? dropVolume
  rw [List.find?_filter]
  by_cases h : other = id
  · subst h
    simp
  · rw [if_neg h]
    congr 1
    funext v
    by_cases hv : v.id = other <;> simp [hv, h]

theorem volume?_eq_some_iff {m : Memory} (h : m.Ordered) {id : Nat} {v : RemoteVolume} :
    m.volume? id = some v ↔ v ∈ m.volumes ∧ v.id = id := by
  constructor
  · intro hv
    exact ⟨List.mem_of_find?_eq_some hv, id_of_volume? hv⟩
  · rintro ⟨hv, rfl⟩
    cases hw : m.volume? v.id with
    | none => exact absurd (List.find?_eq_none.mp hw v hv) (by simp)
    | some w =>
        have hmem : w ∈ m.volumes := List.mem_of_find?_eq_some hw
        rw [h.eq_of_id hmem hv (id_of_volume? hw)]

theorem putVolume_putVolume (m : Memory) {v w : RemoteVolume} (h : v.id = w.id) :
    (m.putVolume v).putVolume w = m.putVolume w := by
  unfold putVolume
  rw [placeById_placeById h]

/-- Changing a volume in place changes nothing else in the list. -/
theorem Ordered.putVolume_eq_map {m : Memory} (h : m.Ordered) {v w : RemoteVolume}
    (hw : m.volume? v.id = some w) :
    (m.putVolume v).volumes = m.volumes.map fun u => if u.id = v.id then v else u :=
  placeById_of_mem v m.volumes h ⟨w, (volume?_eq_some_iff h).mp hw⟩

theorem Ordered.putVolume {m : Memory} (h : m.Ordered) (v : RemoteVolume) :
    (m.putVolume v).Ordered :=
  pairwise_placeById v m.volumes h

theorem Ordered.mem_putVolume {m : Memory} (h : m.Ordered) (v w : RemoteVolume) :
    w ∈ (m.putVolume v).volumes ↔ w = v ∨ w ∈ m.volumes ∧ w.id ≠ v.id :=
  mem_placeById v m.volumes h w

/-! ## The volume with a label -/

def labelled? (m : Memory) (label : String) : Option RemoteVolume :=
  m.volumes.find? (·.label = label)

theorem labelled?_eq_none_iff {m : Memory} {label : String} :
    m.labelled? label = none ↔ ∀ v ∈ m.volumes, v.label ≠ label := by
  simp [labelled?, List.find?_eq_none]

theorem label_of_labelled? {m : Memory} {label : String} {v : RemoteVolume}
    (h : m.labelled? label = some v) : v ∈ m.volumes ∧ v.label = label :=
  ⟨List.mem_of_find?_eq_some h, by simpa using List.find?_some h⟩

/-- The only volume with a label is the first one. -/
theorem labelled?_of_unique {m : Memory} {v : RemoteVolume} (hv : v ∈ m.volumes)
    (hu : ∀ w ∈ m.volumes, w.label = v.label → w = v) : m.labelled? v.label = some v := by
  cases hw : m.labelled? v.label with
  | none => exact absurd rfl (labelled?_eq_none_iff.mp hw v hv)
  | some w =>
      obtain ⟨hmem, hlabel⟩ := label_of_labelled? hw
      rw [hu w hmem hlabel]

/-- The first volume with a label is the one with the smallest identifier. -/
theorem Ordered.labelled?_eq_some_iff {m : Memory} (h : m.Ordered) {label : String}
    {u : RemoteVolume} :
    m.labelled? label = some u ↔
      u ∈ m.volumes ∧ u.label = label ∧ ∀ v ∈ m.volumes, v.label = label → u.id ≤ v.id := by
  have hfirst : ∀ {w}, m.labelled? label = some w →
      ∀ v ∈ m.volumes, v.label = label → w.id ≤ v.id := by
    intro w hw v hv hlabel
    obtain ⟨-, before, after, hsplit, hbefore⟩ := List.find?_eq_some_iff_append.mp hw
    have hpair : (before ++ w :: after).Pairwise fun a b => a.id < b.id := hsplit ▸ h
    rw [hsplit, List.mem_append, List.mem_cons] at hv
    rcases hv with hv | rfl | hv
    · exact absurd hlabel (by simpa using hbefore v hv)
    · exact Nat.le_refl _
    · exact Nat.le_of_lt ((List.pairwise_cons.mp (List.pairwise_append.mp hpair).2.1).1 v hv)
  constructor
  · intro hu
    exact ⟨(label_of_labelled? hu).1, (label_of_labelled? hu).2, hfirst hu⟩
  · rintro ⟨hmem, hlabel, hleast⟩
    cases hw : m.labelled? label with
    | none => exact absurd hlabel (labelled?_eq_none_iff.mp hw u hmem)
    | some w =>
        obtain ⟨hw', hwlabel⟩ := label_of_labelled? hw
        have hid := Nat.le_antisymm (hfirst hw u hmem hlabel) (hleast w hw' hwlabel)
        rw [h.eq_of_id hw' hmem hid]

/-- Listings show only what there is. -/
theorem mem_of_mem_page {α : Type} {m : Memory} {label : α → String} {o o' : ListOptions}
    {objects : List α} {a : α} (h : a ∈ (m.page o (m.selected label o' objects)).items) :
    a ∈ objects := by
  have hselected : a ∈ m.selected label o' objects := List.mem_of_mem_drop (List.mem_of_mem_take h)
  unfold selected at hselected
  split at hselected
  · exact hselected
  · split at hselected
    · exact hselected
    · exact (List.mem_filter.mp hselected).1

/-- The first page of the volumes with a label begins with the first of them. -/
theorem find?_page_ofLabel {m : Memory} (h : m.ignoresLabels = false) (label : String) :
    (m.page (.ofLabel label) (m.selected (·.label) (.ofLabel label) m.volumes)).items.find?
      (·.label = label) = m.labelled? label := by
  have hpos : ∃ n, max 1 m.pageSize = n + 1 := ⟨max 1 m.pageSize - 1, by omega⟩
  obtain ⟨n, hn⟩ := hpos
  have hfirst : m.labelled? label = (m.volumes.filter (·.label = label)).head? :=
    (List.head?_filter ..).symm
  simp only [page, selected, ListOptions.ofLabel, h, hfirst, Option.getD_none, hn]
  cases hl : m.volumes.filter (·.label = label) with
  | nil => simp
  | cons v rest =>
      have hv : v ∈ m.volumes.filter (·.label = label) := by simp [hl]
      have hlabel : v.label = label := by simpa using (List.mem_filter.mp hv).2
      simp [hlabel]

/-- A volume that keeps its label stays the first one with it. -/
theorem Ordered.labelled?_putVolume {m : Memory} (h : m.Ordered) {label : String}
    {u v : RemoteVolume} (hu : m.labelled? label = some u) (hid : v.id = u.id)
    (hlabel : v.label = label) : (m.putVolume v).labelled? label = some v := by
  obtain ⟨-, before, after, hsplit, hbefore⟩ := List.find?_eq_some_iff_append.mp hu
  have hold : m.volume? v.id = some u :=
    (volume?_eq_some_iff h).mpr ⟨(label_of_labelled? hu).1, hid.symm⟩
  have hkeep : ∀ x ∈ before, (if x.id = v.id then v else x) = x := by
    intro x hx
    have hlt : x.id < u.id := by
      have hpair : (before ++ u :: after).Pairwise fun a b => a.id < b.id := hsplit ▸ h
      exact (List.pairwise_append.mp hpair).2.2 x hx u (by simp)
    exact if_neg (by omega)
  unfold labelled?
  rw [h.putVolume_eq_map hold, hsplit, List.map_append, List.map_cons, if_pos hid.symm,
    List.map_congr_left hkeep, List.map_id']
  exact List.find?_eq_some_iff_append.mpr ⟨by simpa using hlabel, before, _, rfl, hbefore⟩

/-! ## New volumes -/

def blank (m : Memory) (o : CreateOptions) (id : Nat) : RemoteVolume :=
  { id := id, label := o.label, size := o.size, region := o.region, status := m.initialStatus,
    attachment := none, devicePath := devicePath o.label, tags := o.tags }

def copy (m : Memory) (source : RemoteVolume) (label : String) (id : Nat) : RemoteVolume :=
  { source with
    id := id, label := label, status := m.initialStatus, attachment := none,
    devicePath := devicePath label }

theorem newId_lt (m : Memory) : m.newId < Text.wordBound :=
  Nat.mod_lt _ (by decide)

theorem newId_le (m : Memory) : m.newId ≤ m.nextId :=
  Nat.mod_le _ _

/-- Before identifiers begin anew the counter is one of them. -/
theorem newId_of_lt {m : Memory} (h : m.nextId < Text.wordBound) : m.newId = m.nextId :=
  Nat.mod_eq_of_lt h

theorem createVolume_eq (m : Memory) (o : CreateOptions) :
    m.createVolume o = (.ok (m.blank o m.newId), (m.addVolume (m.blank o)).2) := rfl

theorem cloneVolume_eq {m : Memory} {id : Nat} {source : RemoteVolume}
    (h : m.volume? id = some source) (label : String) :
    m.cloneVolume id label =
      (.ok (m.copy source label m.newId), (m.addVolume (m.copy source label)).2) := by
  unfold cloneVolume
  rw [h]
  rfl

/-- A new volume is the first one with its label, if the label is new. -/
theorem Ordered.labelled?_addVolume {m : Memory} (h : m.Ordered) (make : Nat → RemoteVolume)
    (hnew : m.labelled? (make m.newId).label = none) :
    (m.addVolume make).2.labelled? (make m.newId).label = some (make m.newId) := by
  have hmem := h.mem_putVolume (make m.newId)
  refine labelled?_of_unique (m := (m.addVolume make).2) ((hmem _).mpr (.inl rfl)) ?_
  intro v hv hlabel
  rcases (hmem v).mp hv with rfl | ⟨hv, -⟩
  · rfl
  · exact absurd hlabel (labelled?_eq_none_iff.mp hnew v hv)

/-! ## Reads -/

/-- The volume when what was going on with it is over. -/
def settle (v : RemoteVolume) : RemoteVolume :=
  { v with status := settled v.status }

/-- The volume after a while in which some volumes were read. -/
def reread (read : Nat → Bool) (v : RemoteVolume) : RemoteVolume :=
  if read v.id then settle v else v

/-- Nothing but reads leads from one state to the other. -/
def Observed (m m' : Memory) : Prop :=
  ∃ (read : Nat → Bool) (hidden : Nat),
    m' = { m with volumes := m.volumes.map (reread read), hiddenReads := hidden }

/-- What a read shows of a volume: all of it, or all but the attachment. -/
def Shown (v w : RemoteVolume) : Prop :=
  v = w ∨ v = { w with attachment := none }

/-- What does not look at the attachment is shown as it is. -/
theorem Shown.congr {β : Type} {v w : RemoteVolume} (h : Shown v w) {f : RemoteVolume → β}
    (hf : ∀ u, f { u with attachment := none } = f u) : f v = f w := by
  rcases h with rfl | rfl
  · rfl
  · exact hf w

theorem reread_eq_or (read : Nat → Bool) (v : RemoteVolume) :
    reread read v = v ∨ reread read v = settle v := by
  unfold reread
  split
  · exact .inr rfl
  · exact .inl rfl

/-- What does not look at the status is the same after a reread. -/
theorem reread_congr {β : Type} {f : RemoteVolume → β} (hf : ∀ v, f (settle v) = f v)
    (read : Nat → Bool) (v : RemoteVolume) : f (reread read v) = f v := by
  rcases reread_eq_or read v with h | h
  · rw [h]
  · rw [h, hf]

@[simp] theorem reread_id (read : Nat → Bool) (v : RemoteVolume) : (reread read v).id = v.id :=
  reread_congr (fun _ => rfl) read v

@[simp] theorem reread_label (read : Nat → Bool) (v : RemoteVolume) :
    (reread read v).label = v.label :=
  reread_congr (fun _ => rfl) read v

@[simp] theorem reread_size (read : Nat → Bool) (v : RemoteVolume) :
    (reread read v).size = v.size :=
  reread_congr (fun _ => rfl) read v

@[simp] theorem reread_region (read : Nat → Bool) (v : RemoteVolume) :
    (reread read v).region = v.region :=
  reread_congr (fun _ => rfl) read v

@[simp] theorem reread_attachment (read : Nat → Bool) (v : RemoteVolume) :
    (reread read v).attachment = v.attachment :=
  reread_congr (fun _ => rfl) read v

@[simp] theorem settle_settle (v : RemoteVolume) : settle (settle v) = settle v := by
  cases v with
  | mk id label size region status => cases status <;> rfl

@[simp] theorem settle_reread (read : Nat → Bool) (v : RemoteVolume) :
    settle (reread read v) = settle v :=
  reread_congr settle_settle read v

theorem reread_reread (first second : Nat → Bool) (v : RemoteVolume) :
    reread second (reread first v) = reread (fun id => first id || second id) v := by
  by_cases h₁ : first v.id
  · by_cases h₂ : second v.id
    · have hid : (settle v).id = v.id := rfl
      simp [reread, h₁, h₂, hid]
    · have hid : (settle v).id = v.id := rfl
      simp [reread, h₁, h₂, hid]
  · simp [reread, h₁]

theorem Ordered.putVolume_settle {m : Memory} (h : m.Ordered) {v : RemoteVolume}
    (hv : m.volume? v.id = some v) :
    (m.putVolume (settle v)).volumes = m.volumes.map (reread fun id => id = v.id) := by
  rw [h.putVolume_eq_map (v := settle v) hv]
  apply List.map_congr_left
  intro w hw
  have hmem := ((volume?_eq_some_iff h).mp hv).1
  by_cases hid : w.id = v.id
  · simp [reread, settle, h.eq_of_id hw hmem hid]
  · simp [reread, settle, hid]

/-- A volume as the next read shows it. -/
def showing (m : Memory) (v : RemoteVolume) : RemoteVolume :=
  if 0 < m.hiddenReads then { v with attachment := none } else v

/-- The provider after the next read, if that is a read of a volume that it has. -/
def afterRead (m : Memory) (v : RemoteVolume) : Memory :=
  { m.putVolume (settle v) with hiddenReads := m.hiddenReads - 1 }

theorem getVolume_eq {m : Memory} {id : Nat} {v : RemoteVolume} (hv : m.volume? id = some v) :
    m.getVolume id = (.ok (m.showing v), m.afterRead v) := by
  simp [getVolume, hv, showing, afterRead, settle]

theorem getVolume_absent {m : Memory} {id : Nat} (hv : m.volume? id = none) :
    m.getVolume id = (.error (noVolume id), m) := by
  simp [getVolume, hv]

/-- An attachment that is shown is there, and none is hidden. -/
theorem showing_attachment_eq_some_iff (m : Memory) (v : RemoteVolume) (target : Nat) :
    (m.showing v).attachment = some target ↔
      m.hiddenReads = 0 ∧ v.attachment = some target := by
  by_cases h : 0 < m.hiddenReads
  · have hne : m.hiddenReads ≠ 0 := by omega
    simp [showing, h, hne]
  · have heq : m.hiddenReads = 0 := by omega
    simp [showing, heq]

theorem volume?_afterRead (m : Memory) (v : RemoteVolume) :
    (m.afterRead v).volume? v.id = some (settle v) :=
  (volume?_putVolume m (settle v) v.id).trans (if_pos rfl)

theorem Ordered.afterRead {m : Memory} (h : m.Ordered) (v : RemoteVolume) :
    (m.afterRead v).Ordered :=
  h.putVolume (settle v)

/-- Reading a settled volume uses up a hidden read at most. -/
theorem Ordered.afterRead_of_settled {m : Memory} (h : m.Ordered) {v : RemoteVolume}
    (hv : m.volume? v.id = some v) (hsettled : settle v = v) :
    m.afterRead v = { m with hiddenReads := m.hiddenReads - 1 } := by
  have hkeep : ∀ w ∈ m.volumes, reread (fun id => id = v.id) w = w := by
    intro w hw
    by_cases hid : w.id = v.id
    · obtain rfl := h.eq_of_id hw ((volume?_eq_some_iff h).mp hv).1 hid
      simp [reread, hsettled]
    · simp [reread, hid]
  have hsame : (m.putVolume (settle v)).volumes = m.volumes := by
    rw [h.putVolume_settle hv, List.map_congr_left hkeep, List.map_id']
  exact congrArg (fun volumes => { m with volumes := volumes, hiddenReads := m.hiddenReads - 1 })
    hsame

namespace Observed

theorem refl (m : Memory) : Observed m m := by
  have hid : reread (fun _ => false) = id := rfl
  exact ⟨fun _ => false, m.hiddenReads, by rw [hid, List.map_id]⟩

theorem trans {a b c : Memory} (h : Observed a b) (h' : Observed b c) : Observed a c := by
  obtain ⟨first, n, rfl⟩ := h
  obtain ⟨second, k, rfl⟩ := h'
  refine ⟨fun id => first id || second id, k, ?_⟩
  simp [Function.comp_def, reread_reread]

/-- Whatever does not look at the status finds the same volume. -/
theorem find? {m m' : Memory} (h : Observed m m') {p : RemoteVolume → Bool}
    (hp : ∀ v, p (settle v) = p v) :
    ∃ read, m'.volumes.find? p = (m.volumes.find? p).map (reread read) := by
  obtain ⟨read, n, rfl⟩ := h
  refine ⟨read, ?_⟩
  have hsame : p ∘ reread read = p := funext fun v => reread_congr hp read v
  simp only [List.find?_map, hsame]

theorem volume? {m m' : Memory} (h : Observed m m') (id : Nat) :
    ∃ read, m'.volume? id = (m.volume? id).map (reread read) :=
  h.find? fun _ => rfl

theorem labelled? {m m' : Memory} (h : Observed m m') (label : String) :
    ∃ read, m'.labelled? label = (m.labelled? label).map (reread read) :=
  h.find? fun _ => rfl

theorem labelled?_eq_none {m m' : Memory} (h : Observed m m') {label : String}
    (hl : m.labelled? label = none) : m'.labelled? label = none := by
  obtain ⟨read, hfind⟩ := h.labelled? label
  rw [hfind, hl]
  rfl

theorem ordered {m m' : Memory} (h : Observed m m') (hm : m.Ordered) : m'.Ordered := by
  obtain ⟨read, n, rfl⟩ := h
  simpa [Ordered, List.pairwise_map] using hm

/-- A volume that has been read is the first one with its label if it was before. -/
theorem labelled?_of_volume? {m m' : Memory} (h : Observed m m') (hm : m.Ordered) {label : String}
    {u w : RemoteVolume} (hu : m.labelled? label = some u) (hw : m'.volume? u.id = some w) :
    m'.labelled? label = some w ∧ w.id = u.id ∧ w.region = u.region ∧ w.size = u.size := by
  obtain ⟨read, hfirst⟩ := h.labelled? label
  rw [hu, Option.map_some] at hfirst
  have hsame : m'.volume? u.id = some (reread read u) :=
    (volume?_eq_some_iff (h.ordered hm)).mpr ⟨(label_of_labelled? hfirst).1, reread_id read u⟩
  obtain rfl : w = reread read u := Option.some.inj (hw.symm.trans hsame)
  exact ⟨hfirst, by simp, by simp, by simp⟩

theorem getVolume {m : Memory} (h : m.Ordered) (id : Nat) : Observed m (m.getVolume id).2 := by
  cases hv : m.volume? id with
  | none => simpa [Memory.getVolume, hv] using refl m
  | some v =>
      obtain ⟨hmem, rfl⟩ := (volume?_eq_some_iff h).mp hv
      refine ⟨fun i => i = v.id, m.hiddenReads - 1, ?_⟩
      simp only [Memory.getVolume, hv]
      rw [← h.putVolume_settle hv]
      rfl

end Observed

/-- A read that succeeds shows the volume, which has settled afterwards. -/
theorem getVolume_eq_ok {m : Memory} {id : Nat} {v : RemoteVolume}
    (h : (m.getVolume id).1 = .ok v) :
    ∃ w, m.volume? id = some w ∧ Shown v w ∧ (m.getVolume id).2.volume? id = some (settle w) := by
  unfold getVolume at h ⊢
  cases hw : m.volume? id with
  | none => simp [hw] at h
  | some w =>
      refine ⟨w, rfl, ?_, ?_⟩
      · simp only [hw, Except.ok.injEq] at h
        split at h
        · exact .inr h.symm
        · exact .inl h.symm
      · change (m.putVolume (settle w)).volume? id = _
        rw [volume?_putVolume]
        exact if_pos (id_of_volume? hw)

/-! ## The label under an identifier -/

def labelOf? (m : Memory) (id : Nat) : Option String :=
  (m.volume? id).map (·.label)

theorem labelOf?_putVolume (m : Memory) (v : RemoteVolume) :
    (m.putVolume v).labelOf? = Function.update m.labelOf? v.id (some v.label) := by
  funext id
  by_cases h : id = v.id
  · subst h
    simp [labelOf?]
  · have h' : v.id ≠ id := fun heq => h heq.symm
    simp [labelOf?, h, h']

/-- Changing a volume in place is no matter of the labels, if the volume keeps its own. -/
theorem labelOf?_putVolume_of_volume? {m : Memory} {v w : RemoteVolume}
    (hw : m.volume? v.id = some w) (hlabel : v.label = w.label) :
    (m.putVolume v).labelOf? = m.labelOf? := by
  have hold : m.labelOf? v.id = some v.label := by
    rw [labelOf?, hw, hlabel]
    rfl
  rw [labelOf?_putVolume, ← hold, Function.update_eq_self]

theorem labelOf?_addVolume (m : Memory) (make : Nat → RemoteVolume) :
    (m.addVolume make).2.labelOf? =
      Function.update m.labelOf? (make m.newId).id (some (make m.newId).label) :=
  labelOf?_putVolume m (make m.newId)

theorem Observed.labelOf? {m m' : Memory} (h : Observed m m') : m'.labelOf? = m.labelOf? := by
  funext id
  obtain ⟨read, hread⟩ := h.volume? id
  unfold Memory.labelOf?
  rw [hread]
  cases m.volume? id with
  | none => rfl
  | some v => simp

end Memory

end VolumePlugin.Cloud
