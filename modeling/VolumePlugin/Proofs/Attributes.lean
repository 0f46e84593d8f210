import VolumePlugin.Attributes
import Mathlib.Tactic.Common

/-! What attributes hold for a name after they were changed. -/

namespace VolumePlugin.Attributes

theorem lookup_cons (n name value : String) (rest : List (String × String)) :
    ((name, value) :: rest).lookup n = if n = name then some value else rest.lookup n := by
  rw [List.lookup_cons]
  by_cases hn : n = name
  · simp [hn]
  · rw [beq_eq_false_iff_ne.mpr hn, if_neg hn]

theorem lookup_put (name value n : String) (entries : List (String × String)) :
    (put name value entries).lookup n = if n = name then some value else entries.lookup n := by
  induction entries with
  | nil => exact lookup_cons n name value []
  | cons e rest ih =>
      obtain ⟨first, v⟩ := e
      rw [put, lookup_cons]
      split
      · next hfirst => rw [lookup_cons, hfirst]; split <;> rfl
      · next hfirst => rw [lookup_cons, ih]; grind

@[simp] theorem get?_empty (n : String) : empty.get? n = none := rfl

theorem get?_insert (m : Attributes) (name value n : String) :
    (m.insert name value).get? n = if n = name then some value else m.get? n :=
  lookup_put name value n m.entries

theorem mem_put {name value : String} {entries : List (String × String)} {e : String × String}
    (h : e ∈ put name value entries) : e = (name, value) ∨ e ∈ entries := by
  induction entries with
  | nil => simpa [put] using h
  | cons first rest ih =>
      rw [put] at h
      split at h <;> grind

theorem mem_foldl_insert {entries : List (String × String)} {start : Attributes}
    {e : String × String}
    (h : e ∈ (entries.foldl (fun acc e => acc.insert e.1 e.2) start).entries) :
    e ∈ entries ∨ e ∈ start.entries := by
  induction entries generalizing start with
  | nil => exact .inr h
  | cons first rest ih =>
      rcases ih h with hrest | hinsert
      · exact .inl (List.mem_cons_of_mem _ hrest)
      · rcases mem_put hinsert with rfl | hstart
        · exact .inl List.mem_cons_self
        · exact .inr hstart

/-- Attributes hold nothing but what was put into them. -/
theorem mem_ofList {entries : List (String × String)} {e : String × String}
    (h : e ∈ (ofList entries).entries) : e ∈ entries :=
  (mem_foldl_insert h).resolve_right List.not_mem_nil

/-! ## Attributes picked out of others -/

/-- The entries that a name adds when it is picked out. -/
theorem get?_foldl_picked (m : Attributes) (names : List String) (start : Attributes) (n : String) :
    ((names.filterMap fun name => (m.get? name).map fun value => (name, value)).foldl
      (fun acc e => acc.insert e.1 e.2) start).get? n =
      if n ∈ names then (m.get? n).orElse fun _ => start.get? n else start.get? n := by
  -- Over the names from the first on: what is picked later does not depend on what was there.
  induction names generalizing start with
  | nil => simp
  | cons name rest ih =>
      cases hname : m.get? name with
      | none =>
          simp only [List.filterMap_cons, hname, Option.map_none, ih, List.mem_cons]
          by_cases hn : n = name <;> by_cases hrest : n ∈ rest <;> simp_all
      | some value =>
          simp only [List.filterMap_cons, hname, Option.map_some, List.foldl_cons, ih,
            get?_insert, List.mem_cons]
          by_cases hn : n = name <;> by_cases hrest : n ∈ rest <;> simp_all

/-- Attributes picked out have the values that they had. -/
theorem get?_restrict (m : Attributes) (names : List String) (n : String) :
    (m.restrict names).get? n = if n ∈ names then m.get? n else none := by
  rw [restrict, ofList, get?_foldl_picked]
  cases m.get? n <;> simp

theorem mem_restrict {m : Attributes} {names : List String} {e : String × String}
    (h : e ∈ (m.restrict names).entries) : e.1 ∈ names ∧ m.get? e.1 = some e.2 := by
  obtain ⟨name, hname, hpicked⟩ := List.mem_filterMap.mp (mem_ofList h)
  obtain ⟨value, hvalue, rfl⟩ := Option.map_eq_some_iff.mp hpicked
  exact ⟨hname, hvalue⟩

end VolumePlugin.Attributes
