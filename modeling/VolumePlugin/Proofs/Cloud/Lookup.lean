import Mathlib.Algebra.Group.Nat.Defs
import VolumePlugin.Cloud.Lookup
import VolumePlugin.Cloud.Memory
import VolumePlugin.Proofs.Prog
import VolumePlugin.Proofs.Text.Unsigned

/-! # Finding the instance of a node

A node knows its instance by a number in a file, or else by its label. In the second case the
instance is looked for on one page of a listing after the other, until it is found or there are no
more pages. -/

namespace VolumePlugin.Cloud

/-! ## The number in the file -/

/-- Whether a file names an instance: it holds the number of the instance, which fits into 64 bits,
and nothing else than blanks around it. -/
def Names (file : Option String) (id : Nat) : Prop :=
  ∃ text, file = some text ∧ Text.Numeral (Text.trim text).toList id ∧ id < 2 ^ 64

theorem idInFile?_eq_some_iff {file : Option String} {id : Nat} :
    idInFile? file = some id ↔ Names file id := by
  have hword : 0 < Text.wordBound := by decide
  cases file with
  | none => simp [idInFile?, Names]
  | some text =>
      have hread : idInFile? (some text) = some id ↔
          Text.readUnsigned Text.wordBound (Text.trim text).toList = .ok id := by
        cases hnumber : Text.readUnsigned Text.wordBound (Text.trim text).toList with
        | ok n => simp [idInFile?, hnumber]
        | error e => simp [idInFile?, hnumber]
      rw [hread, Text.readUnsigned_eq_ok_iff hword]
      constructor
      · exact fun h => ⟨text, rfl, h⟩
      · rintro ⟨_, ⟨⟩, h⟩
        exact h

theorem idInFile?_eq_none {file : Option String} (h : ∀ id, ¬ Names file id) :
    idInFile? file = none :=
  Option.eq_none_iff_forall_ne_some.mpr fun id hid => h id (idInFile?_eq_some_iff.mp hid)

/-! ## The pages of a listing -/

/-- The call for a page of the instances with a label. -/
def pageCall (label : String) (page : Nat) : Call :=
  .listInstances { page := page, label := some label }

/-- A provider whose answers for the instances with a label are the pages of one listing, for as
long as a condition on its state holds, which asking for a page does not change. -/
structure Serves {σ : Type} (answer : (c : Call) → σ → c.Answer × σ) (label : String)
    (pages : List (List Instance)) (holds : σ → Prop) : Prop where
  page {k : Nat} {s : σ} (hs : holds s) (hk : k < max 1 pages.length) :
    (answer (pageCall label (k + 1)) s).1 = .ok ⟨pages.getD k [], k + 1, pages.length⟩
  keeps {k : Nat} {s : σ} (hs : holds s) (hk : k < max 1 pages.length) :
    holds (answer (pageCall label (k + 1)) s).2

/-- The first of some instances that has a label. -/
def firstLabelled (label : String) (instances : List Instance) : Except CloudError Instance :=
  match instances.find? (·.label = label) with
  | some found => .ok found
  | none => .error (noInstanceWithLabel label)

section FirstLabelled

variable {label : String} {l : List Instance}

theorem firstLabelled_eq_ok_iff {i : Instance} :
    firstLabelled label l = .ok i ↔ l.find? (·.label = label) = some i := by
  unfold firstLabelled
  cases l.find? (·.label = label) <;> simp

theorem firstLabelled_eq_notFound_iff :
    (∃ text, firstLabelled label l = .error (.notFound text)) ↔ ∀ i ∈ l, i.label ≠ label := by
  unfold firstLabelled
  cases hfound : l.find? (·.label = label) with
  | some i =>
      have hlabel : i.label = label := by simpa using List.find?_some hfound
      simpa using ⟨i, List.mem_of_find?_eq_some hfound, hlabel⟩
  | none =>
      have hnone : ∀ i ∈ l, i.label ≠ label := by simpa using List.find?_eq_none.mp hfound
      exact ⟨fun _ => hnone, fun _ => ⟨_, rfl⟩⟩

end FirstLabelled

theorem firstLabelled_append (label : String) (front rest : List Instance) :
    firstLabelled label (front ++ rest) =
      match front.find? (·.label = label) with
      | some found => .ok found
      | none => firstLabelled label rest := by
  unfold firstLabelled
  rw [List.find?_append]
  cases front.find? (·.label = label) <;> rfl

theorem flatten_drop {α : Type} (pages : List (List α)) (k : Nat) :
    (pages.drop k).flatten = pages.getD k [] ++ (pages.drop (k + 1)).flatten := by
  by_cases hk : k < pages.length
  · rw [List.drop_eq_getElem_cons hk, List.flatten_cons, List.getD_eq_getElem?_getD,
      List.getElem?_eq_getElem hk, Option.getD_some]
  · have hend : pages.length ≤ k := Nat.le_of_not_lt hk
    simp [List.drop_of_length_le hend, List.drop_of_length_le (Nat.le_succ_of_le hend),
      List.getD_eq_getElem?_getD, hend]

/-! ## The search -/

/-- What a search does with the answer to the call for a page. -/
theorem searchInstance_succ (label : String) (fuel : Nat) (options : ListOptions) :
    (searchInstance label (fuel + 1) options).run =
      .ask (A := Call.Answer) (.listInstances options) fun
        | .error e => .done (.error e)
        | .ok page =>
          match page.next with
          | .error e => .done (.error e)
          | .ok next =>
            match page.items.find? (·.label = label) with
            | some found => .done (.ok found)
            | none =>
              match next with
              | some n => (searchInstance label fuel { options with page := n }).run
              | none => .done (.error (noInstanceWithLabel label)) := by
  rw [searchInstance]
  unfold call
  change Prog.ask _ _ = _
  congr 1
  funext reply
  cases reply with
  | error e => rfl
  | ok page =>
      dsimp only [Prog.done_bind, ExceptT.bindCont]
      cases page.next with
      | error e => rfl
      | ok next =>
          change (match page.items.find? (·.label = label) with
            | some found => pure found
            | none => match next with
              | some n => searchInstance label fuel { options with page := n }
              | none => throw (noInstanceWithLabel label) : Calls CloudError Instance).run = _
          cases page.items.find? (·.label = label) with
          | some found => rfl
          | none => cases next <;> rfl

/-- How a search goes on after a page. -/
def onward (label : String) (pages : List (List Instance)) (fuel k : Nat) :
    Prog Call.Answer (Except CloudError Instance) :=
  match (pages.getD k []).find? (·.label = label) with
  | some found => .done (.ok found)
  | none =>
    if k + 1 < pages.length then
      (searchInstance label fuel { page := k + 2, label := some label }).run
    else .done (.error (noInstanceWithLabel label))

section Searching

variable {σ : Type} {answer : (c : Call) → σ → c.Answer × σ} {label : String}
  {pages : List (List Instance)} {holds : σ → Prop} (hserves : Serves answer label pages holds)
  (hcount : pages.length < 2 ^ 32 - 1)

include hserves hcount

theorem searchInstance_page {k : Nat} {s : σ} (hs : holds s) (hk : k < max 1 pages.length)
    (fuel : Nat) :
    let search := (searchInstance label (fuel + 1) { page := k + 1, label := some label }).run
    let s' := (answer (pageCall label (k + 1)) s).2
    search.run answer s = (onward label pages fuel k).run answer s' ∧
      search.asked answer s =
        pageCall label (k + 1) :: (onward label pages fuel k).asked answer s' := by
  intro search s'
  have hnext : (⟨pages.getD k [], k + 1, pages.length⟩ : Page Instance).next =
      .ok (if k + 1 < pages.length then some (k + 2) else none) :=
    Page.next_of_lt (by unfold Text.halfWordBound; dsimp only; omega)
  have hsearch : search = .ask (A := Call.Answer) (pageCall label (k + 1)) _ :=
    searchInstance_succ label fuel _
  rw [hsearch]
  simp only [Prog.run, Prog.asked]
  rw [hserves.page hs hk]
  dsimp only
  rw [hnext]
  dsimp only
  unfold onward
  cases (pages.getD k []).find? (·.label = label) with
  | some found => exact ⟨rfl, rfl⟩
  | none =>
      by_cases hmore : k + 1 < pages.length
      · rw [if_pos hmore, if_pos hmore]
        exact ⟨rfl, rfl⟩
      · rw [if_neg hmore, if_neg hmore]
        exact ⟨rfl, rfl⟩

/-- From a page on, a search finds what there is on this page and those that follow. The induction
is on the number of pages that follow. -/
theorem searchInstance_spec (left : Nat) :
    ∀ (k fuel : Nat) (s : σ), holds s → k + 1 + left = max 1 pages.length → left < fuel →
      let search := (searchInstance label fuel { page := k + 1, label := some label }).run
      (search.run answer s).1 = firstLabelled label (pages.drop k).flatten ∧
        ∃ n, n ≤ left + 1 ∧ search.asked answer s = (List.range' (k + 1) n).map (pageCall label) ∧
          ∀ j, k ≤ j → j + 1 < k + n → ∀ i ∈ pages.getD j [], i.label ≠ label := by
  induction left with
  | zero =>
      intro k fuel s hs hk hfuel
      obtain ⟨fuel, rfl⟩ : ∃ rest, fuel = rest + 1 := ⟨fuel - 1, by omega⟩
      obtain ⟨hrun, hasked⟩ := searchInstance_page hserves hcount (k := k) hs (by omega) fuel
      -- On the last page nothing is left to be asked for, found or not.
      have hend : (pages.drop (k + 1)).flatten = [] := by
        rw [List.drop_of_length_le (by omega), List.flatten_nil]
      refine ⟨?_, 1, Nat.le_refl 1, ?_, fun j _ hj => absurd hj (by omega)⟩
      · rw [hrun, flatten_drop, hend, firstLabelled_append, onward, if_neg (by omega)]
        cases (pages.getD k []).find? (·.label = label) <;> rfl
      · rw [hasked, onward, if_neg (by omega)]
        cases (pages.getD k []).find? (·.label = label) <;> rfl
  | succ left ih =>
      intro k fuel s hs hk hfuel
      obtain ⟨fuel, rfl⟩ : ∃ rest, fuel = rest + 1 := ⟨fuel - 1, by omega⟩
      obtain ⟨hrun, hasked⟩ := searchInstance_page hserves hcount (k := k) hs (by omega) fuel
      -- The page is not the last one, so the search goes on unless it ends here.
      have hmore : k + 1 < pages.length := by omega
      dsimp only
      rw [hrun, hasked, flatten_drop, firstLabelled_append, onward, if_pos hmore]
      cases hfound : (pages.getD k []).find? (·.label = label) with
      | some found => exact ⟨rfl, 1, by omega, rfl, fun j _ hj => absurd hj (by omega)⟩
      | none =>
          obtain ⟨hresult, n, hn, hpages, hearlier⟩ := ih (k + 1) fuel _
            (hserves.keeps (k := k) hs (by omega)) (by omega) (by omega)
          refine ⟨hresult, n + 1, by omega, ?_, ?_⟩
          · dsimp only
            rw [hpages, List.range'_succ, List.map_cons]
          · intro j hj hjn
            rcases Nat.eq_or_lt_of_le hj with rfl | hj
            · simpa using List.find?_eq_none.mp hfound
            · exact hearlier j hj (by omega)

end Searching

/-! ## The instance of a node -/

section Nodes

variable {σ : Type} {answer : (c : Call) → σ → c.Answer × σ} {nodeName : String}
  {pages : List (List Instance)} {holds : σ → Prop} {instances : List Instance}

theorem find?_of_listed
    (hlisted : pages.flatten = instances ∨ pages.flatten = instances.filter (·.label = nodeName)) :
    pages.flatten.find? (·.label = nodeName) = instances.find? (·.label = nodeName) := by
  rcases hlisted with hall | hlabelled
  · rw [hall]
  · rw [hlabelled, List.find?_filter]
    simp

/-- A node whose file names no instance is on the first one that has its name as label. Pages are
asked for in order, each of them once, and none after a page that has an instance with the name. A
node whose file names an instance is on that one, and nothing is listed. -/
theorem instance_resolved (hserves : Serves answer nodeName pages holds)
    (hcount : pages.length < 2 ^ 32 - 1)
    (hlisted : pages.flatten = instances ∨ pages.flatten = instances.filter (·.label = nodeName))
    (file : Option String) {s : σ} (hs : holds s) :
    let work := (resolveInstance nodeName file).run
    let result := (work.run answer s).1
    let asked := work.asked answer s
    ((∀ id, ¬ Names file id) →
      (∀ i, result = .ok i ↔ instances.find? (·.label = nodeName) = some i) ∧
      ((∃ text, result = .error (.notFound text)) ↔ ∀ i ∈ instances, i.label ≠ nodeName) ∧
      ∃ n ≤ max 1 pages.length, asked = (List.range' 1 n).map (pageCall nodeName) ∧
        ∀ j, j + 1 < n → ∀ i ∈ pages.getD j [], i.label ≠ nodeName) ∧
    ∀ id, Names file id → asked = [.getInstance id] ∧ result = (answer (.getInstance id) s).1 := by
  intro work result asked
  refine ⟨fun hnone => ?_, fun id hid => ?_⟩
  · have hwork : work = (searchInstance nodeName Text.halfWordBound (.ofLabel nodeName)).run := by
      simp only [work, resolveInstance, idInFile?_eq_none hnone]
    have hfuel : max 1 pages.length - 1 < Text.halfWordBound := by
      unfold Text.halfWordBound
      omega
    obtain ⟨hresult, n, hn, hasked, hearlier⟩ := searchInstance_spec hserves hcount
      (max 1 pages.length - 1) 0 Text.halfWordBound s hs (by omega) hfuel
    have hfound : result = firstLabelled nodeName instances := calc
      result = firstLabelled nodeName pages.flatten := by
        simp only [result, hwork]
        exact hresult
      _ = firstLabelled nodeName instances := by
        unfold firstLabelled
        rw [find?_of_listed hlisted]
    rw [hfound]
    refine ⟨fun _ => firstLabelled_eq_ok_iff, firstLabelled_eq_notFound_iff, n, by omega, ?_,
      fun j hj => hearlier j (Nat.zero_le j) (by omega)⟩
    simp only [asked, hwork]
    exact hasked
  · have hwork : work = Prog.question (A := Call.Answer) (.getInstance id) := by
      simp only [work, resolveInstance, idInFile?_eq_some_iff.mpr hid]
      rfl
    simp only [asked, result, hwork]
    exact ⟨rfl, rfl⟩

end Nodes

/-- A provider that shows one instance on a page, whatever label is asked for. -/
def threeWorkers : Memory where
  instances := [⟨7, "worker-1", "us-east", 16⟩, ⟨8, "worker-2", "us-east", 16⟩,
    ⟨9, "worker-3", "us-east", 16⟩]
  pageSize := 1
  ignoresLabels := true

theorem serves_threeWorkers :
    Serves Memory.answer "worker-2" (threeWorkers.instances.map ([·])) (· = threeWorkers) where
  page := by
    rintro k s rfl hk
    have hthree : k < 3 := hk
    obtain rfl | rfl | rfl : k = 0 ∨ k = 1 ∨ k = 2 := by omega
    all_goals exact congrArg Except.ok (by decide +kernel)
  keeps := by
    rintro k s rfl -
    rfl

/-- The instance of a node is on the second page, and another one is named by a file. -/
theorem instance_resolved_of_workers :
    Serves Memory.answer "worker-2" (threeWorkers.instances.map ([·])) (· = threeWorkers) ∧
      (∀ id, ¬ Names (some "worker-2") id) ∧
      ((resolveInstance "worker-2" (some "worker-2")).run.run Memory.answer threeWorkers).1 =
        .ok ⟨8, "worker-2", "us-east", 16⟩ ∧
      Names (some " +09\n") 9 ∧
      (resolveInstance "worker-2" (some " +09\n")).run.asked Memory.answer threeWorkers =
        [.getInstance 9] := by
  have hnone : ∀ id, ¬ Names (some "worker-2") id := by
    intro id hid
    have hread : idInFile? (some "worker-2") = none := rfl
    cases hread.symm.trans (idInFile?_eq_some_iff.mpr hid)
  have hfile : Names (some " +09\n") 9 := idInFile?_eq_some_iff.mp rfl
  have hresolved := fun file =>
    instance_resolved serves_threeWorkers (by decide) (.inl rfl) file rfl
  obtain ⟨hfound, -, -⟩ := (hresolved (some "worker-2")).1 hnone
  obtain ⟨hasked, -⟩ := (hresolved (some " +09\n")).2 9 hfile
  exact ⟨serves_threeWorkers, hnone, (hfound _).mpr rfl, hfile, hasked⟩

end VolumePlugin.Cloud
