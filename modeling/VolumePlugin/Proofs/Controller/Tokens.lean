import VolumePlugin.Proofs.Controller.Listing

/-! # Numbers of pages

A token names a page, and the answer of the provider says which page it is and how many there are.
From these the token of the page that follows is worked out. All numbers on the way are in range,
but for the one after the greatest number of a page, which is worked out whether or not a page
follows. -/

namespace VolumePlugin.Controller

open Cloud (Memory)

/-! ## The answer for a page -/

/-- The answer to a request for which the provider listed a page. -/
def answerFor (page : Page RemoteVolume) : Except CsiError ListVolumesResponse := do
  let next ← page.next.mapError .cloud
  return { entries := page.items.map listed, nextToken := tokenOfPage next }

theorem listVolumes_eq {req : ListVolumesRequest} {options : ListOptions}
    (h : listOptions req = .ok options) :
    (listVolumes req).run = .ask (A := Query.Answer) (.call (.listVolumes options)) fun reply =>
      .done (reply.mapError .cloud >>= answerFor) := by
  unfold listVolumes
  rw [h]
  change Prog.ask _ _ = _
  congr 1
  funext reply
  cases reply with
  | error e => rfl
  | ok page =>
      have hnext : ∀ next : Except CloudError (Option Nat),
          (do
            let token ← Job.ofExcept (next.mapError CsiError.cloud)
            return { entries := page.items.map listed, nextToken := tokenOfPage token } :
              Job ListVolumesResponse).run =
            .done (do
              let token ← next.mapError CsiError.cloud
              return { entries := page.items.map listed, nextToken := tokenOfPage token }) := by
        intro next
        cases next <;> rfl
      exact hnext page.next

/-- The token after a page: none after the last page, and otherwise the number of a later page. -/
inductive Continues (page pages : Nat) : String → Prop where
  | ends (h : pages ≤ page) : Continues page pages ""
  | goesOn {n : Nat} (hlater : page < n) (hn : n ≤ pages) : Continues page pages (toString n)

section Answers

variable {page : Page RemoteVolume}

theorem answerFor_greatest (h : page.page = Text.halfWordBound - 1) :
    answerFor page = .error (.cloud .pageOverflow) := by
  have hnext : page.next = .error .pageOverflow := by
    unfold Page.next Page.successor?
    rw [h]
    rfl
  rw [answerFor, hnext]
  rfl

theorem exists_answerFor (h : page.page < Text.halfWordBound - 1) :
    ∃ response, answerFor page = .ok response ∧
      Continues page.page page.pages response.nextToken := by
  have hnext : page.next = .ok (if page.page < page.pages then some (page.page + 1) else none) :=
    Page.next_of_lt (by omega)
  refine ⟨_, by rw [answerFor, hnext]; rfl, ?_⟩
  by_cases hmore : page.page < page.pages
  · rw [if_pos hmore]
    exact .goesOn (Nat.lt_succ_self _) hmore
  · rw [if_neg hmore]
    exact .ends (Nat.le_of_not_lt hmore)

end Answers

/-! ## Requests -/

theorem lt_of_pageOfToken {token : String} {page : Nat} (h : pageOfToken token = .ok page) :
    page < Text.halfWordBound := by
  unfold pageOfToken at h
  split at h
  · obtain rfl := Except.ok.inj h
    decide
  · split at h
    · next hread =>
        obtain rfl := Except.ok.inj h
        exact ((Text.readUnsigned_eq_ok_iff (by decide)).mp hread).2
    · cases h

/-- What an accepted request asks the provider for. -/
theorem listOptions_eq_ok {req : ListVolumesRequest} {options : ListOptions}
    (h : listOptions req = .ok options) :
    0 ≤ req.maxEntries ∧ pageOfToken req.startingToken = .ok options.page ∧
      options.pageSize =
        if req.maxEntries.toInt.toNat = 0 then none else some req.maxEntries.toInt.toNat := by
  unfold listOptions at h
  split at h
  · cases h
  · next hentries =>
      obtain ⟨page, hpage, h⟩ := except_bind_eq_ok.mp h
      obtain rfl := Except.ok.inj h
      exact ⟨Int32.not_lt.mp hentries, hpage, rfl⟩

theorem exists_listOptions {n : Nat} (hn : n < Text.halfWordBound) {req : ListVolumesRequest}
    (htoken : req.startingToken = toString n) (hentries : 0 ≤ req.maxEntries) :
    ∃ options, listOptions req = .ok options ∧ options.page = n := by
  have hpage : pageOfToken req.startingToken = .ok n := htoken ▸ pageOfToken_toString hn
  exact ⟨_, listOptions_of_token hentries hpage, rfl⟩

theorem perPage_le {m : Memory} (hsize : m.pageSize ≤ Text.halfWordBound) (n : Int32) :
    perPage m n ≤ Text.halfWordBound := by
  have hword : n.toInt < 0x80000000 := Int32.toInt_lt n
  unfold perPage
  unfold Text.halfWordBound at *
  split <;> omega

/-- The numbers on the way to a page of the provider in memory are in range: that of the first
volume on the page in the list of all, and those of the page and of all pages. -/
structure InRange (m : Memory) (options : ListOptions) (size : Nat) : Prop where
  items : (m.page options m.volumes).items =
    (m.volumes.drop ((max 1 options.page - 1) * size)).take size
  start : (max 1 options.page - 1) * size < Text.wordBound
  page : (m.page options m.volumes).page < Text.halfWordBound
  pages : (m.page options m.volumes).pages < Text.halfWordBound

theorem inRange_of_accepted {req : ListVolumesRequest} {options : ListOptions}
    (h : listOptions req = .ok options) {m : Memory} (hsize : m.pageSize ≤ Text.halfWordBound)
    (hcount : m.volumes.length < Text.halfWordBound) :
    InRange m options (perPage m req.maxEntries) := by
  obtain ⟨-, htoken, hasked⟩ := listOptions_eq_ok h
  have hpage : max 1 options.page < Text.halfWordBound :=
    Nat.max_lt.mpr ⟨by decide, lt_of_pageOfToken htoken⟩
  have hper : max 1 (options.pageSize.getD m.pageSize) = perPage m req.maxEntries := by
    rw [hasked, perPage]
    split <;> rfl
  have hpages : (m.page options m.volumes).pages = pageCount m req.maxEntries := by
    simp only [Memory.page, hper, pageCount]
  refine ⟨?_, ?_, hpage, ?_⟩
  · simp only [Memory.page, hper]
  · calc (max 1 options.page - 1) * perPage m req.maxEntries
        ≤ (max 1 options.page - 1) * Text.halfWordBound :=
          Nat.mul_le_mul_left _ (perPage_le hsize req.maxEntries)
      _ < Text.halfWordBound * Text.halfWordBound :=
          Nat.mul_lt_mul_of_pos_right (by omega) (by decide)
      _ = Text.wordBound := by decide
  · rw [hpages]
    exact Nat.lt_of_le_of_lt (pageCount_le m req.maxEntries)
      (Nat.max_lt.mpr ⟨by decide, hcount⟩)

/-- Every number that a page can have is accepted as a token. The page that is asked for and where
it starts are in range, and from every page that a provider may answer with, the token of the next
page is worked out in range, unless the page has the greatest number there is. -/
theorem page_numbers_in_range (req : ListVolumesRequest) :
    (∀ n < Text.halfWordBound, req.startingToken = toString n → 0 ≤ req.maxEntries →
        ∃ options, listOptions req = .ok options ∧ options.page = n) ∧
      ∀ options, listOptions req = .ok options →
        options.page < Text.halfWordBound ∧
        (∀ m : Memory, m.pageSize ≤ Text.halfWordBound → m.volumes.length < Text.halfWordBound →
          InRange m options (perPage m req.maxEntries)) ∧
        ∀ {σ : Type} (answer : (c : Cloud.Call) → σ → c.Answer × σ) (p : Poller) (t : Timeline)
          (s : σ) (page : Page RemoteVolume), (answer (.listVolumes options) s).1 = .ok page →
          page.page < Text.halfWordBound →
          let result := ((listVolumes req).run.run (answerQuery p answer) (t, s)).1
          (result = .error (.cloud .pageOverflow) ↔ page.page = Text.halfWordBound - 1) ∧
          (page.page ≠ Text.halfWordBound - 1 →
            ∃ response, result = .ok response ∧
              Continues page.page page.pages response.nextToken) := by
  refine ⟨fun n hn htoken hentries => exists_listOptions hn htoken hentries,
    fun options haccepted => ?_⟩
  obtain ⟨-, htoken, -⟩ := listOptions_eq_ok haccepted
  refine ⟨lt_of_pageOfToken htoken,
    fun m hsize hcount => inRange_of_accepted haccepted hsize hcount,
    fun answer p t s page hreply hpage => ?_⟩
  have hresult : ((listVolumes req).run.run (answerQuery p answer) (t, s)).1 = answerFor page := by
    rw [listVolumes_eq haccepted]
    simp only [Prog.run, answerQuery]
    rw [hreply]
    rfl
  rw [hresult]
  by_cases hgreatest : page.page = Text.halfWordBound - 1
  · exact ⟨⟨fun _ => hgreatest, fun _ => answerFor_greatest hgreatest⟩, fun h => absurd hgreatest h⟩
  · have hbelow : page.page < Text.halfWordBound - 1 := by omega
    obtain ⟨response, hresponse, hcontinues⟩ := exists_answerFor hbelow
    refine ⟨⟨fun h => ?_, fun h => absurd h hgreatest⟩, fun _ => ⟨response, hresponse, hcontinues⟩⟩
    cases hresponse.symm.trans h

/-- A provider that has as many pages as there can be, and nothing on them. -/
def emptyPages : (c : Cloud.Call) → Unit → c.Answer × Unit
  | .listVolumes options, s => (.ok ⟨[], options.page, 4294967295⟩, s)
  | _, s => (.error (.transport "connection closed"), s)

/-- From the last page but one, the token leads to the last one. -/
theorem page_numbers_in_range_of_emptyPages :
    listOptions { maxEntries := 5, startingToken := "4294967294" } =
        .ok { page := 4294967294, pageSize := some 5 } ∧
      InRange {} { page := 4294967294, pageSize := some 5 } 5 ∧
      ∃ response,
        ((listVolumes { maxEntries := 5, startingToken := "4294967294" }).run.run
          (answerQuery ⟨10, 100, false, 0⟩ emptyPages) ({}, ())).1 = .ok response ∧
        Continues 4294967294 4294967295 response.nextToken := by
  have haccepted : listOptions { maxEntries := 5, startingToken := "4294967294" } =
      .ok { page := 4294967294, pageSize := some 5 } := rfl
  obtain ⟨-, hinMemory, hlisted⟩ := (page_numbers_in_range _).2 _ haccepted
  have hnext := hlisted emptyPages ⟨10, 100, false, 0⟩ {} () ⟨[], 4294967294, 4294967295⟩ rfl
    (by decide)
  exact ⟨haccepted, hinMemory {} (by decide) (by decide), hnext.2 (by decide)⟩

/-- The number after that of the last page is worked out, though no page follows. -/
theorem greatest_page_overflows :
    pageOfToken "4294967295" = .ok 4294967295 ∧
      ((listVolumes { startingToken := "4294967295" }).run.run
        (answerQuery ⟨10, 100, false, 0⟩ Memory.answer) ({}, {})).1 =
        .error (.cloud .pageOverflow) :=
  ⟨rfl, rfl⟩

end VolumePlugin.Controller
