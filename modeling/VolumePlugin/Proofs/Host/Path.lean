import Mathlib.Data.List.DropRight
import VolumePlugin.Host.Memory
import VolumePlugin.Proofs.Text.Pieces

/-! # Paths, the paths that hold them, and sets of paths

What holds a path has the first of its components. The text of it is cut off before a slash, so the
start of the path is recognised in it as before. -/

namespace VolumePlugin.Host

namespace Path

/-- Whether a path is a directory or lies in it. -/
def Within (directory path : String) : Prop :=
  components directory <+: components path

instance (directory path : String) : Decidable (Within directory path) :=
  inferInstanceAs (Decidable (components directory <+: components path))

/-! ## The start of a path -/

theorem splitStart_other {text : List Char} (hslash : ∀ rest, text ≠ '/' :: rest)
    (hdot : startsWithDot text = false) : splitStart text = ([], text) := by
  unfold splitStart
  split
  · next rest => exact absurd rfl (hslash rest)
  · simp [hdot]

theorem start_cases (text : List Char) :
    (∃ rest, text = '/' :: rest) ∨ text = ['.'] ∨ (∃ rest, text = '.' :: '/' :: rest) ∨
      (∀ rest, text ≠ '/' :: rest) ∧ startsWithDot text = false := by
  by_cases hslash : ∃ rest, text = '/' :: rest
  · exact .inl hslash
  · have hother : ∀ rest, text ≠ '/' :: rest := fun rest heq => hslash ⟨rest, heq⟩
    cases hdot : startsWithDot text with
    | false => exact .inr (.inr (.inr ⟨hother, rfl⟩))
    | true =>
        unfold startsWithDot at hdot
        split at hdot
        · exact .inr (.inl rfl)
        · next rest => exact .inr (.inr (.inl ⟨rest, rfl⟩))
        · cases hdot

theorem splitStart_append (text : List Char) :
    (splitStart text).1 ++ (splitStart text).2 = text := by
  rcases start_cases text with ⟨rest, rfl⟩ | rfl | ⟨rest, rfl⟩ | ⟨hslash, hdot⟩
  · rfl
  · rfl
  · rfl
  · rw [splitStart_other hslash hdot, List.nil_append]

/-- A path that is cut off before a slash starts as before. -/
theorem splitStart_cut {text joined more : List Char} (hrest : (splitStart text).2 = joined ++ more)
    (hmore : more = [] ∨ ∃ later, more = '/' :: later) :
    splitStart ((splitStart text).1 ++ joined) = ((splitStart text).1, joined) := by
  rcases hmore with rfl | ⟨later, rfl⟩
  · rw [List.append_nil] at hrest
    rw [← hrest, splitStart_append]
  · rcases start_cases text with ⟨rest, rfl⟩ | rfl | ⟨rest, rfl⟩ | ⟨hslash, hdot⟩
    · rfl
    · have hnil : [] = joined ++ '/' :: later := hrest
      simp at hnil
    · have hcut : '/' :: rest = joined ++ '/' :: later := hrest
      cases joined with
      | nil => rfl
      | cons c joined =>
          obtain rfl : '/' = c := (List.cons.inj hcut).1
          rfl
    · rw [splitStart_other hslash hdot] at hrest ⊢
      have htext : text = joined ++ '/' :: later := hrest
      rw [List.nil_append]
      apply splitStart_other
      · intro rest heq
        exact hslash (rest ++ '/' :: later) (by rw [htext, heq, List.cons_append])
      · cases joined with
        | nil => exact absurd htext (hslash later)
        | cons c joined =>
            -- Whether a text starts with a dot is settled by its first two characters.
            rw [htext] at hdot
            cases joined with
            | nil =>
                by_cases hc : c = '.'
                · rw [hc] at hdot
                  cases hdot
                · simp [startsWithDot, hc]
            | cons d joined =>
                by_cases hc : c = '.' ∧ d = '/'
                · rw [hc.1, hc.2] at hdot
                  cases hdot
                · simp only [startsWithDot]
                  split
                  · next heq => simp at heq
                  · next rest heq =>
                      simp only [List.cons.injEq] at heq
                      exact absurd ⟨heq.1, heq.2.1⟩ hc
                  · rfl

/-! ## Joining components -/

theorem intercalate_append {parts : List (List Char)} (hne : parts ≠ [])
    (tail : List (List Char)) :
    ∃ more, ['/'].intercalate (parts ++ tail) = ['/'].intercalate parts ++ more ∧
      (more = [] ∨ ∃ later, more = '/' :: later) := by
  induction parts with
  | nil => exact absurd rfl hne
  | cons p ps ih =>
      cases ps with
      | nil =>
          cases tail with
          | nil => exact ⟨[], by simp, .inl rfl⟩
          | cons t ts =>
              refine ⟨'/' :: ['/'].intercalate (t :: ts), ?_, .inr ⟨_, rfl⟩⟩
              simp [List.intercalate_cons_cons]
      | cons q qs =>
          obtain ⟨more, hmore, hstart⟩ := ih (by simp)
          refine ⟨more, ?_, hstart⟩
          rw [List.cons_append] at hmore
          rw [List.cons_append, List.cons_append, List.intercalate_cons_cons, hmore,
            List.intercalate_cons_cons]
          simp only [List.append_assoc]

/-- The first pieces of a path make a path of their own, with the components that they stand for. -/
theorem components_joined {text : List Char} {parts : List (List Char)}
    (h : parts <+: Text.pieces '/' (splitStart text).2) :
    components (String.ofList ((splitStart text).1 ++ ['/'].intercalate parts)) =
      startComponent (splitStart text).1 ++ parts.filterMap Component.ofSegment? := by
  obtain ⟨tail, htail⟩ := h
  have hrest : (splitStart text).2 = ['/'].intercalate (parts ++ tail) := by
    rw [htail, Text.pieces_eq_splitOn, List.intercalate_splitOn]
  cases parts with
  | nil =>
      have hstart : splitStart ((splitStart text).1 ++ []) = ((splitStart text).1, []) := by
        rcases start_cases text with ⟨rest, rfl⟩ | rfl | ⟨rest, rfl⟩ | ⟨hslash, hdot⟩
        · rfl
        · rfl
        · rfl
        · rw [splitStart_other hslash hdot]
          rfl
      unfold components
      rw [String.toList_ofList, List.intercalate_nil, hstart]
      rfl
  | cons p ps =>
      obtain ⟨more, hmore, hstart⟩ := intercalate_append (List.cons_ne_nil p ps) tail
      have hcut := splitStart_cut (hrest.trans hmore) hstart
      have hparts : ∀ part ∈ p :: ps, '/' ∉ part := by
        intro part hpart
        have hpiece : part ∈ Text.pieces '/' (splitStart text).2 := by
          rw [← htail]
          exact List.mem_append_left tail hpart
        exact Text.not_mem_of_mem_pieces hpiece
      unfold components
      rw [String.toList_ofList, hcut]
      dsimp only
      rw [Text.pieces_intercalate (List.cons_ne_nil p ps) hparts]

/-! ## Paths that hold a path -/

theorem trimSegments_start (segments : List (List Char)) : trimSegments segments <+: segments :=
  List.rdropWhile_prefix _ segments

theorem within_of_parent? {path up : String} (h : parent? path = some up) : Within up path := by
  unfold parent? at h
  dsimp only at h
  unfold Within
  split at h
  · split at h
    · obtain rfl := Option.some.inj h
      exact List.nil_prefix
    · cases h
  · obtain rfl := Option.some.inj h
    have hparts : trimSegments
        (trimSegments (Text.pieces '/' (splitStart path.toList).2)).dropLast <+:
          Text.pieces '/' (splitStart path.toList).2 :=
      (trimSegments_start _).trans ((List.dropLast_prefix _).trans (trimSegments_start _))
    rw [components_joined hparts]
    exact (List.prefix_append_right_inj _).mpr (hparts.filterMap Component.ofSegment?)

theorem filterMap_trimSegments (segments : List (List Char)) :
    (trimSegments segments).filterMap Component.ofSegment? =
      segments.filterMap Component.ofSegment? := by
  induction segments using List.reverseRecOn with
  | nil => rfl
  | append_singleton segments last ih =>
      change (List.rdropWhile _ (segments ++ [last])).filterMap _ = _
      rw [List.rdropWhile_concat]
      split
      · next hnone =>
          rw [List.filterMap_append, List.filterMap_cons_none (Option.isNone_iff_eq_none.mp hnone),
            List.filterMap_nil, List.append_nil]
          exact ih
      · rfl

/-- The last segment that is left stands for a component. -/
theorem exists_last_of_trimSegments {segments : List (List Char)}
    (h : trimSegments segments ≠ []) :
    ∃ last c, trimSegments segments = (trimSegments segments).dropLast ++ [last] ∧
      Component.ofSegment? last = some c := by
  have hlast := List.rdropWhile_last_not (fun s => (Component.ofSegment? s).isNone) segments h
  rw [Option.isNone_iff_eq_none] at hlast
  obtain ⟨c, hc⟩ := Option.ne_none_iff_exists'.mp hlast
  exact ⟨_, c, (List.dropLast_append_getLast h).symm, hc⟩

/-- A path that ends in a name is that name in the path that holds it. -/
theorem components_of_parent? {path up name : String} (hup : parent? path = some up)
    (hname : fileName? path = some name) :
    components path = components up ++ [.named name.toList] := by
  have hpath : components path = startComponent (splitStart path.toList).1 ++
      (trimSegments (Text.pieces '/' (splitStart path.toList).2)).filterMap
        Component.ofSegment? := by
    rw [filterMap_trimSegments]
    rfl
  unfold parent? at hup
  dsimp only at hup
  split at hup
  · next hnone =>
      split at hup
      · next hdot =>
          rw [hnone, hdot] at hpath
          rw [fileName?, hpath] at hname
          cases hname
      · cases hup
  · next hsome =>
      obtain rfl := Option.some.inj hup
      have hparts : trimSegments
          (trimSegments (Text.pieces '/' (splitStart path.toList).2)).dropLast <+:
            Text.pieces '/' (splitStart path.toList).2 :=
        (trimSegments_start _).trans ((List.dropLast_prefix _).trans (trimSegments_start _))
      rw [components_joined hparts, filterMap_trimSegments]
      obtain ⟨last, c, hlast, hc⟩ := exists_last_of_trimSegments hsome
      rw [hlast, List.filterMap_append, List.filterMap_cons_some hc, List.filterMap_nil,
        ← List.append_assoc] at hpath
      rw [fileName?, hpath, List.getLast?_concat] at hname
      cases c with
      | named n =>
          obtain rfl := Option.some.inj hname
          rw [hpath, String.toList_ofList]
      | _ => cases hname

theorem ofSegment?_eq_named {segment name : List Char}
    (h : Component.ofSegment? segment = some (.named name)) : segment = name := by
  unfold Component.ofSegment? at h
  split at h
  · cases h
  · cases h
  · cases h
  · exact Component.named.inj (Option.some.inj h)

/-- Whether a name leads one step down, wherever it stands in a path. -/
structure Step (name : String) : Prop where
  slash : '/' ∉ name.toList
  named : name ∉ ["", ".", ".."]

instance (name : String) : Decidable (Step name) :=
  decidable_of_iff ('/' ∉ name.toList ∧ name ∉ ["", ".", ".."])
    ⟨fun h => ⟨h.1, h.2⟩, fun h => ⟨h.slash, h.named⟩⟩

theorem Step.ofSegment? {name : String} (h : Step name) :
    Component.ofSegment? name.toList = some (.named name.toList) := by
  have hother : ∀ other ∈ ["", ".", ".."], name.toList ≠ other.toList := by
    rintro other hother heq
    rw [String.toList_inj.mp heq] at h
    exact h.named hother
  unfold Component.ofSegment?
  split
  · next heq => exact absurd heq (hother "" (by simp))
  · next heq => exact absurd heq (hother "." (by simp))
  · next heq => exact absurd heq (hother ".." (by simp))
  · rfl

theorem length_startComponent (start : List Char) : (startComponent start).length ≤ 1 := by
  unfold startComponent
  split <;> decide

theorem not_mem_of_fileName? {path name : String} (h : fileName? path = some name) :
    '/' ∉ name.toList := by
  unfold fileName? at h
  split at h
  · next n hlast =>
      obtain rfl := Option.some.inj h
      have hmem : .named n ∈ startComponent (splitStart path.toList).1 ++
          (Text.pieces '/' (splitStart path.toList).2).filterMap Component.ofSegment? :=
        List.mem_of_getLast? hlast
      rcases List.mem_append.mp hmem with hstart | hrest
      · unfold startComponent at hstart
        split at hstart <;> simp at hstart
      · obtain ⟨segment, hsegment, hn⟩ := List.mem_filterMap.mp hrest
        rw [String.toList_ofList, ← ofSegment?_eq_named hn]
        exact Text.not_mem_of_mem_pieces hsegment
  · cases h

/-- A text without slashes has its start and one name at most. -/
theorem length_components_of_not_mem {path : String} (h : '/' ∉ path.toList) :
    (components path).length ≤ 2 := by
  have hrest : '/' ∉ (splitStart path.toList).2 := by
    intro hmem
    apply h
    rw [← splitStart_append path.toList]
    exact List.mem_append_right _ hmem
  have hone : (List.filterMap Component.ofSegment? [(splitStart path.toList).2]).length ≤ 1 :=
    List.length_filterMap_le _ _
  unfold components
  dsimp only
  rw [Text.pieces_of_not_mem hrest, List.length_append]
  exact Nat.add_le_add (length_startComponent _) hone

theorem within_of_mem_ancestorsUpTo {fuel : Nat} {path up : String}
    (h : up ∈ ancestorsUpTo fuel path) : Within up path := by
  induction fuel generalizing path with
  | zero => simp [ancestorsUpTo] at h
  | succ fuel ih =>
      rw [ancestorsUpTo] at h
      rcases List.mem_cons.mp h with rfl | hup
      · exact List.prefix_rfl
      · cases hparent : parent? path with
        | none => simp [hparent] at hup
        | some next =>
            rw [hparent] at hup
            have hnext : Within up next := ih hup
            exact hnext.trans (within_of_parent? hparent)

theorem within_of_mem_ancestors {path up : String} (h : up ∈ ancestors path) : Within up path :=
  within_of_mem_ancestorsUpTo h

end Path

/-! ## Sets of paths -/

namespace PathSet

variable {set : PathSet} {path other : String}

theorem contains_iff :
    set.contains other ↔ ∃ p ∈ set.paths, Path.components p = Path.components other := by
  simp [contains, Path.same]

theorem mem_place {ps : List String} : other ∈ place path ps ↔ other = path ∨ other ∈ ps := by
  induction ps with
  | nil => simp [place]
  | cons p ps ih =>
      unfold place
      by_cases hbefore : Path.before path p
      · simp [hbefore]
      · simp [hbefore, ih, or_left_comm]

theorem contains_insert :
    (set.insert path).contains other ↔
      Path.components path = Path.components other ∨ set.contains other := by
  unfold insert
  by_cases hthere : set.contains path
  · rw [if_pos hthere]
    constructor
    · exact .inr
    · intro h
      rcases h with heq | hother
      · rw [contains_iff] at hthere ⊢
        rw [← heq]
        exact hthere
      · exact hother
  · rw [if_neg hthere, contains_iff, contains_iff]
    simp [mem_place]

theorem contains_erase :
    (set.erase path).contains other ↔
      Path.components path ≠ Path.components other ∧ set.contains other := by
  rw [contains_iff, contains_iff]
  constructor
  · intro h
    obtain ⟨p, hp, heq⟩ := h
    obtain ⟨hp, hne⟩ := List.mem_filter.mp hp
    refine ⟨fun hpath => ?_, p, hp, heq⟩
    simp [Path.same, heq, hpath] at hne
  · intro h
    obtain ⟨hne, p, hp, heq⟩ := h
    refine ⟨p, List.mem_filter.mpr ⟨hp, ?_⟩, heq⟩
    simpa [Path.same, heq] using fun hpath => hne hpath.symm

end PathSet

end VolumePlugin.Host
