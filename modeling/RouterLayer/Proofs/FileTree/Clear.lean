import RouterLayer.Proofs.FileTree.Walk

/-!
Emptying a directory. What a directory holds is removed name by name, and each name is looked for
anew along the path of the directory. When all of them could be removed, nothing is left below the
place that the path led to at first, and all else is as it was (`emptyDirectory_ok`).
-/

set_option autoImplicit false

namespace RouterLayer.FileTree

structure Cleared (t : FileTree) (place : Place) (u : FileTree) : Prop where
  wellFormed : u.WellFormed
  cwd : u.cwd = t.cwd
  find : ∀ other, u.find? other = if isBelow place other then none else t.find? other

theorem WellFormed.nothing_below {t : FileTree} (h : t.WellFormed) {place : Place}
    (hplace : t.find? place ≠ some .directory) (other : Place)
    (hbelow : isBelow place other = true) : t.find? other = none := by
  obtain ⟨names, hnames, rfl⟩ := isBelow_iff.mp hbelow
  by_contra hfind
  obtain ⟨entry, hentry⟩ := Option.ne_none_iff_exists'.mp hfind
  exact hplace (h.directory_of_append hnames hentry)

theorem isPrefix_iff {place other : Place} :
    place <+: other ↔ other = place ∨ isBelow place other = true := by
  rw [isBelow_iff]
  constructor
  · rintro ⟨names, rfl⟩
    by_cases hnames : names = []
    · exact .inl (by rw [hnames, List.append_nil])
    · exact .inr ⟨names, hnames, rfl⟩
  · rintro (rfl | ⟨names, -, rfl⟩)
    · exact List.prefix_refl _
    · exact List.prefix_append _ _

/-- Where nothing lies below a place, forgetting the place forgets all that begins with it. -/
theorem find?_erase_of_empty {t : FileTree} {place : Place} (hplace : place ≠ [])
    (hempty : ∀ other, isBelow place other = true → t.find? other = none) (other : Place) :
    (t.erase place).find? other = if place <+: other then none else t.find? other := by
  rw [find?_erase t _ hplace]
  by_cases heq : other = place
  · rw [if_pos heq, if_pos (isPrefix_iff.mpr (.inl heq))]
  · rw [if_neg heq]
    split
    · next hfront => exact hempty other ((isPrefix_iff.mp hfront).resolve_left heq)
    · rfl

theorem WellFormed.mem_namesIn {t : FileTree} (h : t.WellFormed) {place : Place} {name : Segment} :
    name ∈ t.namesIn place ↔ ∃ entry, t.find? (place ++ [name]) = some entry := by
  rw [namesIn, List.mem_filterMap]
  constructor
  · rintro ⟨⟨other, entry⟩, hmem, hname⟩
    split at hname
    · next hdrop =>
      have hother : other = place ++ [name] := by
        rw [← hdrop]
        exact (List.dropLast_append_getLast? name hname).symm
      exact ⟨entry, (h.find?_eq_some (by simp)).mpr (hother ▸ hmem)⟩
    · cases hname
  · rintro ⟨entry, hentry⟩
    refine ⟨_, (h.find?_eq_some (by simp)).mp hentry, ?_⟩
    simp

theorem WellFormed.proper_of_mem_namesIn {t : FileTree} (h : t.WellFormed) {place : Place}
    {name : Segment} (hname : name ∈ t.namesIn place) : isProper name = true := by
  obtain ⟨entry, hentry⟩ := h.mem_namesIn.mp hname
  exact h.proper_of_find? hentry name (by simp)

structure PartOf (u t : FileTree) : Prop where
  cwd : u.cwd = t.cwd
  find : ∀ place entry, u.find? place = some entry → t.find? place = some entry

theorem PartOf.refl (t : FileTree) : PartOf t t := ⟨rfl, fun _ _ h => h⟩

theorem PartOf.trans {t u v : FileTree} (h : PartOf v u) (h' : PartOf u t) : PartOf v t :=
  ⟨h.cwd.trans h'.cwd, fun place entry hfind => h'.find place entry (h.find place entry hfind)⟩

theorem partOf_clear (t : FileTree) (place : Place) : PartOf (t.clear place) t := by
  refine ⟨rfl, fun other entry hfind => ?_⟩
  rw [find?_clear] at hfind
  split at hfind
  · cases hfind
  · exact hfind

section Remove

variable {t u v : FileTree} {root : Root} {segments : List Segment} {place : Place} {name : Segment}
  (hleads : Leads t (t.start ⟨root, segments⟩) (namesOf ⟨root, segments⟩) place)
  (hpath : (Path.mk root (segments ++ [name])).Clean) (hname : isProper name = true)
include hleads hpath hname

/-- In a part of the tree the path of a directory still leads to the directory, if it leads to one
at all. -/
theorem locate_of_partOf (hpart : PartOf u t) {q : Place}
    (h : u.locate .entry (Path.mk root (segments ++ [name])).text = .ok q) :
    q = place ++ [name] := by
  obtain ⟨d, hd, hdirectory, hnames⟩ := names_of_locate hpath h
  have hstart : u.start ⟨root, []⟩ = t.start ⟨root, segments⟩ := by
    rw [start, start, hpart.cwd]
    rfl
  rw [hstart] at hd
  have hplace := hleads.unique (.refl t) (hd.of_part hdirectory hpart.find)
  rw [(isProper_iff.mp hname).2.2.2.2] at hnames
  cases hnames with
  | stay idle => exact absurd (isStep_of_isProper hname) (not_isStep_of_idle idle)
  | up hparent => exact absurd (hparent ▸ isStep_of_isProper hname) not_isStep_parent
  | enter step => rw [hplace]

theorem remove_ok (hu : u.WellFormed) (hpart : PartOf u t)
    (h : u.remove ⟨root, segments ++ [name]⟩ = ⟨v, .ok ()⟩) :
    v.WellFormed ∧ v.cwd = u.cwd ∧ ∀ other, v.find? other =
      if place ++ [name] <+: other then none else u.find? other := by
  have hne : place ++ [name] ≠ [] := by simp
  unfold remove at h
  cases hlocate : u.locate .entry (Path.mk root (segments ++ [name])).text with
  | error e => rw [hlocate] at h; cases h
  | ok q =>
    have hq := locate_of_partOf hleads hpath hname hpart hlocate
    subst hq
    rw [hlocate] at h
    dsimp only at h
    cases hfind : u.find? (place ++ [name]) with
    | none => rw [hfind] at h; cases h
    | some entry =>
      have herase (hother : entry ≠ .directory) (other : Place)
          (hbelow : isBelow (place ++ [name]) other = true) : u.find? other = none :=
        hu.nothing_below (by rw [hfind]; exact fun h => hother (Option.some.inj h)) other hbelow
      rw [hfind] at h
      cases entry with
      | file content =>
        cases h
        exact ⟨hu.erase (herase nofun), rfl, find?_erase_of_empty hne (herase nofun)⟩
      | link target =>
        cases h
        exact ⟨hu.erase (herase nofun), rfl, find?_erase_of_empty hne (herase nofun)⟩
      | directory =>
        dsimp only at h
        -- the path is followed once more, in the tree without what the directory held
        have hcleared (other : Place) := find?_clear u (place ++ [name]) other
        have hpart' := (partOf_clear u (place ++ [name])).trans hpart
        have hempty (other : Place) (hbelow : isBelow (place ++ [name]) other = true) :
            (u.clear (place ++ [name])).find? other = none := by rw [hcleared, if_pos hbelow]
        cases hagain : (u.clear (place ++ [name])).locate .entry
            (Path.mk root (segments ++ [name])).text with
        | error e => rw [hagain] at h; cases h
        | ok q =>
          have hq := locate_of_partOf hleads hpath hname hpart' hagain
          subst hq
          rw [hagain] at h
          cases h
          refine ⟨(hu.clear _).erase hempty, rfl, fun other => ?_⟩
          rw [find?_erase_of_empty hne hempty, hcleared]
          split
          · rfl
          · next hfront =>
            rw [if_neg fun hbelow => hfront (isPrefix_iff.mpr (.inr hbelow))]

end Remove

section Empty

variable {t u v : FileTree} {root : Root} {segments : List Segment} {place : Place}
  (hpath : (Path.mk root segments).Clean)
  (hleads : Leads t (t.start ⟨root, segments⟩) (namesOf ⟨root, segments⟩) place)
include hpath hleads

theorem removeEach_ok {names : List Segment} (hnames : ∀ name ∈ names, isProper name = true)
    (hu : u.WellFormed) (hpart : PartOf u t)
    (h : u.removeEach ⟨root, segments⟩ names = ⟨v, .ok ()⟩) :
    v.WellFormed ∧ v.cwd = u.cwd ∧ ∀ other, v.find? other =
      if ∃ name ∈ names, place ++ [name] <+: other then none else u.find? other := by
  induction names generalizing u with
  | nil =>
    cases h
    exact ⟨hu, rfl, fun other => by simp⟩
  | cons name rest ih =>
    obtain ⟨hname, hrest⟩ := List.forall_mem_cons.mp hnames
    rw [removeEach] at h
    cases hremoved : u.remove ⟨root, segments ++ [name]⟩ with
    | mk w outcome =>
      rw [hremoved] at h
      cases outcome with
      | error e => cases h
      | ok _ =>
        obtain ⟨hw, hcwd, hfind⟩ := remove_ok hleads
          (clean_append hpath (List.forall_mem_singleton.mpr hname)) hname hu hpart hremoved
        have hpart' : PartOf w t := by
          refine ⟨hcwd.trans hpart.cwd, fun other entry hother => hpart.find other entry ?_⟩
          rw [hfind] at hother
          split at hother
          · cases hother
          · exact hother
        obtain ⟨hv, hcwd', hfind'⟩ := ih hrest hw hpart' h
        refine ⟨hv, hcwd'.trans hcwd, fun other => ?_⟩
        rw [hfind', hfind]
        by_cases hthis : place ++ [name] <+: other <;> simp [hthis]

theorem emptyDirectory_ok (ht : t.WellFormed)
    (h : t.emptyDirectory ⟨root, segments⟩ = ⟨v, .ok ()⟩) : Cleared t place v := by
  unfold emptyDirectory at h
  cases hlocate : t.locate .target (Path.mk root segments).text with
  | error e => rw [hlocate] at h; cases h
  | ok q =>
    have hq := hleads.unique (.refl t) (leads_of_locate hpath (by decide) hlocate)
    subst hq
    rw [hlocate] at h
    obtain ⟨hv, hcwd, hfind⟩ := removeEach_ok hpath hleads (fun _ => ht.proper_of_mem_namesIn) ht
      (.refl t) h
    refine ⟨hv, hcwd, fun other => ?_⟩
    rw [hfind]
    by_cases hbelow : isBelow place other = true
    · rw [if_pos hbelow]
      split
      · rfl
      · next hkept =>
        obtain ⟨names, hnames, rfl⟩ := isBelow_iff.mp hbelow
        obtain ⟨name, rest, rfl⟩ := List.exists_cons_of_ne_nil hnames
        by_contra hother
        obtain ⟨entry, hentry⟩ := Option.ne_none_iff_exists'.mp hother
        refine hkept ⟨name, ht.mem_namesIn.mpr ?_, by simp⟩
        rw [← List.singleton_append, ← List.append_assoc] at hentry
        by_cases hrest : rest = []
        · rw [hrest, List.append_nil] at hentry
          exact ⟨entry, hentry⟩
        · exact ⟨_, ht.directory_of_append hrest hentry⟩
    · rw [if_neg hbelow, if_neg]
      rintro ⟨name, -, names, rfl⟩
      exact hbelow (isBelow_iff.mpr ⟨[name] ++ names, by simp, by simp⟩)

end Empty

end RouterLayer.FileTree
