import RouterLayer.Proofs.FileTree.Walk

set_option autoImplicit false

namespace RouterLayer.FileTree

/-- Names point from a place to another one: they lead there in a tree with the same links, in
which directories may be there that are missing in this one. -/
def Points (t : FileTree) (place : Place) (names : List Segment) (q : Place) : Prop :=
  ∃ u, SameLinks t u ∧ Leads u place names q

theorem Leads.points {t : FileTree} {place q : Place} {names : List Segment}
    (h : Leads t place names q) : t.Points place names q := ⟨t, .refl t, h⟩

namespace Points

variable {t u : FileTree} {place q q' : Place} {names : List Segment}

theorem of_sameLinks (h : u.Points place names q) (hlinks : SameLinks t u) :
    t.Points place names q := by
  obtain ⟨v, hv, hleads⟩ := h
  exact ⟨v, hlinks.trans hv, hleads⟩

theorem unique (h : t.Points place names q) (h' : t.Points place names q') : q = q' := by
  obtain ⟨u, hu, hleads⟩ := h
  obtain ⟨v, hv, hleads'⟩ := h'
  exact hleads.unique (hu.symm.trans hv) hleads'

end Points

def OnWay (t : FileTree) (p : Path) (q : Place) : Prop :=
  ∃ names, names <+: namesOf p ∧ t.Points (t.start p) names q

theorem OnWay.of_sameLinks {t u : FileTree} {p : Path} {q : Place} (h : u.OnWay p q)
    (hcwd : u.cwd = t.cwd) (hlinks : SameLinks t u) : t.OnWay p q := by
  obtain ⟨names, hfront, hpoints⟩ := h
  rw [start, hcwd] at hpoints
  exact ⟨names, hfront, hpoints.of_sameLinks hlinks⟩

/-- One tree becomes another one in that directories are made at places that meet a condition. -/
structure Grows (made : Place → Prop) (t u : FileTree) : Prop where
  cwd : u.cwd = t.cwd
  kept : ∀ place entry, t.find? place = some entry → u.find? place = some entry
  fresh : ∀ place entry, t.find? place = none → u.find? place = some entry →
    entry = .directory ∧ made place

namespace Grows

variable {made : Place → Prop} {t u v : FileTree}

theorem refl (t : FileTree) : Grows made t t :=
  ⟨rfl, fun _ _ h => h, fun _ _ h h' => by rw [h] at h'; cases h'⟩

theorem trans (h : Grows made t u) (h' : Grows made u v) : Grows made t v := by
  refine ⟨h'.cwd.trans h.cwd, fun place entry hfind => h'.kept _ _ (h.kept _ _ hfind),
    fun place entry hnone hfind => ?_⟩
  cases hu : u.find? place with
  | none => exact h'.fresh place entry hu hfind
  | some other =>
    have hother := h'.kept place other hu
    rw [hfind] at hother
    cases hother
    exact h.fresh place entry hnone hu

theorem mono {made' : Place → Prop} (h : Grows made t u) (hmade : ∀ q, made q → made' q) :
    Grows made' t u :=
  ⟨h.cwd, h.kept, fun place entry hnone hfind =>
    ⟨(h.fresh place entry hnone hfind).1, hmade place (h.fresh place entry hnone hfind).2⟩⟩

theorem sameLinks (h : Grows made t u) : SameLinks t u := by
  intro place target
  refine ⟨h.kept place _, fun hu => ?_⟩
  cases ht : t.find? place with
  | none => cases (h.fresh place _ ht hu).1
  | some entry => rw [← hu, h.kept place entry ht]

theorem fileAt (h : Grows made t u) (place : Place) : u.fileAt place = t.fileAt place := by
  unfold FileTree.fileAt
  cases ht : t.find? place with
  | some entry => rw [h.kept place entry ht]
  | none =>
    cases hu : u.find? place with
    | none => rfl
    | some entry => rw [(h.fresh place entry ht hu).1]

theorem start (h : Grows made t u) (p : Path) : u.start p = t.start p := by
  rw [FileTree.start, FileTree.start, h.cwd]

theorem onWay (h : Grows made t u) {p : Path} {q : Place} (hq : u.OnWay p q) : t.OnWay p q :=
  hq.of_sameLinks h.cwd h.sameLinks

end Grows

theorem grows_set {t : FileTree} {place : Place} {made : Place → Prop}
    (hfree : t.find? place = none) (hmade : made place) :
    Grows made t (t.set place .directory) := by
  have hne : place ≠ [] := by
    rintro rfl
    cases hfree
  refine ⟨rfl, fun other entry hfind => ?_, fun other entry hnone hfind => ?_⟩
  · rw [find?_set t _ _ hne, if_neg, hfind]
    rintro rfl
    rw [hfree] at hfind
    cases hfind
  · rw [find?_set t _ _ hne] at hfind
    split at hfind
    · next heq =>
      cases hfind
      exact ⟨rfl, heq ▸ hmade⟩
    · rw [hnone] at hfind
      cases hfind

theorem isProper_canonical {name : Segment} (hslash : CodePoint.char '/' ∉ name)
    (hstep : IsStep name.canonical) : isProper name.canonical = true :=
  isProper_iff.mpr ⟨hstep.1, hstep.2.1, hstep.2.2, Text.slash_mem_canonical.not.mpr hslash,
    Text.canonical_canonical name⟩

theorem isDirectory_iff {t : FileTree} {p : Path} : t.isDirectory p = true ↔
    ∃ q, t.locate .target p.text = .ok q ∧ t.find? q = some .directory := by
  unfold isDirectory lookUp
  cases t.locate .target p.text with
  | error e => simp
  | ok q =>
    cases hfind : t.find? q with
    | none => simp [hfind]
    | some entry => cases entry <;> simp [hfind]

section Grows

variable {t u : FileTree} {p : Path}

theorem grows_makeDirectory (h : t.makeDirectory p = .ok u) : Grows (fun _ => True) t u := by
  unfold makeDirectory at h
  split at h
  · cases h
  split at h
  · cases h
  next hfree =>
  cases h
  exact grows_set hfree trivial

theorem grows_ensureDirectory (t : FileTree) (p : Path) :
    Grows (fun _ => True) t (t.ensureDirectory p).tree := by
  unfold ensureDirectory
  split
  · next h => exact grows_makeDirectory h
  · exact .refl t

theorem grows_ensureDirectoriesUp (t : FileTree) (root : Root) (reversed : List Segment) :
    Grows (fun _ => True) t (t.ensureDirectoriesUp root reversed).tree := by
  induction reversed with
  | nil => exact grows_ensureDirectory t _
  | cons name above ih =>
    rw [ensureDirectoriesUp]
    dsimp only
    split
    · split
      · exact ih
      · exact ih.trans (grows_ensureDirectory _ _)
    · exact grows_ensureDirectory t _

theorem grows_ensureDirectories (t : FileTree) (p : Path) :
    Grows (fun _ => True) t (t.ensureDirectories p).tree :=
  grows_ensureDirectoriesUp t p.root p.segments.reverse

end Grows

/-- What making a directory comes to, alone or with all that it lies in: directories on the way of
the path, which leads to the last of them. -/
structure Made (t : FileTree) (p : Path) (u : FileTree) : Prop where
  wellFormed : u.WellFormed
  grows : Grows (t.OnWay p) t u
  leads : ∃ q, Leads u (u.start p) (namesOf p) q ∧ u.find? q = some .directory

section

variable {t u : FileTree} {p : Path} (ht : t.WellFormed) (hp : p.Clean)
include ht hp

theorem makeDirectory_ok (h : t.makeDirectory p = .ok u) : Made t p u := by
  unfold makeDirectory at h
  split at h
  · cases h
  next q hq =>
  split at h
  · cases h
  next hfree =>
  cases h
  obtain ⟨root, segments⟩ := p
  cases segments using List.reverseRecOn with
  | nil =>
    rw [(locate_of_nil hq).2] at hfree
    cases hfree
  | append_singleton init name =>
    obtain ⟨d, hd, hdirectory, hnames⟩ := names_of_locate hp hq
    cases hnames with
    | stay idle => rw [hdirectory] at hfree; cases hfree
    | up hparent => rw [ht.directory_dropLast hdirectory] at hfree; cases hfree
    | enter step =>
      have hproper := isProper_canonical (hp.noSlash name (by simp)) step
      have hset : (t.set (d ++ [name.canonical]) .directory).find? (d ++ [name.canonical]) =
          some .directory := by rw [find?_set t _ _ (by simp), if_pos rfl]
      have hgrows (made : Place → Prop) (h : made (d ++ [name.canonical])) :
          Grows made t (t.set (d ++ [name.canonical]) .directory) := grows_set hfree h
      have hleads : Leads (t.set (d ++ [name.canonical]) .directory)
          (t.start ⟨root, init ++ [name]⟩) (namesOf ⟨root, init ++ [name]⟩)
          (d ++ [name.canonical]) := by
        have hkept := (hgrows (fun _ => True) trivial)
        rw [namesOf, List.map_append]
        refine (hd.mono hkept.sameLinks fun p => hkept.kept p _).append ?_
        refine (Names.enter step).leads (hkept.kept _ _ hdirectory) fun target hlink => ?_
        rw [hset] at hlink
        cases hlink
      refine ⟨ht.set hproper hdirectory fun _ => rfl, hgrows _ ⟨_, List.prefix_refl _, ?_⟩,
        _, hleads, hset⟩
      exact hleads.points.of_sameLinks (hgrows (fun _ => True) trivial).sameLinks

theorem ensureDirectory_ok (h : (t.ensureDirectory p).outcome = .ok ()) :
    Made t p (t.ensureDirectory p).tree := by
  unfold ensureDirectory at h ⊢
  cases hmake : t.makeDirectory p with
  | ok u => exact makeDirectory_ok ht hp hmake
  | error e =>
    rw [hmake] at h
    dsimp only at h ⊢
    split at h
    · next hthere =>
      obtain ⟨q, hq, hdirectory⟩ := isDirectory_iff.mp (Bool.and_eq_true_iff.mp hthere).2
      exact ⟨ht, .refl t, q, leads_of_locate hp (by decide) hq, hdirectory⟩
    · cases h

end

theorem Made.trans {t u v : FileTree} {p p' : Path} (h : Made t p u) (h' : Made u p' v)
    (hway : ∀ q, t.OnWay p q → t.OnWay p' q) : Made t p' v :=
  ⟨h'.wellFormed, (h.grows.mono hway).trans (h'.grows.mono fun _ => h.grows.onWay), h'.leads⟩

theorem onWay_append {t : FileTree} {root : Root} {segments rest : List Segment} {q : Place}
    (h : t.OnWay ⟨root, segments⟩ q) : t.OnWay ⟨root, segments ++ rest⟩ q := by
  obtain ⟨names, hfront, hpoints⟩ := h
  refine ⟨names, hfront.trans ?_, hpoints⟩
  rw [namesOf, namesOf, List.map_append]
  exact List.prefix_append _ _

/-- The induction is on the names of the path in reverse, as the directories are made from the last
one up and then, one after the other, down again. -/
theorem ensureDirectoriesUp_ok {t : FileTree} {root : Root} (reversed : List Segment)
    (ht : t.WellFormed) (hp : (Path.mk root reversed.reverse).Clean)
    (h : (t.ensureDirectoriesUp root reversed).outcome = .ok ()) :
    Made t ⟨root, reversed.reverse⟩ (t.ensureDirectoriesUp root reversed).tree := by
  induction reversed with
  | nil => exact ensureDirectory_ok ht hp h
  | cons name above ih =>
    have habove : (Path.mk root above.reverse).Clean := hp.of_subset (by simp)
    rw [ensureDirectoriesUp] at h ⊢
    dsimp only at h ⊢
    split at h
    · cases hparents : (t.ensureDirectoriesUp root above).outcome with
      | error e => rw [hparents] at h; cases h
      | ok _ =>
        rw [hparents] at h
        have hmade := ih habove hparents
        refine hmade.trans (ensureDirectory_ok hmade.wellFormed hp h) fun q hq => ?_
        rw [List.reverse_cons]
        exact onWay_append hq
    · exact ensureDirectory_ok ht hp h

theorem wellFormed_ensureDirectory {t : FileTree} {p : Path} (ht : t.WellFormed) (hp : p.Clean) :
    (t.ensureDirectory p).tree.WellFormed := by
  unfold ensureDirectory
  split
  · next hmake => exact (makeDirectory_ok ht hp hmake).wellFormed
  · exact ht

/-- Also when a directory cannot be made, the tree is one that can be. -/
theorem wellFormed_ensureDirectories {t : FileTree} {p : Path} (ht : t.WellFormed) (hp : p.Clean) :
    (t.ensureDirectories p).tree.WellFormed := by
  have hup (reversed : List Segment) (hreversed : (Path.mk p.root reversed.reverse).Clean) :
      (t.ensureDirectoriesUp p.root reversed).tree.WellFormed := by
    induction reversed with
    | nil => exact wellFormed_ensureDirectory ht hreversed
    | cons name above ih =>
      have habove := ih (hreversed.of_subset (by simp))
      rw [ensureDirectoriesUp]
      dsimp only
      split
      · split
        · exact habove
        · exact wellFormed_ensureDirectory habove hreversed
      · exact wellFormed_ensureDirectory ht hreversed
  exact hup p.segments.reverse (by rwa [List.reverse_reverse])

theorem ensureDirectories_ok {t : FileTree} {p : Path} (ht : t.WellFormed) (hp : p.Clean)
    (h : (t.ensureDirectories p).outcome = .ok ()) : Made t p (t.ensureDirectories p).tree := by
  have hmade := ensureDirectoriesUp_ok p.segments.reverse ht (by rwa [List.reverse_reverse]) h
  rwa [List.reverse_reverse] at hmade

end RouterLayer.FileTree
