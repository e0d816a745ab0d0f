import RouterLayer.Proofs.FileTree.Clear
import RouterLayer.Proofs.FileTree.Make
import RouterLayer.Proofs.OrderedMap
import RouterLayer.Sink.Files

/-!
A sink on a tree of files. A reset that succeeds leaves an empty directory where the path of the
sink points (`reset_ok`). As long as no link lies below that place the path goes on pointing there
(`Rooted`), and saving puts the files there that were created, and nothing else
(`saveAll_ok`).
-/

set_option autoImplicit false

namespace RouterLayer.FileTree

/-- What a reset leaves: an empty directory where a path points. Elsewhere all is as it was, except
for directories that were made on the way. -/
structure Emptied (t : FileTree) (root : Path) (place : Place) (u : FileTree) : Prop where
  wellFormed : u.WellFormed
  cwd : u.cwd = t.cwd
  points : t.Points (t.start root) (namesOf root) place
  there : u.find? place = some .directory
  empty : ∀ other, isBelow place other = true → u.find? other = none
  kept : ∀ other entry, isBelow place other = false → t.find? other = some entry →
    u.find? other = some entry
  fresh : ∀ other entry, t.find? other = none → u.find? other = some entry →
    entry = .directory ∧ t.OnWay root other

/-- A path points to a place also when the links that lie below the place are not there. -/
def Steady (t : FileTree) (root : Path) : Prop :=
  ∀ place, t.Points (t.start root) (namesOf root) place →
    (t.unlinkBelow place).Points (t.start root) (namesOf root) place

structure Rooted (t : FileTree) (root : Path) (place : Place) : Prop where
  wellFormed : t.WellFormed
  points : t.Points (t.start root) (namesOf root) place
  there : t.find? place = some .directory
  unlinked : ∀ other target, isBelow place other = true → t.find? other ≠ some (.link target)

/-- A path points to a place below which there are no links. What is there, if anything, is left
open. -/
structure Anchored (t : FileTree) (root : Path) (place : Place) : Prop where
  wellFormed : t.WellFormed
  points : t.Points (t.start root) (namesOf root) place
  unlinked : ∀ other target, isBelow place other = true → t.find? other ≠ some (.link target)

section Rooted

variable {t u : FileTree} {root : Path} {place q : Place}

theorem Rooted.anchored (h : Rooted t root place) : Anchored t root place :=
  ⟨h.wellFormed, h.points, h.unlinked⟩

theorem Anchored.rooted (h : Anchored t root place) {names : List Segment}
    (hthere : t.find? (place ++ names) = some .directory) : Rooted t root place := by
  refine ⟨h.wellFormed, h.points, ?_, h.unlinked⟩
  by_cases hnames : names = []
  · rwa [hnames, List.append_nil] at hthere
  · exact h.wellFormed.directory_of_append hnames hthere

theorem Emptied.sameLinks (h : Emptied t root place u) (ht : t.WellFormed) :
    SameLinks (t.unlinkBelow place) u := by
  intro other target
  rw [ht.find?_unlinkBelow]
  constructor
  · rintro ⟨hlink, hbelow⟩
    exact h.kept other _ (by simpa using hbelow) hlink
  · intro hlink
    have hbelow : isBelow place other = false := by
      rw [← Bool.not_eq_true]
      intro hbelow
      rw [h.empty other hbelow] at hlink
      cases hlink
    refine ⟨?_, fun hboth => by rw [hboth.1] at hbelow; cases hbelow⟩
    cases hother : t.find? other with
    | none => cases (h.fresh other _ hother hlink).1
    | some entry => rw [← hlink, h.kept other entry hbelow hother]

theorem Emptied.start (h : Emptied t root place u) (p : Path) : u.start p = t.start p := by
  rw [FileTree.start, FileTree.start, h.cwd]

theorem Emptied.rooted (h : Emptied t root place u) (ht : t.WellFormed) (hsteady : t.Steady root) :
    Rooted u root place := by
  refine ⟨h.wellFormed, ?_, h.there, fun other target hbelow hlink => ?_⟩
  · rw [h.start]
    exact (hsteady place h.points).of_sameLinks (h.sameLinks ht).symm
  · rw [h.empty other hbelow] at hlink
    cases hlink

theorem steady_of_unlinked (ht : t.WellFormed)
    (hpoints : t.Points (t.start root) (namesOf root) place)
    (hunlinked : ∀ other target, isBelow place other = true →
      t.find? other ≠ some (.link target)) : t.Steady root := by
  intro other hother
  rw [hother.unique hpoints]
  refine hpoints.of_sameLinks fun q target => ?_
  rw [ht.find?_unlinkBelow]
  exact ⟨fun hlink => hlink.1, fun hlink => ⟨hlink, fun hboth => hunlinked q target hboth.1 hlink⟩⟩

theorem Rooted.steady (h : Rooted t root place) : t.Steady root :=
  steady_of_unlinked h.wellFormed h.points h.unlinked

theorem steady_of_locate (hroot : root.Clean) (h : t.locate .target root.text = .ok place)
    (hunlinked : (t.unlinkBelow place).locate .target root.text = .ok place) : t.Steady root := by
  intro other hother
  rw [hother.unique (leads_of_locate hroot (by decide) h).points]
  exact (leads_of_locate hroot (by decide) hunlinked).points

/-- Where there are no links, names that never climb lead where they are resolved to. The stack
holds the names that were entered and not left again. -/
theorem leads_level (hunlinked : ∀ other target, isBelow place other = true →
      t.find? other ≠ some (.link target)) {names stack : List Segment}
    (hnames : ∀ name ∈ names, name = Path.parent ∨ IsStep name) (hstack : Path.parent ∉ stack)
    (hlevel : Path.parent ∉ names.foldl (Path.pushSegment false) stack)
    (h : Leads t (place ++ stack.reverse) names q) :
    q = place ++ (names.foldl (Path.pushSegment false) stack).reverse := by
  induction names generalizing stack with
  | nil =>
    cases h
    rfl
  | cons name rest ih =>
    obtain ⟨hname, hrest⟩ := List.forall_mem_cons.mp hnames
    rw [List.foldl_cons] at hlevel ⊢
    rcases hname with rfl | hstep
    · cases stack with
      | nil => exact absurd (Path.parent_mem_foldl List.mem_cons_self rest) hlevel
      | cons top stack =>
        obtain ⟨htop, hstack⟩ := List.ne_and_not_mem_of_not_mem_cons hstack
        rw [Path.pushSegment_parent_cons (Ne.symm htop)] at hlevel ⊢
        have hnext := h.of_cons.2.1 rfl
        rw [List.reverse_cons, ← List.append_assoc, List.dropLast_concat] at hnext
        exact ih hrest hstack hlevel hnext
    · rw [Path.pushSegment_of_ne hstep.2.2] at hlevel ⊢
      have hnext := (h.of_cons.2.2 hstep).2 fun target => by
        rw [List.append_assoc]
        exact hunlinked _ target (isBelow_append (by simp))
      rw [List.append_assoc, ← List.reverse_cons] at hnext
      exact ih hrest (List.not_mem_cons_of_ne_of_not_mem (Ne.symm hstep.2.2) hstack) hlevel hnext

theorem Anchored.points_level (h : Anchored t root place) {names : List Segment}
    (hnames : ∀ name ∈ names, name = Path.parent ∨ IsStep name)
    (hlevel : Path.parent ∉ Path.resolveSegments false names)
    (hq : t.Points (t.start root) (namesOf root ++ names) q) :
    q = place ++ Path.resolveSegments false names := by
  obtain ⟨v, hlinks, hleads⟩ := hq
  obtain ⟨d, hd, hrest⟩ := hleads.split
  have hplace : d = place := Points.unique ⟨v, hlinks, hd⟩ h.points
  subst hplace
  rw [← List.append_nil d] at hrest
  refine leads_level (fun other target hbelow hlink => ?_) hnames List.not_mem_nil
    (fun hmem => hlevel (List.mem_reverse.mpr hmem)) hrest
  exact h.unlinked other target hbelow ((hlinks other target).mpr hlink)

theorem Anchored.points_below (h : Anchored t root place) {names : List Segment}
    (hnames : ∀ name ∈ names, isProper name = true)
    (hq : t.Points (t.start root) (namesOf root ++ names) q) : q = place ++ names := by
  have hparent : Path.parent ∉ names := fun hmem =>
    not_isStep_parent (isStep_of_isProper (hnames _ hmem))
  have hresolved : Path.resolveSegments false names = names := Path.resolveSegments_names hparent
  have hplace := h.points_level
    (fun name hname => .inr (isStep_of_isProper (hnames name hname)))
    (by rwa [hresolved]) hq
  rwa [hresolved] at hplace

theorem Anchored.of_grows {made : Place → Prop} (h : Anchored t root place) (hu : u.WellFormed)
    (hgrows : Grows made t u) : Anchored u root place := by
  refine ⟨hu, ?_, fun other target hbelow hlink => ?_⟩
  · rw [hgrows.start]
    exact h.points.of_sameLinks hgrows.sameLinks.symm
  · exact h.unlinked other target hbelow ((hgrows.sameLinks other target).mpr hlink)

theorem Rooted.of_grows {made : Place → Prop} (h : Rooted t root place) (hu : u.WellFormed)
    (hgrows : Grows made t u) : Rooted u root place := by
  obtain ⟨-, hpoints, hunlinked⟩ := h.anchored.of_grows hu hgrows
  exact ⟨hu, hpoints, hgrows.kept _ _ h.there, hunlinked⟩

section SetFile

variable {init : List Segment} {last : Segment} (content : String) (h : Rooted t root place)
include h

theorem Rooted.sameLinks_set : SameLinks t (t.set (place ++ (init ++ [last])) (.file content)) := by
  intro other target
  rw [find?_set t _ _ (by simp)]
  split
  · next heq =>
    subst heq
    exact iff_of_false (h.unlinked _ target (isBelow_append (by simp))) nofun
  · exact Iff.rfl

theorem Rooted.set (hlast : isProper last = true)
    (hparent : t.find? (place ++ init) = some .directory)
    (hfree : t.find? (place ++ (init ++ [last])) ≠ some .directory) :
    Rooted (t.set (place ++ (init ++ [last])) (.file content)) root place := by
  have hlinks : SameLinks t (t.set (place ++ (init ++ [last])) (.file content)) :=
    h.sameLinks_set content
  refine ⟨?_, h.points.of_sameLinks hlinks.symm, ?_, fun other target hbelow hlink => ?_⟩
  · rw [← List.append_assoc] at hfree ⊢
    exact h.wellFormed.set hlast hparent fun hdirectory => absurd hdirectory hfree
  · rw [find?_set t _ _ (by simp), if_neg (by simp), h.there]
  · exact h.unlinked other target hbelow ((hlinks other target).mpr hlink)

end SetFile

end Rooted

def isPlain (path : Text) : Bool := (Text.splitAll '/' path).all isProper

/-- A directory that is made while files are written: on the way to the place that they are written
below, or in front of one of them. -/
def MadeFor (t : FileTree) (root : Path) (place : Place) (files : List (Text × Text))
    (other : Place) : Prop :=
  t.OnWay root other ∨
    ∃ f ∈ files, ∃ names, names <+: Text.splitAll '/' f.1 ∧ other = place ++ names

structure Saved (t : FileTree) (root : Path) (place : Place) (files : List (Text × Text))
    (u : FileTree) : Prop where
  rooted : Rooted u root place
  cwd : u.cwd = t.cwd
  links : SameLinks t u
  written : ∀ names, names ≠ [] → (∀ name ∈ names, isProper name = true) →
    u.fileAt (place ++ names) = (OrderedMap.latest? files (Text.joinWith '/' names)).or
      (t.fileAt (place ++ names))
  kept : ∀ other entry, t.find? other = some entry →
    u.find? other = some entry ∨ ∃ f ∈ files, other = place ++ Text.splitAll '/' f.1
  fresh : ∀ other entry, t.find? other = none → u.find? other = some entry →
    entry = .directory ∧ t.MadeFor root place files other ∨
      ∃ f ∈ files, other = place ++ Text.splitAll '/' f.1

namespace Saved

variable {t u v : FileTree} {root : Path} {place : Place} {f : Text × Text}
  {files : List (Text × Text)}

theorem nil (h : Rooted t root place) : Saved t root place [] t :=
  ⟨h, rfl, .refl t, fun _ _ _ => rfl, fun _ _ h => .inl h,
    fun _ _ h h' => by rw [h] at h'; cases h'⟩

theorem madeFor_cons (h : Saved t root place [f] u) {other : Place}
    (hmade : u.MadeFor root place files other) : t.MadeFor root place (f :: files) other := by
  rcases hmade with hway | ⟨g, hg, hnames⟩
  · exact .inl (hway.of_sameLinks h.cwd h.links)
  · exact .inr ⟨g, List.mem_cons_of_mem f hg, hnames⟩

theorem cons (h : Saved t root place [f] u) (h' : Saved u root place files v) :
    Saved t root place (f :: files) v := by
  have hfirst {other : Place} (hf : ∃ g ∈ [f], other = place ++ Text.splitAll '/' g.1) :
      ∃ g ∈ f :: files, other = place ++ Text.splitAll '/' g.1 := by
    obtain ⟨g, hg, hother⟩ := hf
    exact ⟨g, List.mem_singleton.mp hg ▸ List.mem_cons_self, hother⟩
  have hrest {other : Place} (hf : ∃ g ∈ files, other = place ++ Text.splitAll '/' g.1) :
      ∃ g ∈ f :: files, other = place ++ Text.splitAll '/' g.1 := by
    obtain ⟨g, hg, hother⟩ := hf
    exact ⟨g, List.mem_cons_of_mem f hg, hother⟩
  refine ⟨h'.rooted, h'.cwd.trans h.cwd, h.links.trans h'.links, ?_, ?_, ?_⟩
  · intro names hnames hproper
    obtain ⟨key, content⟩ := f
    rw [h'.written names hnames hproper, h.written names hnames hproper,
      OrderedMap.latest?_cons _ key content files, Option.or_assoc]
    rfl
  · intro other entry hother
    rcases h.kept other entry hother with hkept | hf
    · exact (h'.kept other entry hkept).imp_right hrest
    · exact .inr (hfirst hf)
  · intro other entry hnone hother
    cases hmiddle : u.find? other with
    | none =>
      rcases h'.fresh other entry hmiddle hother with ⟨hentry, hmade⟩ | hf
      · exact .inl ⟨hentry, h.madeFor_cons hmade⟩
      · exact .inr (hrest hf)
    | some first =>
      rcases h'.kept other first hmiddle with hkept | hf
      · rcases h.fresh other first hnone hmiddle with ⟨hentry, hmade⟩ | hf
        · rw [hother] at hkept
          cases hkept
          refine .inl ⟨hentry, hmade.imp_right ?_⟩
          rintro ⟨g, hg, hnames⟩
          exact ⟨g, List.mem_singleton.mp hg ▸ List.mem_cons_self, hnames⟩
        · exact .inr (hfirst hf)
      · exact .inr (hrest hf)

end Saved

end RouterLayer.FileTree

namespace RouterLayer.FileSink

open FileTree

theorem reset_ok {s s' : FileSink} {root : Path} (hs : s.tree.WellFormed) (hroot : root.Clean)
    (h : reset root s = ⟨s', .ok ()⟩) :
    s'.pending = [] ∧ ∃ place, Emptied s.tree root place s'.tree := by
  unfold reset at h
  dsimp only at h
  split at h
  · cases h
  next hmade =>
  obtain ⟨hwf, hgrows, place, hleads, hthere⟩ := ensureDirectories_ok hs hroot hmade
  cases hemptied : (s.tree.ensureDirectories root).tree.emptyDirectory root with
  | mk u outcome =>
    rw [hemptied] at h
    cases outcome with
    | error e => cases h
    | ok _ =>
      cases h
      obtain ⟨hu, hcwd, hfind⟩ := emptyDirectory_ok hroot hleads hwf hemptied
      refine ⟨rfl, place, hu, hcwd.trans hgrows.cwd, ?_, ?_, ?_, ?_, ?_⟩
      · rw [← hgrows.start]
        exact hleads.points.of_sameLinks hgrows.sameLinks
      · rw [hfind, isBelow_self]
        exact hthere
      · intro other hbelow
        rw [hfind, if_pos hbelow]
      · intro other entry hbelow hother
        rw [hfind, hbelow]
        exact hgrows.kept other entry hother
      · intro other entry hnone hother
        rw [hfind] at hother
        split at hother
        · cases hother
        · exact hgrows.fresh other entry hnone hother

section Save

variable {t u : FileTree} {root : Path} {place : Place}

theorem pathOf_of_isPlain {path : Text} (hpath : isPlain path = true) :
    pathOf root path = ⟨root.root, root.segments ++ Text.splitAll '/' path⟩ := by
  have hproper := List.all_eq_true.mp hpath
  have hrelative : Path.ofText path = ⟨.none, Text.splitAll '/' path⟩ := by
    have hfilter : (Text.splitAll '/' path).filter Path.isName = Text.splitAll '/' path :=
      List.filter_eq_self.mpr fun name hname => by
        obtain ⟨hnil, hhere, -⟩ := isProper_iff.mp (hproper name hname)
        simp [Path.isName, hnil, hhere]
    have hroot : Path.rootOf path = .none := by
      by_contra hroot
      obtain ⟨rest, rfl⟩ := List.head?_eq_some_iff.mp ((head?_eq_slash path).mpr hroot)
      exact (isProper_iff.mp (hproper [] List.mem_cons_self)).1 rfl
    rw [Path.ofText, hroot, hfilter]
  rw [pathOf, hrelative, Path.join]
  rfl

theorem map_canonical {names : List Segment} (h : ∀ name ∈ names, isProper name = true) :
    names.map Text.canonical = names := by
  conv_rhs => rw [← List.map_id names]
  exact List.map_congr_left fun name hname => (isProper_iff.mp (h name hname)).2.2.2.2

theorem eq_append_of_locate {names : List Segment} {q : Place} (ht : Anchored t root place)
    (hroot : root.Clean) (hnames : ∀ name ∈ names, isProper name = true)
    (h : t.locate .content (Path.mk root.root (root.segments ++ names)).text = .ok q) :
    q = place ++ names := by
  have hleads := leads_of_locate (clean_append hroot hnames) (by decide) h
  refine ht.points_below hnames ?_
  rw [namesOf, List.map_append, map_canonical hnames] at hleads
  exact hleads.points

theorem onWay_below {init : List Segment} (ht : Anchored t root place)
    (hinit : ∀ name ∈ init, isProper name = true) {other : Place}
    (h : t.OnWay ⟨root.root, root.segments ++ init⟩ other) :
    t.OnWay root other ∨ ∃ names, names <+: init ∧ other = place ++ names := by
  obtain ⟨names, hfront, hpoints⟩ := h
  rw [namesOf, List.map_append, map_canonical hinit] at hfront
  rcases List.prefix_or_prefix_of_prefix hfront (List.prefix_append _ init) with h | ⟨rest, rfl⟩
  · exact .inl ⟨names, h, hpoints⟩
  · rw [List.prefix_append_right_inj] at hfront
    exact .inr ⟨rest, hfront,
      ht.points_below (fun name hname => hinit name (hfront.subset hname)) hpoints⟩

theorem madeFor_of_onWay {path content : Text} {init : List Segment} {last : Segment}
    (ht : Anchored t root place) (hsplit : Text.splitAll '/' path = init ++ [last])
    (hinit : ∀ name ∈ init, isProper name = true) {other : Place}
    (h : t.OnWay ⟨root.root, root.segments ++ init⟩ other) :
    t.MadeFor root place [(path, content)] other := by
  refine (onWay_below ht hinit h).imp_right ?_
  rintro ⟨names, hfront, rfl⟩
  exact ⟨_, List.mem_singleton.mpr rfl, names,
    hsplit ▸ hfront.trans (List.prefix_append init [last]), rfl⟩

theorem saved_set {path : Text} {init : List Segment} {last : Segment} (content : String)
    (ht : Anchored t root place) (hu : Rooted u root place)
    (hgrows : Grows (t.OnWay ⟨root.root, root.segments ++ init⟩) t u)
    (hsplit : Text.splitAll '/' path = init ++ [last])
    (hproper : ∀ name ∈ init ++ [last], isProper name = true)
    (hparent : u.find? (place ++ init) = some .directory)
    (hfree : u.find? (place ++ (init ++ [last])) ≠ some .directory) :
    Saved t root place [(path, Text.ofString content)]
      (u.set (place ++ (init ++ [last])) (.file content)) := by
  have hne : place ++ (init ++ [last]) ≠ [] := by simp
  refine ⟨hu.set content (hproper last (by simp)) hparent hfree, hgrows.cwd,
    hgrows.sameLinks.trans (hu.sameLinks_set content), ?_, ?_, ?_⟩
  · intro names hnames hnamesProper
    rw [OrderedMap.latest?_cons, fileAt_set u hne, hgrows.fileAt]
    by_cases heq : names = init ++ [last]
    · rw [if_pos (congrArg (place ++ ·) heq), heq, ← hsplit, Text.joinWith_splitAll, if_pos rfl]
      rfl
    · have hpath : path ≠ Text.joinWith '/' names := by
        rintro rfl
        rw [Text.splitAll_joinWith hnames fun name hname =>
          (isProper_iff.mp (hnamesProper name hname)).2.2.2.1] at hsplit
        exact heq hsplit
      rw [if_neg hpath, if_neg fun h => heq (List.append_cancel_left h)]
      rfl
  · intro other entry hother
    rw [find?_set u _ _ hne]
    by_cases heq : other = place ++ (init ++ [last])
    · exact .inr ⟨_, List.mem_singleton.mpr rfl, by rw [hsplit]; exact heq⟩
    · rw [if_neg heq]
      exact .inl (hgrows.kept other entry hother)
  · intro other entry hnone hother
    rw [find?_set u _ _ hne] at hother
    by_cases heq : other = place ++ (init ++ [last])
    · exact .inr ⟨_, List.mem_singleton.mpr rfl, by rw [hsplit]; exact heq⟩
    · rw [if_neg heq] at hother
      obtain ⟨hentry, hway⟩ := hgrows.fresh other entry hnone hother
      exact .inl ⟨hentry, madeFor_of_onWay ht hsplit
        (fun name hname => hproper name (List.mem_append_left _ hname)) hway⟩

theorem exists_last (root : Path) {path : Text} (hpath : isPlain path = true) :
    ∃ init last, Text.splitAll '/' path = init ++ [last] ∧
      (∀ name ∈ init ++ [last], isProper name = true) ∧
      pathOf root path = ⟨root.root, root.segments ++ init ++ [last]⟩ ∧
      (pathOf root path).enclosing = ⟨root.root, root.segments ++ init⟩ := by
  obtain ⟨init, last, hsplit⟩ :=
    (List.eq_nil_or_concat' (Text.splitAll '/' path)).resolve_left (Text.splitAll_ne_nil '/' path)
  have hpathOf : pathOf root path = ⟨root.root, root.segments ++ init ++ [last]⟩ := by
    rw [pathOf_of_isPlain hpath, hsplit, List.append_assoc]
  refine ⟨init, last, hsplit, hsplit ▸ List.all_eq_true.mp hpath, hpathOf, ?_⟩
  rw [hpathOf, Path.enclosing, List.dropLast_concat]

/-- What writing a file comes to. It fails while the directories in front of the file are made, or
because of what is in its way; or the file is set in the last of these directories, empty if its
content cannot be encoded. -/
theorem writeBelow_cases {path : Text} {init : List Segment} {last : Segment}
    (ht : Anchored t root place) (hroot : root.Clean)
    (hproper : ∀ name ∈ init ++ [last], isProper name = true)
    (hpathOf : pathOf root path = ⟨root.root, root.segments ++ init ++ [last]⟩)
    (henclosing : (pathOf root path).enclosing = ⟨root.root, root.segments ++ init⟩)
    (content : Text) :
    (∃ w e, t.writeBelow (pathOf root path) content = ⟨w, .error e⟩ ∧ w.WellFormed ∧
      Grows (fun _ => True) t w) ∨
    ∃ w, Rooted w root place ∧ Grows (t.OnWay ⟨root.root, root.segments ++ init⟩) t w ∧
      w.find? (place ++ init) = some .directory ∧
      w.find? (place ++ (init ++ [last])) ≠ some .directory ∧
      ((∃ c, content.toString? = some c ∧ t.writeBelow (pathOf root path) content =
          ⟨w.set (place ++ (init ++ [last])) (.file c), .ok ()⟩) ∨
        t.writeBelow (pathOf root path) content =
          ⟨w.set (place ++ (init ++ [last])) (.file ""), .error .unencodable⟩) := by
  have hinit : ∀ name ∈ init, isProper name = true := fun name hname =>
    hproper name (List.mem_append_left _ hname)
  have hclean := clean_append hroot hinit
  rw [writeBelow, henclosing]
  split
  · exact .inl ⟨_, _, rfl, wellFormed_ensureDirectories ht.wellFormed hclean,
      grows_ensureDirectories t _⟩
  next hmade =>
  obtain ⟨hwf, hgrows, d, hd, hparent⟩ := ensureDirectories_ok ht.wellFormed hclean hmade
  generalize (t.ensureDirectories ⟨root.root, root.segments ++ init⟩).tree = w at *
  have hanchored := ht.of_grows hwf hgrows
  rw [namesOf, List.map_append, map_canonical hinit] at hd
  have hd' := hanchored.points_below hinit hd.points
  subst hd'
  have hfails : w.WellFormed ∧ Grows (fun _ => True) t w := ⟨hwf, hgrows.mono fun _ _ => trivial⟩
  unfold write
  cases hlocate : w.locate .content (pathOf root path).text with
  | error e => exact .inl ⟨_, _, rfl, hfails⟩
  | ok q =>
    rw [hpathOf, List.append_assoc] at hlocate
    have hq := eq_append_of_locate hanchored hroot hproper hlocate
    subst hq
    dsimp only
    split
    · exact .inl ⟨_, _, rfl, hfails⟩
    · next c hcontent hfree =>
      exact .inr ⟨w, hanchored.rooted hparent, hgrows, hparent, hfree, .inl ⟨c, hcontent, rfl⟩⟩
    · next hfree => exact .inr ⟨w, hanchored.rooted hparent, hgrows, hparent, hfree, .inr rfl⟩

/-- One file is written. The directories in front of it are made first, so that its place is found
in the last of them. -/
theorem writeBelow_ok {path content : Text} (ht : Anchored t root place) (hroot : root.Clean)
    (hpath : isPlain path = true)
    (h : t.writeBelow (pathOf root path) content = ⟨u, .ok ()⟩) :
    Saved t root place [(path, content)] u := by
  obtain ⟨init, last, hsplit, hproper, hpathOf, henclosing⟩ := exists_last root hpath
  rcases writeBelow_cases ht hroot hproper hpathOf henclosing content with
    ⟨w, e, hfails, -⟩ | ⟨w, hw, hgrows, hparent, hfree, ⟨c, hc, hset⟩ | hfails⟩
  · cases h.symm.trans hfails
  · cases h.symm.trans hset
    rw [Text.toString?_eq_some hc]
    exact saved_set _ ht hw hgrows hsplit hproper hparent hfree
  · cases h.symm.trans hfails

theorem saveAll_ok {files : List (Text × Text)} (ht : Rooted t root place) (hroot : root.Clean)
    (hfiles : ∀ f ∈ files, isPlain f.1 = true) (h : saveAll root t files = ⟨u, .ok ()⟩) :
    Saved t root place files u := by
  induction files generalizing t with
  | nil =>
    cases h
    exact .nil ht
  | cons f rest ih =>
    obtain ⟨hf, hrest⟩ := List.forall_mem_cons.mp hfiles
    obtain ⟨path, content⟩ := f
    rw [saveAll] at h
    cases hwritten : t.writeBelow (pathOf root path) content with
    | mk w outcome =>
      rw [hwritten] at h
      cases outcome with
      | error e => cases h
      | ok _ =>
        have hw := writeBelow_ok ht.anchored hroot hf hwritten
        exact hw.cons (ih hw.rooted hrest h)

theorem save_eq_ok {s s' : FileSink} (h : save root s = ⟨s', .ok ()⟩) :
    s'.pending = [] ∧ saveAll root s.tree s.pending = ⟨s'.tree, .ok ()⟩ := by
  unfold save at h
  cases hall : saveAll root s.tree s.pending with
  | mk u outcome =>
    rw [hall] at h
    cases outcome with
    | error e => cases h
    | ok _ =>
      cases h
      exact ⟨rfl, rfl⟩

end Save

end RouterLayer.FileSink
