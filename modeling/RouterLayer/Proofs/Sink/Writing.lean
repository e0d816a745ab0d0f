import RouterLayer.Proofs.FileTree.Passable
import RouterLayer.Proofs.Sink.Files

set_option autoImplicit false

namespace RouterLayer

namespace FileTree

/-- Files that can be saved where nothing is in their way: the system takes their paths and
contents, the path of the directory does not pass through the place of any of them, and none has to
be a directory for another one. -/
structure Savable (t : FileTree) (root : Path) (place : Place) (files : List (Text × Text)) :
    Prop where
  taken : ∀ f ∈ files, takes (FileSink.pathOf root f.1) = true
  encodable : ∀ f ∈ files, f.2.isEncodable = true
  offWay : ∀ f ∈ files, ¬t.OnWay root (place ++ Text.splitAll '/' f.1)
  apart : ∀ f ∈ files, ∀ g ∈ files, Text.splitAll '/' f.1 <+: Text.splitAll '/' g.1 → f.1 = g.1

/-- Nothing is in the way of files: where one of their directories is needed there is no file, and
where one of them is to be written there is no directory. -/
structure Ready (t : FileTree) (root : Path) (place : Place) (files : List (Text × Text)) :
    Prop where
  anchored : Anchored t root place
  start : t.find? (t.start root) = some .directory
  passable : t.Passable root
  fronts : ∀ f ∈ files, ∀ names content, names <+: (Text.splitAll '/' f.1).dropLast →
    t.find? (place ++ names) ≠ some (.file content)
  free : ∀ f ∈ files, t.find? (place ++ Text.splitAll '/' f.1) ≠ some .directory

theorem fileAt_congr {t u : FileTree} {place : Place}
    (h : ∀ content, u.find? place = some (.file content) ↔ t.find? place = some (.file content)) :
    u.fileAt place = t.fileAt place := by
  unfold fileAt
  split
  · next content hfile => rw [(h content).mp hfile]
  · next hnone =>
    split
    · next content hfile => exact absurd ((h content).mpr hfile) (hnone content)
    · rfl

theorem splitAll_injective {path other : Text}
    (h : Text.splitAll '/' path = Text.splitAll '/' other) : path = other := by
  rw [← Text.joinWith_splitAll '/' path, h, Text.joinWith_splitAll]

structure Spares (t : FileTree) (place : Place) (files : List (Text × Text)) (u : FileTree) :
    Prop where
  cwd : u.cwd = t.cwd
  links : SameLinks t u
  kept : ∀ other entry, (∀ f ∈ files, other ≠ place ++ Text.splitAll '/' f.1) →
    t.find? other = some entry → u.find? other = some entry
  fresh : ∀ other entry, (∀ f ∈ files, other ≠ place ++ Text.splitAll '/' f.1) →
    t.find? other = none → u.find? other = some entry → entry = .directory

namespace Spares

variable {t u v : FileTree} {place other : Place} {files more : List (Text × Text)}

theorem mono (h : Spares t place files u) (hfiles : files ⊆ more) : Spares t place more u :=
  ⟨h.cwd, h.links, fun other entry hother => h.kept other entry fun f hf => hother f (hfiles hf),
    fun other entry hother => h.fresh other entry fun f hf => hother f (hfiles hf)⟩

theorem trans (h : Spares t place files u) (h' : Spares u place files v) :
    Spares t place files v := by
  refine ⟨h'.cwd.trans h.cwd, h.links.trans h'.links,
    fun other entry hother hfind => h'.kept other entry hother (h.kept other entry hother hfind),
    fun other entry hother hnone hfind => ?_⟩
  cases hmiddle : u.find? other with
  | none => exact h'.fresh other entry hother hmiddle hfind
  | some first =>
    have hkept := h'.kept other first hother hmiddle
    rw [hfind] at hkept
    cases hkept
    exact h.fresh other entry hother hnone hmiddle

theorem file_iff (h : Spares t place files u)
    (hother : ∀ f ∈ files, other ≠ place ++ Text.splitAll '/' f.1) {content : String} :
    u.find? other = some (.file content) ↔ t.find? other = some (.file content) := by
  refine ⟨fun hfile => ?_, h.kept other _ hother⟩
  cases hfind : t.find? other with
  | none => cases h.fresh other _ hother hfind hfile
  | some entry => rw [← hfile, h.kept other entry hother hfind]

theorem fileAt (h : Spares t place files u)
    (hother : ∀ f ∈ files, other ≠ place ++ Text.splitAll '/' f.1) :
    u.fileAt other = t.fileAt other :=
  fileAt_congr fun _ => h.file_iff hother

end Spares

section Spares

variable {t u : FileTree} {root : Path} {place : Place} {f : Text × Text}
  {files : List (Text × Text)}

theorem Grows.spares {made : Place → Prop} (h : Grows made t u) : Spares t place files u :=
  ⟨h.cwd, h.sameLinks, fun other entry _ => h.kept other entry,
    fun other entry _ hnone hfind => (h.fresh other entry hnone hfind).1⟩

theorem Saved.spares (h : Saved t root place files u) : Spares t place files u := by
  have hfree {other : Place} (hother : ∀ f ∈ files, other ≠ place ++ Text.splitAll '/' f.1) :
      ¬∃ f ∈ files, other = place ++ Text.splitAll '/' f.1 := fun ⟨f, hf, heq⟩ => hother f hf heq
  exact ⟨h.cwd, h.links,
    fun other entry hother hfind => (h.kept other entry hfind).resolve_right (hfree hother),
    fun other entry hother hnone hfind =>
      ((h.fresh other entry hnone hfind).resolve_right (hfree hother)).1⟩

theorem Saved.of_other {other : Place} {entry : Entry} (h : Saved t root place [f] u)
    (hother : other ≠ place ++ Text.splitAll '/' f.1) (hfind : u.find? other = some entry) :
    t.find? other = some entry ∨ entry = .directory ∧ t.MadeFor root place [f] other := by
  have hfile : ¬∃ g ∈ [f], other = place ++ Text.splitAll '/' g.1 := by
    rintro ⟨g, hg, heq⟩
    cases List.mem_singleton.mp hg
    exact hother heq
  cases ht : t.find? other with
  | none => exact .inr ((h.fresh other entry ht hfind).resolve_right hfile)
  | some kept =>
    have hkept := (h.kept other kept ht).resolve_right hfile
    rw [hfind] at hkept
    exact .inl hkept.symm

theorem Saved.fileAt_of_mem (h : Saved t root place files u)
    (hnodup : (OrderedMap.keys files).Nodup) (hplain : ∀ f ∈ files, isPlain f.1 = true)
    (hf : f ∈ files) : u.fileAt (place ++ Text.splitAll '/' f.1) = some f.2 := by
  rw [h.written _ (Text.splitAll_ne_nil '/' f.1) (List.all_eq_true.mp (hplain f hf)),
    Text.joinWith_splitAll, OrderedMap.latest?_of_nodup hnodup,
    (OrderedMap.find?_eq_some hnodup).mpr hf]
  rfl

theorem spares_set {content : String}
    (hlinks : SameLinks t (t.set (place ++ Text.splitAll '/' f.1) (.file content))) :
    Spares t place [f] (t.set (place ++ Text.splitAll '/' f.1) (.file content)) := by
  have hset {other : Place} (hother : ∀ g ∈ [f], other ≠ place ++ Text.splitAll '/' g.1) :
      (t.set (place ++ Text.splitAll '/' f.1) (.file content)).find? other = t.find? other := by
    rw [find?_set t _ _ (by simp [Text.splitAll_ne_nil]),
      if_neg (hother f (List.mem_singleton_self f))]
  refine ⟨rfl, hlinks, fun other entry hother hfind => by rw [hset hother, hfind],
    fun other entry hother hnone hfind => ?_⟩
  rw [hset hother, hnone] at hfind
  cases hfind

end Spares

section

variable {t u : FileTree} {root : Path} {place : Place} {f : Text × Text}
  {files : List (Text × Text)} {init : List Segment}

theorem Savable.tail (h : Savable t root place (f :: files)) : Savable t root place files :=
  ⟨fun g hg => h.taken g (List.mem_cons_of_mem f hg),
    fun g hg => h.encodable g (List.mem_cons_of_mem f hg),
    fun g hg => h.offWay g (List.mem_cons_of_mem f hg),
    fun g hg g' hg' => h.apart g (List.mem_cons_of_mem f hg) g' (List.mem_cons_of_mem f hg')⟩

theorem Savable.of_sameLinks (h : Savable t root place files) (hcwd : u.cwd = t.cwd)
    (hlinks : SameLinks t u) : Savable u root place files :=
  ⟨h.taken, h.encodable, fun f hf hway => h.offWay f hf (hway.of_sameLinks hcwd hlinks), h.apart⟩

/-- Below the sink's directory there are no links, so only files are in the way of directories. -/
theorem Anchored.passable_below (h : Anchored t root place) (hroot : root.Clean)
    (hpass : t.Passable root) (hinit : ∀ name ∈ init, isProper name = true)
    (hfronts : ∀ names content, names <+: init → t.find? (place ++ names) ≠ some (.file content)) :
    t.Passable ⟨root.root, root.segments ++ init⟩ := by
  refine ⟨fun q content hway => ?_, fun u before last d target hkeeps hfront hd hlink => ?_⟩
  · rcases FileSink.onWay_below h hinit hway with hway | ⟨names, hnames, rfl⟩
    · exact hpass.noFile q content hway
    · exact hfronts names content hnames
  by_cases hown : before ++ [last] <+: root.segments
  · exact hpass.linksLead u before last d target hkeeps hown hd hlink
  -- the link would lie below the place
  obtain ⟨more, hmore⟩ := (List.prefix_or_prefix_of_prefix hfront
    (List.prefix_append root.segments init)).resolve_left hown
  cases more using List.reverseRecOn with
  | nil =>
    rw [List.append_nil] at hmore
    exact absurd (hmore ▸ List.prefix_refl _) hown
  | append_singleton names name =>
    rw [← List.append_assoc] at hmore
    obtain ⟨rfl, hlast⟩ := List.append_inj' hmore rfl
    cases hlast
    rw [List.append_assoc, List.prefix_append_right_inj] at hfront
    have hproper : ∀ name ∈ names, isProper name = true := fun name hname =>
      hinit name (hfront.subset (List.mem_append_left _ hname))
    have hleads := hd.leads (clean_append hroot hproper)
    rw [hkeeps.start, namesOf, List.map_append, FileSink.map_canonical hproper] at hleads
    have hplace := h.points_below hproper (hleads.points.of_sameLinks hkeeps.links)
    rw [hplace, List.append_assoc] at hlink
    exact absurd ((hkeeps.links _ _).mpr hlink)
      (h.unlinked _ target (isBelow_append (by simp)))

end

end FileTree

namespace FileSink

open FileTree

variable {t u : FileTree} {root : Path} {place : Place} {path content : Text}
  {files : List (Text × Text)}

theorem write_returns {p : Path} {q : Place} (hlocate : t.locate .content p.text = .ok q)
    (hfree : t.find? q ≠ some .directory) (hcontent : content.isEncodable = true) :
    ∃ u, t.write p content = ⟨u, .ok ()⟩ := by
  obtain ⟨c, hc⟩ := Text.exists_toString? hcontent
  unfold write
  rw [hlocate, hc]
  dsimp only
  split
  · next hdirectory => exact absurd hdirectory hfree
  · exact ⟨_, rfl⟩
  · next hnone _ => cases hnone

section Returns

variable {f : Text × Text} {init : List Segment} {last : Segment}
  (ht : Ready t root place (f :: files)) (hfiles : Savable t root place (f :: files))
include ht

theorem keeps_of_saved (hsaved : Saved t root place [f] u) : Keeps t u := by
  refine ⟨hsaved.cwd, hsaved.links, fun q hdirectory => ?_⟩
  refine (hsaved.kept q _ hdirectory).resolve_right ?_
  rintro ⟨g, hg, rfl⟩
  cases List.mem_singleton.mp hg
  exact ht.free f List.mem_cons_self hdirectory

include hfiles

theorem free_of_grows (hsplit : Text.splitAll '/' f.1 = init ++ [last])
    (hinit : ∀ name ∈ init, isProper name = true)
    (hgrows : Grows (t.OnWay ⟨root.root, root.segments ++ init⟩) t u) :
    u.find? (place ++ Text.splitAll '/' f.1) ≠ some .directory := by
  intro hdirectory
  cases hfind : t.find? (place ++ Text.splitAll '/' f.1) with
  | some entry =>
    have hkept := hgrows.kept _ _ hfind
    rw [hdirectory] at hkept
    cases hkept
    exact ht.free f List.mem_cons_self hfind
  | none =>
    rcases onWay_below ht.anchored hinit (hgrows.fresh _ _ hfind hdirectory).2 with
      hway | ⟨names, hnames, heq⟩
    · exact hfiles.offWay f List.mem_cons_self hway
    · have hlength := hnames.length_le
      rw [← List.append_cancel_left heq, hsplit, List.length_append, List.length_singleton]
        at hlength
      omega

theorem writeBelow_returns (hroot : root.Clean) (hplain : isPlain f.1 = true) :
    ∃ u, t.writeBelow (pathOf root f.1) f.2 = ⟨u, .ok ()⟩ := by
  have hmem : f ∈ f :: files := List.mem_cons_self
  obtain ⟨init, last, hsplit, hproper, hpathOf, henclosing⟩ := exists_last root hplain
  have hinit : ∀ name ∈ init, isProper name = true := fun name hname =>
    hproper name (List.mem_append_left _ hname)
  have hlast : isProper last = true := hproper last (by simp)
  have htaken := hfiles.taken f hmem
  rw [hpathOf] at htaken
  have hfront : (Path.mk root.root (root.segments ++ init)).Clean := clean_append hroot hinit
  have hclean := clean_append hfront (List.forall_mem_singleton.mpr hlast)
  -- the directories in front of the file are made
  have hpass := ht.anchored.passable_below hroot ht.passable hinit fun names c hnames =>
    ht.fronts f hmem names c (by rwa [hsplit, List.dropLast_concat])
  obtain ⟨w, d, hensure, hw⟩ := ensureDirectories_reaches ht.anchored.wellFormed hfront
    (takes_front hclean htaken) hpass ht.start
  obtain ⟨hwf, hgrows, -⟩ : Made t ⟨root.root, root.segments ++ init⟩ w := by
    have hmade := ensureDirectories_ok ht.anchored.wellFormed hfront (by rw [hensure])
    rwa [hensure] at hmade
  have hanchored := ht.anchored.of_grows hwf hgrows
  have hplace : d = place ++ init := by
    have hleads := hw.leads hfront
    rw [namesOf, List.map_append, map_canonical hinit] at hleads
    exact hanchored.points_below hinit hleads.points
  subst hplace
  -- the file is written in the last of them
  have hfile : place ++ init ++ [last.canonical] = place ++ Text.splitAll '/' f.1 := by
    rw [(isProper_iff.mp hlast).2.2.2.2, hsplit, List.append_assoc]
  have hstep : IsStep last.canonical := by
    rw [(isProper_iff.mp hlast).2.2.2.2]
    exact isStep_of_isProper hlast
  have hlocate := locate_content hclean htaken hw hstep fun target => by
    rw [hfile]
    exact hanchored.unlinked _ target (isBelow_append (Text.splitAll_ne_nil '/' f.1))
  rw [hfile, ← hpathOf] at hlocate
  rw [writeBelow, henclosing, hensure]
  exact write_returns hlocate (free_of_grows ht hfiles hsplit hinit hgrows)
    (hfiles.encodable f hmem)

theorem ready_of_saved (hout : f.1 ∉ OrderedMap.keys files)
    (hsaved : Saved t root place [f] u) : Ready u root place files := by
  have hkeeps := keeps_of_saved ht hsaved
  have hother {g : Text × Text} (hg : g ∈ files) : f.1 ≠ g.1 := fun heq =>
    hout (heq ▸ List.mem_map_of_mem hg)
  have hmem : f ∈ f :: files := List.mem_cons_self
  have hrest {g : Text × Text} (hg : g ∈ files) : g ∈ f :: files := List.mem_cons_of_mem f hg
  refine ⟨hsaved.rooted.anchored, ?_, ?_, ?_, ?_⟩
  · rw [hkeeps.start]
    exact hkeeps.directories _ ht.start
  · refine ht.passable.of_keeps hkeeps fun q c hway hfile => ?_
    rcases hsaved.of_other (fun heq => hfiles.offWay f hmem (heq ▸ hway)) hfile with
      hfile | ⟨hentry, -⟩
    · exact ht.passable.noFile q c hway hfile
    · cases hentry
  · intro g hg names c hnames hfile
    have hne : place ++ names ≠ place ++ Text.splitAll '/' f.1 := by
      intro heq
      rw [List.append_cancel_left heq] at hnames
      exact hother hg (hfiles.apart f hmem g (hrest hg) (hnames.trans (List.dropLast_prefix _)))
    rcases hsaved.of_other hne hfile with hfile | ⟨hentry, -⟩
    · exact ht.fronts g (hrest hg) names c hnames hfile
    · cases hentry
  · intro g hg hdirectory
    have hne : place ++ Text.splitAll '/' g.1 ≠ place ++ Text.splitAll '/' f.1 := by
      intro heq
      have hfront : Text.splitAll '/' f.1 <+: Text.splitAll '/' g.1 :=
        List.append_cancel_left heq ▸ List.prefix_refl _
      exact hother hg (hfiles.apart f hmem g (hrest hg) hfront)
    rcases hsaved.of_other hne hdirectory with
      hdirectory | ⟨-, hway | ⟨f', hf', names, hnames, heq⟩⟩
    · exact ht.free g (hrest hg) hdirectory
    · exact hfiles.offWay g (hrest hg) hway
    · cases List.mem_singleton.mp hf'
      rw [← List.append_cancel_left heq] at hnames
      exact hother hg (hfiles.apart g (hrest hg) f hmem hnames).symm

end Returns

theorem saveAll_returns (hroot : root.Clean) (ht : Ready t root place files)
    (hfiles : Savable t root place files) (hplain : ∀ f ∈ files, isPlain f.1 = true)
    (hnodup : (OrderedMap.keys files).Nodup) : ∃ u, saveAll root t files = ⟨u, .ok ()⟩ := by
  induction files generalizing t with
  | nil => exact ⟨t, rfl⟩
  | cons f rest ih =>
    obtain ⟨hf, hrest⟩ := List.forall_mem_cons.mp hplain
    obtain ⟨hout, hrestNodup⟩ := List.nodup_cons.mp hnodup
    obtain ⟨w, hwritten⟩ := writeBelow_returns ht hfiles hroot hf
    have hsaved := writeBelow_ok ht.anchored hroot hf hwritten
    obtain ⟨u, hu⟩ := ih (ready_of_saved ht hfiles hout hsaved)
      (hfiles.tail.of_sameLinks hsaved.cwd hsaved.links) hrest hrestNodup
    refine ⟨u, ?_⟩
    rw [saveAll, hwritten]
    exact hu

/-- The first file makes the directory of the sink if it is missing. -/
theorem saveAll_saved (ht : Anchored t root place) (hroot : root.Clean) (hfiles : files ≠ [])
    (hplain : ∀ f ∈ files, isPlain f.1 = true) (h : saveAll root t files = ⟨u, .ok ()⟩) :
    Saved t root place files u := by
  obtain ⟨⟨path, content⟩, rest, rfl⟩ := List.exists_cons_of_ne_nil hfiles
  obtain ⟨hf, hrest⟩ := List.forall_mem_cons.mp hplain
  rw [saveAll] at h
  cases hwritten : t.writeBelow (pathOf root path) content with
  | mk w outcome =>
    rw [hwritten] at h
    cases outcome with
    | error e => cases h
    | ok _ =>
      have hw := writeBelow_ok ht hroot hf hwritten
      exact hw.cons (saveAll_ok hw.rooted hroot hrest h)

section Halts

theorem saveAll_eq_error {e : Fault} (h : saveAll root t files = ⟨u, .error e⟩) :
    ∃ before f later w, files = before ++ f :: later ∧ saveAll root t before = ⟨w, .ok ()⟩ ∧
      w.writeBelow (pathOf root f.1) f.2 = ⟨u, .error e⟩ := by
  induction files generalizing t with
  | nil => cases h
  | cons f rest ih =>
    obtain ⟨path, content⟩ := f
    rw [saveAll] at h
    cases hwritten : t.writeBelow (pathOf root path) content with
    | mk w outcome =>
      rw [hwritten] at h
      cases outcome with
      | error fault =>
        cases h
        exact ⟨[], (path, content), rest, t, rfl, rfl, hwritten⟩
      | ok _ =>
        obtain ⟨before, f, later, v, rfl, hbefore, hf⟩ := ih h
        refine ⟨(path, content) :: before, f, later, v, rfl, ?_, hf⟩
        rw [saveAll, hwritten]
        exact hbefore

/-- What a save that fails leaves: the files that it has written, and as it was whatever is at no
place of these or of the file that fails. -/
structure Halted (t : FileTree) (root : Path) (place : Place) (before : List (Text × Text))
    (f : Text × Text) (u : FileTree) : Prop where
  anchored : Anchored u root place
  spares : Spares t place (before ++ [f]) u
  written : ∀ g ∈ before, u.fileAt (place ++ Text.splitAll '/' g.1) = some g.2

theorem writeBelow_halted {e : Fault} {f : Text × Text} (ht : Anchored t root place)
    (hroot : root.Clean) (hplain : isPlain f.1 = true)
    (h : t.writeBelow (pathOf root f.1) f.2 = ⟨u, .error e⟩) : Halted t root place [] f u := by
  obtain ⟨init, last, hsplit, hproper, hpathOf, henclosing⟩ := exists_last root hplain
  rcases writeBelow_cases ht hroot hproper hpathOf henclosing f.2 with
    ⟨w, e, hfails, hwf, hgrows⟩ | ⟨w, hw, hgrows, hparent, hfree, ⟨c, hc, hset⟩ | hempty⟩
  · cases h.symm.trans hfails
    exact ⟨ht.of_grows hwf hgrows, hgrows.spares, nofun⟩
  · cases h.symm.trans hset
  · cases h.symm.trans hempty
    refine ⟨(hw.set "" (hproper last (by simp)) hparent hfree).anchored,
      hgrows.spares.trans ?_, nofun⟩
    rw [← hsplit]
    exact spares_set (hsplit ▸ hw.sameLinks_set "")

theorem Halted.of_saved {w : FileTree} {f : Text × Text} (hsaved : Saved t root place files w)
    (hnodup : (OrderedMap.keys (files ++ [f])).Nodup) (hplain : ∀ g ∈ files, isPlain g.1 = true)
    (h : Halted w root place [] f u) : Halted t root place files f u := by
  have hsplit : (OrderedMap.keys files ++ [f.1]).Nodup := by
    rwa [OrderedMap.keys, List.map_append] at hnodup
  obtain ⟨hfiles, -, hapart⟩ := List.nodup_append.mp hsplit
  refine ⟨h.anchored, (hsaved.spares.mono (List.subset_append_left files [f])).trans
    (h.spares.mono (List.subset_append_right files [f])), fun g hg => ?_⟩
  have hother : ∀ g' ∈ [] ++ [f],
      place ++ Text.splitAll '/' g.1 ≠ place ++ Text.splitAll '/' g'.1 := by
    intro g' hg' heq
    cases List.mem_singleton.mp hg'
    exact hapart g.1 (List.mem_map_of_mem hg) f.1 (List.mem_singleton_self _)
      (splitAll_injective (List.append_cancel_left heq))
  rw [h.spares.fileAt hother, hsaved.fileAt_of_mem hfiles hplain hg]

theorem saveAll_halted {e : Fault} (ht : Anchored t root place) (hroot : root.Clean)
    (hplain : ∀ f ∈ files, isPlain f.1 = true) (hnodup : (OrderedMap.keys files).Nodup)
    (h : saveAll root t files = ⟨u, .error e⟩) :
    ∃ before f later w, files = before ++ f :: later ∧ saveAll root t before = ⟨w, .ok ()⟩ ∧
      w.writeBelow (pathOf root f.1) f.2 = ⟨u, .error e⟩ ∧ Halted t root place before f u := by
  obtain ⟨before, f, later, w, rfl, hbefore, hf⟩ := saveAll_eq_error h
  have hplainF := hplain f (by simp)
  have hplainBefore : ∀ g ∈ before, isPlain g.1 = true := fun g hg =>
    hplain g (List.mem_append_left _ hg)
  refine ⟨before, f, later, w, rfl, hbefore, hf, ?_⟩
  by_cases hnil : before = []
  · subst hnil
    cases hbefore
    exact writeBelow_halted ht hroot hplainF hf
  · have hsaved := saveAll_saved ht hroot hnil hplainBefore hbefore
    refine Halted.of_saved hsaved ?_ hplainBefore
      (writeBelow_halted hsaved.rooted.anchored hroot hplainF hf)
    rw [← List.singleton_append, ← List.append_assoc] at hnodup
    rw [OrderedMap.keys, List.map_append] at hnodup
    exact (List.nodup_append.mp hnodup).1

end Halts

end FileSink

end RouterLayer
