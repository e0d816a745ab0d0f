import RouterLayer.Proofs.FileTree.Confined
import RouterLayer.Proofs.Path.Descent
import RouterLayer.Proofs.Sink.Files

set_option autoImplicit false

namespace RouterLayer.FileTree

theorem Rooted.points_join {t : FileTree} {root p : Path} {place q : Place}
    (h : Rooted t root place) (hp : p.Clean) (hrelative : p.isAbsolute = false)
    (hlevel : ¬p.Climbs) (hq : t.Points (t.start (root.join p)) (namesOf (root.join p)) q) :
    q = place ++ p.normal.segments.map Text.canonical := by
  have hresolved : Path.resolveSegments false (p.segments.map Text.canonical) =
      p.normal.segments.map Text.canonical := by
    rw [Path.resolveSegments_map fun _ => canonical_eq_parent, Path.normal, hrelative]
  have hstart : t.start (root.join p) = t.start root := by
    rw [start, start, Path.join, hrelative]
    rfl
  rw [hstart, namesOf, Path.segments_join_of_relative root p hrelative, List.map_append] at hq
  rw [← hresolved]
  refine h.anchored.points_level (fun name hname => ?_) (fun hmem => ?_) hq
  · obtain ⟨s, hs, rfl⟩ := List.mem_map.mp hname
    by_cases hparent : s = Path.parent
    · exact .inl (canonical_eq_parent.mpr hparent)
    · exact .inr (isStep_canonical (hp.isName s hs) hparent)
  · rw [hresolved] at hmem
    obtain ⟨s, hs, hparent⟩ := List.mem_map.mp hmem
    rw [canonical_eq_parent.mp hparent] at hs
    exact hlevel hs

theorem confined_set {t : FileTree} {root : Path} {place : Place} {names : List Segment}
    (hnames : names ≠ []) {entry : Entry} (h : Rooted (t.set (place ++ names) entry) root place) :
    Confined (fun other => isBelow place other = true) t (t.set (place ++ names) entry) := by
  have hne : place ++ names ≠ [] := by simp [hnames]
  have houtside {other : Place} (hother : ¬isBelow place other = true) : other ≠ place ++ names :=
    fun heq => hother (heq ▸ isBelow_append hnames)
  refine ⟨rfl, h.unlinked, fun other entry hother hfind => ?_,
    fun other entry hother hnone hfind => ?_⟩
  · rwa [find?_set t _ _ hne, if_neg (houtside hother)]
  · rw [find?_set t _ _ hne, if_neg (houtside hother), hnone] at hfind
    cases hfind

end RouterLayer.FileTree

namespace RouterLayer.FileSink

open FileTree

section Write

variable {t : FileTree} {root p : Path} {place : Place} (ht : Rooted t root place)
  (hroot : root.Clean) (hp : p.EndsInName) (hlevel : ¬p.Climbs)
include ht hroot hp hlevel

theorem confined_write
    (hparent : t.find? (place ++ p.enclosing.normal.segments.map Text.canonical) =
      some .directory) (content : Text) :
    Confined (fun other => isBelow place other = true) t (t.write (root.join p) content).tree ∧
      ((t.write (root.join p) content).outcome = .ok () →
        Rooted (t.write (root.join p) content).tree root place) := by
  obtain ⟨name, hmem, hname, hnormal⟩ := hp.segments_normal_enclosing
  have hproper : isProper name.canonical = true :=
    isProper_canonical (hp.clean.noSlash name hmem)
      (isStep_canonical (hp.clean.isName name hmem) hname)
  have hsame : Confined (fun other => isBelow place other = true) t t := .refl ht.unlinked
  unfold write
  cases hlocate : t.locate .content (root.join p).text with
  | error e => exact ⟨hsame, fun hok => by cases hok⟩
  | ok q =>
    have hq := ht.points_join hp.clean hp.isAbsolute hlevel
      (leads_of_locate (hroot.join hp.clean) (by decide) hlocate).points
    rw [hnormal, List.map_append] at hq
    subst hq
    dsimp only
    split
    · exact ⟨hsame, fun hok => by cases hok⟩
    · next content _ hfree =>
      have hset := ht.set content hproper hparent hfree
      exact ⟨confined_set (by simp) hset, fun _ => hset⟩
    · next hfree =>
      -- a text that cannot be encoded leaves an empty file
      have hset := ht.set "" hproper hparent hfree
      exact ⟨confined_set (by simp) hset, fun hok => by cases hok⟩

theorem confined_writeBelow (content : Text) :
    Confined (fun other => isBelow place other = true) t (t.writeBelow (root.join p) content).tree ∧
      ((t.writeBelow (root.join p) content).outcome = .ok () →
        Rooted (t.writeBelow (root.join p) content).tree root place) := by
  have hgrows := grows_ensureDirectories t (root.join p.enclosing)
  have hconfined : Confined (fun other => isBelow place other = true) t
      (t.ensureDirectories (root.join p.enclosing)).tree := .of_grows ht.unlinked hgrows
  unfold writeBelow
  rw [hp.enclosing_join]
  dsimp only
  split
  · exact ⟨hconfined, fun hok => by cases hok⟩
  · next hmade =>
    obtain ⟨hwf, -, d, hd, hparent⟩ :=
      ensureDirectories_ok ht.wellFormed (hroot.join hp.clean_enclosing) hmade
    have hw := ht.of_grows hwf hgrows
    have hplace := hw.points_join hp.clean_enclosing hp.isAbsolute (hp.level_enclosing hlevel)
      hd.points
    rw [hplace] at hparent
    obtain ⟨hwritten, hrooted⟩ := confined_write hw hroot hp hlevel hparent content
    exact ⟨hconfined.trans hwritten, hrooted⟩

end Write

section Save

theorem confined_saveAll {t : FileTree} {root : Path} {place : Place} {files : List (Text × Text)}
    (ht : Rooted t root place) (hroot : root.Clean)
    (hfiles : ∀ f ∈ files, (Path.ofText f.1).EndsInName)
    (hlevel : ∀ f ∈ files, ¬(Path.ofText f.1).Climbs) :
    Confined (fun other => isBelow place other = true) t (saveAll root t files).tree := by
  induction files generalizing t with
  | nil => exact .refl ht.unlinked
  | cons f rest ih =>
    obtain ⟨path, content⟩ := f
    obtain ⟨hfile, hrest⟩ := List.forall_mem_cons.mp hfiles
    obtain ⟨hfileLevel, hrestLevel⟩ := List.forall_mem_cons.mp hlevel
    obtain ⟨hconfined, hrooted⟩ := confined_writeBelow ht hroot hfile hfileLevel content
    rw [saveAll, pathOf]
    split
    · exact hconfined
    · next hok => exact hconfined.trans (ih (hrooted hok) hrest hrestLevel)

end Save

section Reset

variable {s : FileSink} {root : Path}

theorem confined_reset (hs : s.tree.WellFormed) (hroot : root.Clean)
    (hunlinked : ∀ other target, s.tree.Inside root other →
      s.tree.find? other ≠ some (.link target)) :
    Confined (s.tree.Inside root) s.tree (reset root s).state.tree := by
  have hgrown := Confined.of_grows hunlinked (grows_ensureDirectories s.tree root)
  unfold reset
  dsimp only
  split
  · exact hgrown
  next hmade =>
  obtain ⟨hwf, hgrows, place, hleads, -⟩ := ensureDirectories_ok hs hroot hmade
  have hpoints : s.tree.Points (s.tree.start root) (namesOf root) place := by
    rw [← hgrows.start]
    exact hleads.points.of_sameLinks hgrows.sameLinks
  have hemptied := (sheds_emptyDirectory hroot hleads hwf).confined hgrown.unlinked
    fun other hbelow => (inside_iff hpoints other).mpr hbelow
  split <;> exact hgrown.trans hemptied

theorem confined_save {empty : FileSink} (hs : s.tree.WellFormed) (hroot : root.Clean)
    (hunlinked : ∀ other target, s.tree.Inside root other →
      s.tree.find? other ≠ some (.link target)) (hreset : reset root s = ⟨empty, .ok ()⟩)
    {files : List (Text × Text)} (hfiles : ∀ f ∈ files, (Path.ofText f.1).EndsInName)
    (hlevel : ∀ f ∈ files, ¬(Path.ofText f.1).Climbs) :
    Confined (s.tree.Inside root) s.tree (save root ⟨empty.tree, files⟩).state.tree := by
  obtain ⟨-, place, hemptied⟩ := reset_ok hs hroot hreset
  have hinside := inside_iff hemptied.points
  have hsteady := steady_of_unlinked hs hemptied.points fun other target hbelow =>
    hunlinked other target ((hinside other).mpr hbelow)
  have hsaved := (confined_saveAll (hemptied.rooted hs hsteady) hroot hfiles hlevel).congr
    fun other => (hinside other).symm
  have hfirst := confined_reset hs hroot hunlinked
  rw [hreset] at hfirst
  unfold save
  dsimp only
  split <;> exact hfirst.trans hsaved

end Reset

end RouterLayer.FileSink
