import Mathlib.Data.List.Nodup
import RouterLayer.Proofs.Sink.Refinement
import RouterLayer.Proofs.Sink.Reset
import RouterLayer.Proofs.Sink.Writing

set_option autoImplicit false

namespace RouterLayer

namespace FileTree

/-- Where a directory is needed for files to be saved: on the way of the sink, and in front of each
of the files. -/
def Needs (t : FileTree) (root : Path) (place : Place) (files : List (Text × Text)) (q : Place) :
    Prop :=
  t.OnWay root q ∨
    ∃ f ∈ files, ∃ names, names <+: (Text.splitAll '/' f.1).dropLast ∧ q = place ++ names

def Obstructs (t : FileTree) (root : Path) (place : Place) (files : List (Text × Text))
    (q : Place) : Prop :=
  (∃ content, t.find? q = some (.file content)) ∧ t.Needs root place files q ∨
    t.find? q = some .directory ∧ ∃ f ∈ files, q = place ++ Text.splitAll '/' f.1

def Clears (t : FileTree) (root : Path) (place : Place) (files : List (Text × Text))
    (q : Place) : Prop :=
  ∀ o, o <+: q → ¬t.Obstructs root place files o

/-- The tree is what is left when all that is in the way of files was removed from another one, the
directories with all that they held. -/
structure Freed (t : FileTree) (root : Path) (place : Place) (files : List (Text × Text))
    (v : FileTree) : Prop where
  wellFormed : v.WellFormed
  cwd : v.cwd = t.cwd
  find : ∀ q entry, v.find? q = some entry ↔ t.find? q = some entry ∧ t.Clears root place files q

section

variable {t u v t' : FileTree} {root : Path} {place q o : Place} {files : List (Text × Text)}
  {entry : Entry}

theorem WellFormed.directory_of_prefix (ht : t.WellFormed) (hq : t.find? q = some entry)
    (ho : o <+: q) (hne : o ≠ q) : t.find? o = some .directory := by
  obtain ⟨names, rfl⟩ := ho
  refine ht.directory_of_append (fun hnames => hne ?_) hq
  rw [hnames, List.append_nil]

theorem WellFormed.unlinked_of_eq (ht : t.WellFormed) (h : t.unlinkBelow [] = t) (q : Place)
    (target : Route) : t.find? q ≠ some (.link target) := by
  intro hlink
  have hkept : (t.unlinkBelow []).find? q = some (.link target) := by rw [h, hlink]
  refine (ht.find?_unlinkBelow.mp hkept).2 ⟨isBelow_iff.mpr ⟨q, ?_, rfl⟩, target, rfl⟩
  rintro rfl
  cases hlink

theorem Obstructs.file_of_ne (ht : t.WellFormed) (hq : t.find? q = some entry) (ho : o <+: q)
    (hne : o ≠ q) (h : t.Obstructs root place files o) :
    ∃ f ∈ files, o = place ++ Text.splitAll '/' f.1 := by
  rcases h with ⟨⟨content, hfile⟩, -⟩ | ⟨-, hfile⟩
  · cases (ht.directory_of_prefix hq ho hne).symm.trans hfile
  · exact hfile

theorem Obstructs.of_shared (ht : t.WellFormed) (hu : u.WellFormed) (hcwd : u.cwd = t.cwd)
    (hlinks : SameLinks t u) (hq : t.find? q = some entry) (hq' : u.find? q = some entry)
    (ho : o <+: q) (h : u.Obstructs root place files o) : t.Obstructs root place files o := by
  have hsame : t.find? o = u.find? o := by
    by_cases hne : o = q
    · rw [hne, hq, hq']
    · rw [ht.directory_of_prefix hq ho hne, hu.directory_of_prefix hq' ho hne]
  rw [Obstructs, hsame]
  exact h.imp_left fun ⟨hfile, hneeds⟩ =>
    ⟨hfile, hneeds.imp_left fun hway => hway.of_sameLinks hcwd hlinks⟩

theorem Clears.of_shared (ht : t.WellFormed) (hu : u.WellFormed) (hcwd : u.cwd = t.cwd)
    (hlinks : SameLinks t u) (hq : t.find? q = some entry) (hq' : u.find? q = some entry)
    (h : t.Clears root place files q) : u.Clears root place files q := fun o ho hobstructs =>
  h o ho (hobstructs.of_shared ht hu hcwd hlinks hq hq' ho)

theorem exists_freed (ht : t.WellFormed) (root : Path) (place : Place)
    (files : List (Text × Text)) : ∃ v, Freed t root place files v := by
  classical
  let keep : Place × Entry → Bool := fun e => decide (t.Clears root place files e.1)
  have hnil : t.Clears root place files [] := by
    intro o ho
    cases List.prefix_nil.mp ho
    rintro (⟨⟨content, hfile⟩, -⟩ | ⟨-, f, -, heq⟩)
    · cases hfile
    · exact Text.splitAll_ne_nil '/' f.1 (List.append_eq_nil_iff.mp heq.symm).2
  refine ⟨t.restrict keep, ht.restrict keep fun p name entry _ hkeep => ?_, rfl,
    fun q entry => ?_⟩
  · have hclears : t.Clears root place files (p ++ [name]) := of_decide_eq_true hkeep
    exact decide_eq_true fun o ho => hclears o (ho.trans (List.prefix_append p [name]))
  · by_cases hq : q = []
    · subst hq
      exact (and_iff_left hnil).symm
    · rw [ht.find?_restrict keep hq]
      exact and_congr_right fun _ => decide_eq_true_iff

namespace Freed

theorem sameLinks (hv : Freed t root place files v) (ht : Anchored t root place) :
    SameLinks t v := by
  intro q target
  rw [hv.find]
  refine ⟨fun hlink => ⟨hlink, fun o ho hobstructs => ?_⟩, And.left⟩
  by_cases hne : o = q
  · subst hne
    rcases hobstructs with ⟨⟨content, hfile⟩, -⟩ | ⟨hdirectory, -⟩
    · cases hlink.symm.trans hfile
    · cases hlink.symm.trans hdirectory
  · obtain ⟨f, -, rfl⟩ := hobstructs.file_of_ne ht.wellFormed hlink ho hne
    obtain ⟨names, rfl⟩ := ho
    rw [List.append_assoc] at hlink
    exact ht.unlinked _ target
      (isBelow_append (List.append_ne_nil_of_left_ne_nil (Text.splitAll_ne_nil '/' f.1) _)) hlink

theorem start (hv : Freed t root place files v) (p : Path) : v.start p = t.start p := by
  rw [FileTree.start, FileTree.start, hv.cwd]

theorem anchored (hv : Freed t root place files v) (ht : Anchored t root place) :
    Anchored v root place := by
  refine ⟨hv.wellFormed, ?_, fun q target hbelow hlink =>
    ht.unlinked q target hbelow ((hv.find q _).mp hlink).1⟩
  rw [hv.start]
  exact ht.points.of_sameLinks (hv.sameLinks ht).symm

theorem ready (hv : Freed t root place files v) (ht : Anchored t root place)
    (hstart : v.find? (v.start root) = some .directory) (hlinks : v.LinksLead root) :
    Ready v root place files := by
  have hgone {q : Place} {entry : Entry} (hfind : v.find? q = some entry) :
      t.find? q = some entry ∧ ¬t.Obstructs root place files q := by
    obtain ⟨hfound, hclears⟩ := (hv.find q entry).mp hfind
    exact ⟨hfound, hclears q (List.prefix_refl q)⟩
  refine ⟨hv.anchored ht, hstart, ⟨fun q content hway hfile => ?_, hlinks⟩,
    fun f hf names content hnames hfile => ?_, fun f hf hdirectory => ?_⟩
  · obtain ⟨hfound, hclear⟩ := hgone hfile
    exact hclear (.inl ⟨⟨content, hfound⟩, .inl (hway.of_sameLinks hv.cwd (hv.sameLinks ht))⟩)
  · obtain ⟨hfound, hclear⟩ := hgone hfile
    exact hclear (.inl ⟨⟨content, hfound⟩, .inr ⟨f, hf, names, hnames, rfl⟩⟩)
  · obtain ⟨hfound, hclear⟩ := hgone hdirectory
    exact hclear (.inr ⟨hfound, f, hf, rfl⟩)

section Twice

variable (ht : t.WellFormed) (hu : u.WellFormed) (hspares : Spares t place files u)
  (ht' : Freed t root place files t') (hv : Freed u root place files v)
include ht hu hspares ht' hv

/-- Files that are not to be saved are the same, whether what is in the way was removed before or
after some of those that are. -/
theorem file_iff (hother : ∀ f ∈ files, q ≠ place ++ Text.splitAll '/' f.1) {content : String} :
    v.find? q = some (.file content) ↔ t'.find? q = some (.file content) := by
  rw [hv.find, ht'.find]
  constructor
  · rintro ⟨hfile, hclears⟩
    have hfile' := (hspares.file_iff hother).mp hfile
    exact ⟨hfile', hclears.of_shared hu ht hspares.cwd.symm hspares.links.symm hfile hfile'⟩
  · rintro ⟨hfile, hclears⟩
    have hfile' := (hspares.file_iff hother).mpr hfile
    exact ⟨hfile', hclears.of_shared ht hu hspares.cwd hspares.links hfile hfile'⟩

theorem keeps (hanchored : Anchored t root place) (hanchored' : Anchored u root place) :
    Keeps t' v := by
  refine ⟨hv.cwd.trans (hspares.cwd.trans ht'.cwd.symm), ((ht'.sameLinks hanchored).symm.trans
    hspares.links).trans (hv.sameLinks hanchored'), fun q hdirectory => ?_⟩
  obtain ⟨hthere, hclears⟩ := (ht'.find q _).mp hdirectory
  have hother : ∀ f ∈ files, q ≠ place ++ Text.splitAll '/' f.1 := fun f hf heq =>
    hclears q (List.prefix_refl q) (.inr ⟨hthere, f, hf, heq⟩)
  have hthere' := hspares.kept q _ hother hthere
  exact (hv.find q _).mpr
    ⟨hthere', hclears.of_shared ht hu hspares.cwd hspares.links hthere hthere'⟩

end Twice

end Freed

theorem perm_filesBelow (ht : t.WellFormed) (hu : u.WellFormed)
    (h : ∀ names, names ≠ [] → (∀ name ∈ names, isProper name = true) →
      t.fileAt (place ++ names) = u.fileAt (place ++ names)) :
    (t.filesBelow place).Perm (u.filesBelow place) := by
  have hnodup {w : FileTree} (hw : w.WellFormed) : (w.filesBelow place).Nodup :=
    List.Nodup.of_map _ (hw.nodup_filesBelow place)
  have hproper {w : FileTree} (hw : w.WellFormed) {names : List Segment} {content : Text}
      (hfile : w.fileAt (place ++ names) = some content) :
      ∀ name ∈ names, isProper name = true := by
    unfold fileAt at hfile
    split at hfile
    · next hfind =>
      exact fun name hname => hw.proper_of_find? hfind name (List.mem_append_right _ hname)
    · cases hfile
  rw [List.perm_ext_iff_of_nodup (hnodup ht) (hnodup hu)]
  rintro ⟨path, content⟩
  rw [ht.mem_filesBelow, hu.mem_filesBelow]
  constructor
  · rintro ⟨names, hnames, hpath, hfile⟩
    exact ⟨names, hnames, hpath, (h names hnames (hproper ht hfile)).symm.trans hfile⟩
  · rintro ⟨names, hnames, hpath, hfile⟩
    exact ⟨names, hnames, hpath, (h names hnames (hproper hu hfile)).trans hfile⟩

/-- Saving the same files leaves the same files, if those are the same that it leaves alone. -/
theorem Saved.perm_of_fileAt {w w' : FileTree} (h : Saved v root place files w)
    (h' : Saved t' root place files w') (hnodup : (OrderedMap.keys files).Nodup)
    (hfile : ∀ q, (∀ f ∈ files, q ≠ place ++ Text.splitAll '/' f.1) → v.fileAt q = t'.fileAt q) :
    (w.filesBelow place).Perm (w'.filesBelow place) := by
  refine perm_filesBelow h.rooted.wellFormed h'.rooted.wellFormed fun names hnames hproper => ?_
  rw [h.written names hnames hproper, h'.written names hnames hproper]
  cases hlatest : OrderedMap.latest? files (Text.joinWith '/' names) with
  | some content => rfl
  | none =>
    rw [Option.none_or, Option.none_or]
    refine hfile _ fun f hf heq => ?_
    rw [List.append_cancel_left heq, Text.joinWith_splitAll,
      OrderedMap.latest?_of_nodup hnodup, (OrderedMap.find?_eq_some hnodup).mpr hf] at hlatest
    cases hlatest

end

end FileTree

namespace FileSink

open FileTree

variable {s s' : FileSink} {root : Path} {place : Place}

theorem save_eq_error {e : Failure} (h : save root s = ⟨s', .error e⟩) :
    s'.pending = s.pending ∧ ∃ fault, saveAll root s.tree s.pending = ⟨s'.tree, .error fault⟩ := by
  unfold save at h
  cases hall : saveAll root s.tree s.pending with
  | mk u outcome =>
    rw [hall] at h
    cases outcome with
    | ok _ => cases h
    | error fault =>
      cases h
      exact ⟨rfl, fault, rfl⟩

theorem save_of_saveAll {u : FileTree} (h : saveAll root s.tree s.pending = ⟨u, .ok ()⟩) :
    save root s = ⟨⟨u, []⟩, .ok ()⟩ := by
  rw [save, h]

/-- A save that fails keeps what waits to be saved. It has written the files up to one of them, and
besides these and that one no file has changed. Suppose the files can be saved where nothing is in
their way. Once what is in their way is removed a second save writes them all; and the files are
then those that a single save leaves if it is removed beforehand. -/
theorem retries_save (s s' : FileSink) (rootText : Text) (place : Place) (e : Failure)
    (hs : Anchored s.tree (Path.ofText rootText) place) (hnodup : s.pending.keys.Nodup)
    (hplain : ∀ f ∈ s.pending, isPlain f.1 = true)
    (h : save (Path.ofText rootText) s = ⟨s', .error e⟩) :
    let root := Path.ofText rootText
    s'.pending = s.pending ∧
    (∃ before f later w fault, s.pending = before ++ f :: later ∧
      saveAll root s.tree before = ⟨w, .ok ()⟩ ∧
      w.writeBelow (pathOf root f.1) f.2 = ⟨s'.tree, .error fault⟩ ∧
      (∀ g ∈ before, s'.tree.fileAt (place ++ Text.splitAll '/' g.1) = some g.2) ∧
      (∀ g ∈ later, s'.tree.fileAt (place ++ Text.splitAll '/' g.1) =
        s.tree.fileAt (place ++ Text.splitAll '/' g.1)) ∧
      ∀ other, (∀ g ∈ before ++ [f], other ≠ place ++ Text.splitAll '/' g.1) →
        s'.tree.fileAt other = s.tree.fileAt other) ∧
    (Savable s.tree root place s.pending → ∀ v t', Freed s'.tree root place s.pending v →
      Freed s.tree root place s.pending t' → t'.find? (t'.start root) = some .directory →
      t'.LinksLead root →
      ∃ w w', save root ⟨v, s'.pending⟩ = ⟨⟨w, []⟩, .ok ()⟩ ∧
        save root ⟨t', s.pending⟩ = ⟨⟨w', []⟩, .ok ()⟩ ∧
        (w.filesBelow place).Perm (w'.filesBelow place)) := by
  intro root
  have hroot : root.Clean := Path.clean_ofText rootText
  obtain ⟨hpending, fault, hall⟩ := save_eq_error h
  obtain ⟨before, f, later, w, hsplit, hbefore, hf, hhalted⟩ :=
    saveAll_halted hs hroot hplain hnodup hall
  refine ⟨hpending, ⟨before, f, later, w, fault, hsplit, hbefore, hf, hhalted.written,
    fun g hg => hhalted.spares.fileAt fun g' hg' heq => ?_,
    fun other hother => hhalted.spares.fileAt hother⟩, ?_⟩
  · have hsame : g.1 = g'.1 := splitAll_injective (List.append_cancel_left heq)
    rw [hsplit, ← List.singleton_append, ← List.append_assoc, OrderedMap.keys, List.map_append]
      at hnodup
    exact (List.nodup_append.mp hnodup).2.2 g'.1 (List.mem_map_of_mem hg') g.1
      (List.mem_map_of_mem hg) hsame.symm
  intro hsavable v t' hv ht' hstart hlinks
  have hspares : Spares s.tree place s.pending s'.tree := hhalted.spares.mono (by simp [hsplit])
  have hne : s.pending ≠ [] := by simp [hsplit]
  have hkeeps := ht'.keeps hs.wellFormed hhalted.anchored.wellFormed hspares hv hs hhalted.anchored
  have hready := hv.ready hhalted.anchored
    (by rw [hkeeps.start]; exact hkeeps.directories _ hstart) (hlinks.of_keeps hkeeps)
  have hready' := ht'.ready hs hstart hlinks
  have hsavable' := hsavable.of_sameLinks ht'.cwd (ht'.sameLinks hs)
  obtain ⟨w, hw⟩ := saveAll_returns hroot hready
    (hsavable'.of_sameLinks hkeeps.cwd hkeeps.links) hplain hnodup
  obtain ⟨w', hw'⟩ := saveAll_returns hroot hready' hsavable' hplain hnodup
  refine ⟨w, w', save_of_saveAll (hpending ▸ hw), save_of_saveAll hw', ?_⟩
  refine (saveAll_saved hready.anchored hroot hne hplain hw).perm_of_fileAt
    (saveAll_saved hready'.anchored hroot hne hplain hw') hnodup fun q hother => ?_
  exact fileAt_congr fun _ =>
    Freed.file_iff hs.wellFormed hhalted.anchored.wellFormed hspares ht' hv hother

def blocked : FileTree where
  cwd := []
  entries := [(["out"], .directory), (["out", "a"], .file "0"), (["out", "c"], .directory),
    (["out", "c", "old"], .file "4"), (["out", "keep"], .file "5")]

def waiting : OrderedMap Text := [("x", "1"), ("a/b", "2"), ("c", "3")]

def halted : FileTree := blocked.set ["out", "x"] (.file "1")

theorem retries_save_blocked :
    Anchored blocked (Path.ofText "out") ["out"] ∧
    Savable blocked (Path.ofText "out") ["out"] waiting ∧
    save (Path.ofText "out") ⟨blocked, waiting⟩ =
      ⟨⟨halted, waiting⟩, .error (.files .occupied)⟩ ∧
    ∃ v t' w w', Freed halted (Path.ofText "out") ["out"] waiting v ∧
      Freed blocked (Path.ofText "out") ["out"] waiting t' ∧
      save (Path.ofText "out") ⟨v, waiting⟩ = ⟨⟨w, []⟩, .ok ()⟩ ∧
      save (Path.ofText "out") ⟨t', waiting⟩ = ⟨⟨w', []⟩, .ok ()⟩ ∧
      (w.filesBelow ["out"]).Perm (w'.filesBelow ["out"]) := by
  have hclean := Path.clean_ofText "out"
  have hwf : blocked.WellFormed := ⟨by decide +kernel, by decide +kernel, by decide +kernel⟩
  have hhalted : halted.WellFormed := ⟨by decide +kernel, by decide +kernel, by decide +kernel⟩
  have hlocate : blocked.locate .target (Path.ofText "out").text = .ok ["out"] := by
    decide +kernel
  have hunlinked := hwf.unlinked_of_eq (by decide +kernel)
  have hanchored : Anchored blocked (Path.ofText "out") ["out"] :=
    ⟨hwf, (leads_of_locate hclean (by decide) hlocate).points, fun q target _ => hunlinked q target⟩
  have hskirts : blocked.Skirts (Path.ofText "out") ["out"] :=
    skirts_of_reaches hclean ⟨by decide +kernel, by decide +kernel⟩
  have hsavable : Savable blocked (Path.ofText "out") ["out"] waiting := by
    refine ⟨by decide +kernel, by decide +kernel, fun f _ hway => ?_, by decide +kernel⟩
    have hbelow := hskirts.not_below hway
    rw [isBelow_append (Text.splitAll_ne_nil '/' f.1)] at hbelow
    cases hbelow
  have hstate : (save (Path.ofText "out") ⟨blocked, waiting⟩).state = ⟨halted, waiting⟩ := by
    decide +kernel
  have hsave : save (Path.ofText "out") ⟨blocked, waiting⟩ =
      ⟨⟨halted, waiting⟩, .error (.files .occupied)⟩ := by
    rw [← hstate]
    exact congrArg (Stepped.mk _) (by decide +kernel)
  obtain ⟨-, -, hretry⟩ := retries_save ⟨blocked, waiting⟩ ⟨halted, waiting⟩ "out" ["out"] _
    hanchored (by decide +kernel) (by decide +kernel) hsave
  obtain ⟨v, hv⟩ := exists_freed hhalted (Path.ofText "out") ["out"] waiting
  obtain ⟨t', ht'⟩ := exists_freed hwf (Path.ofText "out") ["out"] waiting
  obtain ⟨w, w', hw, hw', hperm⟩ := hretry hsavable v t' hv ht' (by rw [ht'.start]; rfl)
    fun u init last d target hkeeps _ _ hlink =>
      absurd ((ht'.find _ _).mp ((hkeeps.links _ _).mpr hlink)).1 (hunlinked _ target)
  exact ⟨hanchored, hsavable, hsave, v, t', w, w', hv, ht', hw, hw', hperm⟩

/-- A link, which leads to nothing or to itself if nothing else has its target's name. -/
def linked (target : Segment) : FileTree := ⟨[], [(["l"], .link ⟨false, [target]⟩)]⟩

def barred : FileTree := ⟨[], [(["out"], .directory), (["out", "c"], .directory)]⟩

/-- A second save fails like the first one if a content cannot be encoded or the system does not
take a name; if the path leads through the place of a file, even after what stands there was
removed; if a link on the way leads nowhere; and if the directory in which the path begins is
missing. And of two names with the same bytes the second one takes the place of the first. -/
theorem not_retries_save :
    (let first := save (Path.ofText "out") ⟨.empty [], [("a", [Text.byteSurrogate 0xC3])]⟩
     first.outcome = .error (.files .unencodable) ∧
        first.state.tree = ⟨[], [(["out"], .directory), (["out", "a"], .file "")]⟩ ∧
        (save (Path.ofText "out") first.state).outcome = .error (.files .unencodable)) ∧
    (∀ name ∈ refused,
      let first := save (Path.ofText "out") ⟨.empty [], [(name, "1")]⟩
      first.outcome ≠ .ok () ∧ first.state.tree = ⟨[], [(["out"], .directory)]⟩ ∧
        (save (Path.ofText "out") first.state).outcome ≠ .ok ()) ∧
    (let first := save (Path.ofText "out/a/..") ⟨.empty [], [("a", "1")]⟩
     first.outcome = .error (.files .isDirectory) ∧
        first.state.tree = ⟨[], [(["out"], .directory), (["out", "a"], .directory)]⟩ ∧
        (save (Path.ofText "out/a/..")
          ⟨first.state.tree.erase ["out", "a"], first.state.pending⟩).outcome =
            .error (.files .isDirectory)) ∧
    (∀ target ∈ (["none", "l"] : List Segment),
      let first := save (Path.ofText "l") ⟨linked target, [("a", "1")]⟩
      first.outcome = .error (.files .occupied) ∧ first.state.tree = linked target ∧
        (save (Path.ofText "l") first.state).outcome = .error (.files .occupied)) ∧
    (let first := save (Path.ofText "out") ⟨.empty ["w"], [("a", "1")]⟩
     first.outcome = .error (.files .missing) ∧ first.state.tree = .empty ["w"] ∧
        (save (Path.ofText "out") first.state).outcome = .error (.files .missing)) ∧
    (let pending : OrderedMap Text := doubled ++ ([("c", "c")] : List (Text × Text))
      let first := save (Path.ofText "out") ⟨barred, pending⟩
      first.outcome = .error (.files .isDirectory) ∧ pending.find? "é" = some "a" ∧
        first.state.tree.fileAt ["out", "é"] = some "b") := by
  refine ⟨⟨?_, ?_, ?_⟩, ?_, ⟨?_, ?_, ?_⟩, ?_, ⟨?_, ?_, ?_⟩, ?_, ?_, ?_⟩ <;> decide +kernel

end FileSink

end RouterLayer
