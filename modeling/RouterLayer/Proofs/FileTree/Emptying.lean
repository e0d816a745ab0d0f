import Mathlib.Data.List.Nodup
import RouterLayer.Proofs.FileTree.Confined
import RouterLayer.Proofs.FileTree.Passable

/-!
When a directory can be emptied. Its path is followed anew for each name that is removed, so it may
not lead through what the directory held (`Skirts`). Then nothing keeps a name that is there from
being removed, and in the end the path leads to the empty directory (`emptyDirectory_returns`).
-/

set_option autoImplicit false

namespace RouterLayer.FileTree

structure Bare (t : FileTree) (place : Place) (v : FileTree) : Prop where
  links : SameLinks (t.clear place) v
  empty : ∀ other, isBelow place other = true → v.find? other = none

/-- A path leads to a place without passing below it: so it does where nothing lies there, however
many directories on its way are missing in this tree. -/
def Skirts (t : FileTree) (p : Path) (place : Place) : Prop :=
  ∃ v, Bare t place v ∧ Leads v (t.start p) (namesOf p) place ∧ v.find? place = some .directory

section Skirts

variable {t u v w : FileTree} {p : Path} {place q d x : Place} {names : List Segment}

theorem Bare.not_below (h : Bare t place v) {other : Place} {entry : Entry}
    (hother : v.find? other = some entry) : isBelow place other = false := by
  rw [← Bool.not_eq_true]
  intro hbelow
  rw [h.empty other hbelow] at hother
  cases hother

theorem Bare.link_iff (h : Bare t place v) (hw : SameLinks t w) {other : Place} {entry : Entry}
    (hother : v.find? other = some entry) (target : Route) :
    w.find? other = some (.link target) ↔ v.find? other = some (.link target) := by
  rw [← h.links, find?_clear, h.not_below hother]
  exact (hw other target).symm

theorem find?_clear_of_not_below (w : FileTree) (h : isBelow place x = false) :
    (w.clear place).find? x = w.find? x := by
  rw [find?_clear, h]
  rfl

/-- Where names lead without passing below a place, they lead in every tree with the same links, and
what lies below the place has no part in it. -/
theorem Leads.skirts (h : Leads v x names d) (hd : v.find? d = some .directory)
    (hbare : Bare t place v) (hw : SameLinks t w) (hleads : Leads w x names q) :
    q = d ∧ Leads (w.clear place) x names d := by
  induction h with
  | done place =>
    cases hleads
    exact ⟨rfl, .done _⟩
  | stay directory idle next ih =>
    have hplace := find?_clear_of_not_below w (hbare.not_below directory)
    obtain ⟨hq, hclear⟩ := ih hd (hleads.of_cons.1 idle)
    exact ⟨hq, .stay (hplace.trans hleads.directory_of_cons) idle hclear⟩
  | up directory next ih =>
    have hplace := find?_clear_of_not_below w (hbare.not_below directory)
    obtain ⟨hq, hclear⟩ := ih hd (hleads.of_cons.2.1 rfl)
    exact ⟨hq, .up (hplace.trans hleads.directory_of_cons) hclear⟩
  | enter directory step unlinked next ih =>
    have hplace := find?_clear_of_not_below w (hbare.not_below directory)
    have hnext := next.directory_start hd
    have hfree (target : Route) := mt (hbare.link_iff hw hnext target).mp (unlinked target)
    obtain ⟨hq, hclear⟩ := ih hd ((hleads.of_cons.2.2 step).2 hfree)
    refine ⟨hq, .enter (hplace.trans hleads.directory_of_cons) step (fun target => ?_) hclear⟩
    rw [find?_clear_of_not_below w (hbare.not_below hnext)]
    exact hfree target
  | follow directory step link next ih =>
    have hplace := find?_clear_of_not_below w (hbare.not_below directory)
    have hlink := (hbare.link_iff hw link _).mpr link
    obtain ⟨hq, hclear⟩ := ih hd ((hleads.of_cons.2.2 step).1 _ hlink)
    refine ⟨hq, .follow (hplace.trans hleads.directory_of_cons) step ?_ hclear⟩
    rw [find?_clear_of_not_below w (hbare.not_below link)]
    exact hlink

theorem Skirts.not_below (h : t.Skirts p place) (hq : t.OnWay p q) : isBelow place q = false := by
  obtain ⟨v, hbare, hleads, hthere⟩ := h
  obtain ⟨names, ⟨rest, hrest⟩, w, hw, hq⟩ := hq
  rw [← hrest] at hleads
  obtain ⟨d, hd, hmore⟩ := hleads.split
  have hdirectory := hmore.directory_start hthere
  rw [(hd.skirts hdirectory hbare hw hq).1]
  exact hbare.not_below hdirectory

theorem Skirts.reaches (h : t.Skirts p place) (hp : p.Clean) (hkeeps : Keeps t w)
    (hreaches : w.Reaches p q) :
    q = place ∧ Leads (w.clear place) (w.start p) (namesOf p) place := by
  obtain ⟨v, hbare, hleads, hthere⟩ := h
  rw [← hkeeps.start] at hleads
  exact hleads.skirts hthere hbare hkeeps.links (hreaches.leads hp)

theorem skirts_of_reaches (hp : p.Clean) (h : (t.clear place).Reaches p place) : t.Skirts p place :=
  ⟨t.clear place, ⟨.refl _, fun other hbelow => by rw [find?_clear, if_pos hbelow]⟩,
    h.leads hp, h.2⟩

end Skirts

theorem WellFormed.nodup_namesIn {t : FileTree} (h : t.WellFormed) (place : Place) :
    (t.namesIn place).Nodup := by
  rw [List.Nodup, namesIn, List.pairwise_filterMap]
  refine (List.pairwise_map.mp h.nodup).imp fun {e other} hne name hname name' hname' heq => ?_
  subst heq
  split at hname
  · next he =>
    split at hname'
    · next hother =>
      refine hne ?_
      rw [← List.dropLast_append_getLast? name hname, ← List.dropLast_append_getLast? name hname',
        he, hother]
    · cases hname'
  · cases hname

section Remove

variable {u w : FileTree} {root : Root} {segments : List Segment} {place : Place} {name : Segment}
  (hpath : (Path.mk root segments).Clean) (hw : w.Reaches ⟨root, segments⟩ place)
  (hskirts : Leads (w.clear place) (w.start ⟨root, segments⟩) (namesOf ⟨root, segments⟩) place)
include hpath hw hskirts

theorem Sheds.reaches (h : Sheds place w u) : u.Reaches ⟨root, segments⟩ place := by
  have hstart : u.start ⟨root, segments⟩ = w.start ⟨root, segments⟩ := by
    rw [start, start, h.part.cwd]
  have hthere : (w.clear place).find? place = some .directory := by
    rw [find?_clear, isBelow_self]
    exact hw.2
  have hpart : ∀ p entry, (w.clear place).find? p = some entry → u.find? p = some entry := by
    intro p entry hfind
    rw [find?_clear] at hfind
    split at hfind
    · cases hfind
    · next hout => rwa [h.kept p (by simpa using hout)]
  refine hw.of_leads hpath h.part.cwd ?_ (hpart _ _ hthere) (fun p target => h.part.find p _) ?_
  · rw [hstart]
    exact hskirts.of_part hthere hpart
  · intro p target hlink hother
    rw [h.part.find p _ hother] at hlink
    cases hlink

theorem remove_returns (h : Sheds place w u) (hname : isProper name = true)
    (htakes : takes ⟨root, segments ++ [name]⟩ = true) (hfind : u.find? (place ++ [name]) ≠ none) :
    (u.remove ⟨root, segments ++ [name]⟩).outcome = .ok () := by
  have hclean := clean_append hpath (List.forall_mem_singleton.mpr hname)
  have hlocate {u : FileTree} (h : Sheds place w u) :
      u.locate .entry (Path.mk root (segments ++ [name])).text = .ok (place ++ [name]) := by
    have hstep := isStep_of_isProper hname
    rw [← (isProper_iff.mp hname).2.2.2.2] at hstep
    have hentry := locate_entry hclean htakes (h.reaches hpath hw hskirts) hstep
    rwa [(isProper_iff.mp hname).2.2.2.2] at hentry
  obtain ⟨entry, hentry⟩ := Option.ne_none_iff_exists'.mp hfind
  rw [remove, hlocate h]
  dsimp only
  rw [hentry]
  cases entry with
  | file content => rfl
  | link target => rfl
  | directory =>
    dsimp only
    rw [hlocate (h.trans (.clear u place name))]

/-- One name after the other is removed. The others stay until it is their turn. -/
theorem removeEach_returns {names : List Segment} (h : Sheds place w u) (hu : u.WellFormed)
    (hnodup : names.Nodup) (hnames : ∀ name ∈ names, isProper name = true ∧
      takes ⟨root, segments ++ [name]⟩ = true ∧ u.find? (place ++ [name]) ≠ none) :
    (u.removeEach ⟨root, segments⟩ names).outcome = .ok () := by
  induction names generalizing u with
  | nil => rfl
  | cons name rest ih =>
    obtain ⟨hname, hrest⟩ := List.forall_mem_cons.mp hnames
    obtain ⟨hout, hrestNodup⟩ := List.nodup_cons.mp hnodup
    have hclean := clean_append hpath (List.forall_mem_singleton.mpr hname.1)
    have hreturns := remove_returns hpath hw hskirts h hname.1 hname.2.1 hname.2.2
    have hshed := sheds_remove hpath (hw.leads hpath) hname.1 h.part
    rw [removeEach]
    cases hremoved : u.remove ⟨root, segments ++ [name]⟩ with
    | mk v outcome =>
      rw [hremoved] at hreturns hshed
      cases hreturns
      obtain ⟨hv, -, hfind⟩ := remove_ok (hw.leads hpath) hclean hname.1 hu h.part hremoved
      refine ih (h.trans hshed) hv hrestNodup fun other hother => ?_
      obtain ⟨hproper, htakes, hthere⟩ := hrest other hother
      refine ⟨hproper, htakes, ?_⟩
      rw [hfind, if_neg]
      · exact hthere
      · rw [List.prefix_append_right_inj]
        rintro ⟨more, hmore⟩
        obtain ⟨rfl, -⟩ := List.cons.inj hmore
        exact hout hother

/-- A directory is emptied if its path does not lead through what it holds and the system takes the
path of each of its names. In the end the path leads to the directory. -/
theorem emptyDirectory_returns (hwf : w.WellFormed)
    (htakes : ∀ name ∈ w.namesIn place, takes ⟨root, segments ++ [name]⟩ = true) :
    ∃ u, w.emptyDirectory ⟨root, segments⟩ = ⟨u, .ok ()⟩ ∧ Cleared w place u ∧
      u.Reaches ⟨root, segments⟩ place := by
  have hreturns : (w.emptyDirectory ⟨root, segments⟩).outcome = .ok () := by
    rw [emptyDirectory, hw.1]
    refine removeEach_returns hpath hw hskirts (.refl place w) hwf (hwf.nodup_namesIn place)
      fun name hname => ⟨hwf.proper_of_mem_namesIn hname, htakes name hname, ?_⟩
    obtain ⟨entry, hentry⟩ := hwf.mem_namesIn.mp hname
    rw [hentry]
    nofun
  have hsheds := sheds_emptyDirectory hpath (hw.leads hpath) hwf
  cases hemptied : w.emptyDirectory ⟨root, segments⟩ with
  | mk u outcome =>
    rw [hemptied] at hreturns hsheds
    cases hreturns
    exact ⟨u, rfl, emptyDirectory_ok hpath (hw.leads hpath) hwf hemptied,
      hsheds.reaches hpath hw hskirts⟩

end Remove

end RouterLayer.FileTree
