import RouterLayer.Proofs.FileTree.Reach

set_option autoImplicit false

namespace RouterLayer.FileTree

/-- Each link that a leading part of a path names leads to a directory, once the directories in
front of it are there. -/
def LinksLead (t : FileTree) (p : Path) : Prop :=
  ∀ u init last d target, Keeps t u → init ++ [last] <+: p.segments →
    u.Reaches ⟨p.root, init⟩ d → u.find? (d ++ [last.canonical]) = some (.link target) →
    u.isDirectory ⟨p.root, init ++ [last]⟩ = true

structure Passable (t : FileTree) (p : Path) : Prop where
  noFile : ∀ q content, t.OnWay p q → t.find? q ≠ some (.file content)
  linksLead : t.LinksLead p

section Passable

variable {t u : FileTree} {p : Path} {root : Root} {segments rest : List Segment} {s : Segment}
  {d : Place}

theorem clean_front (hp : (Path.mk root (segments ++ rest)).Clean) :
    (Path.mk root segments).Clean := hp.of_subset (List.subset_append_left segments rest)

theorem Passable.front (h : Passable t ⟨root, segments ++ rest⟩) : Passable t ⟨root, segments⟩ :=
  ⟨fun q content hq => h.noFile q content (onWay_append hq),
    fun u init last d target hkeeps hfront => h.linksLead u init last d target hkeeps
      (hfront.trans (List.prefix_append segments rest))⟩

theorem LinksLead.of_keeps (h : LinksLead t p) (hkeeps : Keeps t u) : LinksLead u p :=
  fun v init last d target hv => h v init last d target (hkeeps.trans hv)

theorem Passable.of_keeps (h : Passable t p) (hkeeps : Keeps t u)
    (hfile : ∀ q content, t.OnWay p q → u.find? q ≠ some (.file content)) : Passable u p :=
  ⟨fun q content hq => hfile q content (hkeeps.onWay hq), h.linksLead.of_keeps hkeeps⟩

theorem Passable.of_grows {made : Place → Prop} (h : Passable t p) (hgrows : Grows made t u) :
    Passable u p := by
  refine h.of_keeps hgrows.keeps fun q content hq hfile => ?_
  cases ht : t.find? q with
  | none => cases (hgrows.fresh q _ ht hfile).1
  | some entry =>
    have hkept := hgrows.kept q entry ht
    rw [hfile] at hkept
    cases hkept
    exact h.noFile q content hq ht

theorem Reaches.passable (h : t.Reaches p d) (hp : p.Clean) : Passable t p := by
  obtain ⟨root, segments⟩ := p
  constructor
  · rintro q content ⟨names, hfront, hq⟩ hfile
    obtain ⟨front, ⟨rest, rfl⟩, rfl⟩ := List.prefix_map_iff.mp hfront
    obtain ⟨place, hplace⟩ := h.front hp
    have hsame := hq.unique (hplace.leads (clean_front hp)).points
    rw [hsame, hplace.2] at hfile
    cases hfile
  · rintro u init last place target hkeeps ⟨rest, rfl⟩ hplace hlink
    obtain ⟨q, hq⟩ := h.front hp
    exact (hq.of_keeps (clean_front hp) hkeeps).isDirectory

theorem makeDirectory_of_locate {q : Place} (hp : p.Clean) (h : t.locate .target p.text = .ok q)
    (hq : t.find? q ≠ none) : t.makeDirectory p = .error .occupied := by
  have hfound : ∃ q, t.locate .entry p.text = .ok q ∧ t.find? q ≠ none := by
    by_cases hsegments : p.segments = []
    · obtain ⟨root, segments⟩ := p
      cases hsegments
      obtain ⟨rfl, hstart⟩ := locate_of_nil h
      exact ⟨_, locate_nil hstart, hq⟩
    · have hok := isOk_of_locate h
      rw [locate_eq_walk hp hok hsegments, ← walks_iff] at h
      rw [locate_eq_walk hp hok hsegments]
      exact entry_of_walks h (by simpa [namesOf] using hsegments) hq
  obtain ⟨q, hlocate, hfound⟩ := hfound
  obtain ⟨entry, hentry⟩ := Option.ne_none_iff_exists'.mp hfound
  rw [makeDirectory, hlocate]
  dsimp only
  rw [hentry]

theorem ensureDirectory_of_reaches (h : t.Reaches p d) (hp : p.Clean) :
    t.makeDirectory p = .error .occupied ∧ t.ensureDirectory p = ⟨t, .ok ()⟩ := by
  have hmake := makeDirectory_of_locate hp h.1 (by rw [h.2]; nofun)
  refine ⟨hmake, ?_⟩
  rw [ensureDirectory, hmake, h.isDirectory]
  rfl

theorem ensureDirectories_of_other {q : Place} {entry : Entry} (hp : p.Clean)
    (h : t.locate .target p.text = .ok q) (hq : t.find? q = some entry)
    (hother : entry ≠ .directory) : t.ensureDirectories p = ⟨t, .error .occupied⟩ := by
  have hmake := makeDirectory_of_locate hp h (by rw [hq]; nofun)
  have hdirectory : t.isDirectory p = false := by
    rw [← Bool.not_eq_true, isDirectory_iff]
    rintro ⟨q', hq', hthere⟩
    cases h.symm.trans hq'
    rw [hq] at hthere
    exact hother (Option.some.inj hthere)
  have hensure : t.ensureDirectory p = ⟨t, .error .occupied⟩ := by
    rw [ensureDirectory, hmake, hdirectory]
    rfl
  obtain ⟨root, segments⟩ := p
  rw [ensureDirectories]
  cases hreverse : segments.reverse with
  | nil =>
    cases List.reverse_eq_nil_iff.mp hreverse
    exact hensure
  | cons name above =>
    have hback : (name :: above).reverse = segments := by rw [← hreverse, List.reverse_reverse]
    rw [ensureDirectoriesUp, hback, hmake]
    exact hensure

section Concat

variable (ht : t.WellFormed) (hp : (Path.mk root (segments ++ [s])).Clean)
  (htakes : takes ⟨root, segments ++ [s]⟩ = true) (h : t.Reaches ⟨root, segments⟩ d)
include hp htakes h

theorem reaches_of_walks {q : Place}
    (hwalks : Walks t linkLimit (t.start ⟨root, segments ++ [s]⟩)
      (namesOf ⟨root, segments⟩ ++ [s.canonical]) q) (hq : t.find? q = some .directory) :
    t.Reaches ⟨root, segments ++ [s]⟩ q := by
  have hstart : t.find? (t.start ⟨root, segments ++ [s]⟩) = some .directory :=
    h.directory_start (clean_front hp)
  refine (reaches_iff hp (Bool.and_eq_true_iff.mp htakes).1 hstart).mpr ⟨?_, hq⟩
  rwa [namesOf, List.map_append]

theorem walks_concat (hstep : IsStep s.canonical)
    (hunlinked : ∀ target, t.find? (d ++ [s.canonical]) ≠ some (.link target)) :
    Walks t linkLimit (t.start ⟨root, segments ++ [s]⟩) (namesOf ⟨root, segments⟩ ++ [s.canonical])
      (d ++ [s.canonical]) :=
  (h.walks (clean_front hp)).append fun left =>
    .enter h.2 hstep (short_of_takes htakes (by simp)) hunlinked (.done left _)

theorem locate_concat (purpose : Purpose) (hslash : s.canonical ≠ []) :
    ∃ left, t.locate purpose (Path.mk root (segments ++ [s])).text =
      walk t purpose left d [s.canonical] := by
  rw [locate_eq_walk hp (Bool.and_eq_true_iff.mp htakes).1 (by simp), namesOf, List.map_append]
  exact walk_append (h.walks (clean_front hp)) (List.cons_ne_nil s.canonical [])
    (.inr fun hhead => hslash (Option.some.inj hhead))

theorem locate_entry (hstep : IsStep s.canonical) :
    t.locate .entry (Path.mk root (segments ++ [s])).text = .ok (d ++ [s.canonical]) := by
  obtain ⟨left, hwalk⟩ := locate_concat hp htakes h .entry hstep.1
  rw [hwalk, walk_entry h.2 hstep (short_of_takes htakes (by simp))]

theorem locate_content (hstep : IsStep s.canonical)
    (hunlinked : ∀ target, t.find? (d ++ [s.canonical]) ≠ some (.link target)) :
    t.locate .content (Path.mk root (segments ++ [s])).text = .ok (d ++ [s.canonical]) := by
  obtain ⟨left, hwalk⟩ := locate_concat hp htakes h .content hstep.1
  rw [hwalk, walk_enter h.2 hstep (short_of_takes htakes (by simp))
    (.inr (List.cons_ne_nil [] []).symm) hunlinked]
  obtain ⟨_, hdone⟩ := walk_eq_walkWith t .content left
  rw [hdone]
  rfl

include ht in
theorem reaches_concat (hpass : Passable t ⟨root, segments ++ [s]⟩) :
    (∃ q, t.Reaches ⟨root, segments ++ [s]⟩ q) ∨
      IsStep s.canonical ∧ t.find? (d ++ [s.canonical]) = none := by
  have hfront := clean_front hp
  by_cases hparent : s = Path.parent
  · have hwalks := (h.walks hfront).append fun left => .up h.2 (.done left _)
    refine .inl ⟨d.dropLast, reaches_of_walks hp htakes h ?_ (ht.directory_dropLast h.2)⟩
    rwa [canonical_eq_parent.mpr hparent]
  have hstep := isStep_canonical (hp.isName s (by simp)) hparent
  cases hfind : t.find? (d ++ [s.canonical]) with
  | none => exact .inr ⟨hstep, rfl⟩
  | some entry =>
    left
    cases entry with
    | file content =>
      have hwalks := walks_concat hp htakes h hstep fun target hlink => by
        rw [hfind] at hlink
        cases hlink
      refine absurd hfind (hpass.noFile _ content ⟨_, List.prefix_refl _, ?_⟩)
      rw [namesOf, List.map_append]
      exact hwalks.leads.points
    | directory =>
      have hwalks := walks_concat hp htakes h hstep fun target hlink => by
        rw [hfind] at hlink
        cases hlink
      exact ⟨_, reaches_of_walks hp htakes h hwalks hfind⟩
    | link target =>
      exact isDirectory_iff.mp (hpass.linksLead t segments s d target (.refl t)
        (List.prefix_refl _) h hfind)

theorem ensureDirectory_of_free (hstep : IsStep s.canonical)
    (hfree : t.find? (d ++ [s.canonical]) = none) :
    let u := t.set (d ++ [s.canonical]) .directory
    t.makeDirectory ⟨root, segments ++ [s]⟩ = .ok u ∧
      t.ensureDirectory ⟨root, segments ++ [s]⟩ = ⟨u, .ok ()⟩ ∧
      u.Reaches ⟨root, segments ++ [s]⟩ (d ++ [s.canonical]) := by
  intro u
  have hfront := clean_front hp
  have hmake : t.makeDirectory ⟨root, segments ++ [s]⟩ = .ok u := by
    rw [makeDirectory, locate_entry hp htakes h hstep]
    dsimp only
    rw [hfree]
  have hgrows : Grows (fun _ => True) t u := grows_set hfree trivial
  have hset : u.find? (d ++ [s.canonical]) = some .directory := by
    rw [find?_set t _ _ (by simp), if_pos rfl]
  have hreaches : u.Reaches ⟨root, segments⟩ d :=
    h.of_keeps hfront hgrows.keeps
  refine ⟨hmake, by rw [ensureDirectory, hmake], reaches_of_walks hp htakes hreaches ?_ hset⟩
  exact walks_concat hp htakes hreaches hstep fun target hlink => by
    rw [hset] at hlink
    cases hlink

include ht in
theorem ensureDirectory_reaches (hpass : Passable t ⟨root, segments ++ [s]⟩) :
    t.makeDirectory ⟨root, segments ++ [s]⟩ ≠ .error .missing ∧
      ∃ u q, t.ensureDirectory ⟨root, segments ++ [s]⟩ = ⟨u, .ok ()⟩ ∧
        u.Reaches ⟨root, segments ++ [s]⟩ q := by
  rcases reaches_concat ht hp htakes h hpass with ⟨q, hq⟩ | ⟨hstep, hfree⟩
  · obtain ⟨hmake, hensure⟩ := ensureDirectory_of_reaches hq hp
    exact ⟨by rw [hmake]; nofun, t, q, hensure, hq⟩
  · obtain ⟨hmake, hensure, hq⟩ := ensureDirectory_of_free hp htakes h hstep hfree
    exact ⟨by rw [hmake]; nofun, _, _, hensure, hq⟩

end Concat

/-- A passable path leads to a directory, or one that it needs is missing. -/
theorem reaches_or_missing (ht : t.WellFormed) (hp : (Path.mk root segments).Clean)
    (htakes : takes ⟨root, segments⟩ = true) (hpass : Passable t ⟨root, segments⟩)
    (hstart : t.find? (t.start ⟨root, []⟩) = some .directory) :
    (∃ d, t.Reaches ⟨root, segments⟩ d) ∨ ∀ purpose more, purpose ≠ .content → more ≠ [] →
      walk t purpose linkLimit (t.start ⟨root, []⟩) (segments.map Text.canonical ++ more) =
        .error .missing := by
  induction segments using List.reverseRecOn with
  | nil => exact .inl ⟨_, locate_nil hstart, hstart⟩
  | append_singleton segments s ih =>
    rcases ih (clean_front hp) (takes_front hp htakes) hpass.front with ⟨d, hd⟩ | hmissing
    · refine (reaches_concat ht hp htakes hd hpass).imp_right ?_
      rintro ⟨hstep, hfree⟩ purpose more hpurpose hmore
      obtain ⟨left, hwalk⟩ := walk_append (hd.walks (clean_front hp))
        (List.cons_ne_nil s.canonical more) (.inl hpurpose)
      rw [List.map_append, List.append_assoc]
      refine hwalk.trans ?_
      rw [walk_enter hd.2 hstep (short_of_takes htakes (by simp)) (.inl hpurpose)
        (by rw [hfree]; nofun)]
      exact walk_of_none hfree hmore
    · refine .inr fun purpose more hpurpose hmore => ?_
      rw [List.map_append, List.append_assoc]
      exact hmissing purpose _ hpurpose (by simp)

/-- The induction is on the names of the path in reverse, as for `ensureDirectoriesUp_ok`. -/
theorem ensureDirectoriesUp_reaches {reversed : List Segment} (ht : t.WellFormed)
    (hp : (Path.mk root reversed.reverse).Clean) (htakes : takes ⟨root, reversed.reverse⟩ = true)
    (hpass : Passable t ⟨root, reversed.reverse⟩)
    (hstart : t.find? (t.start ⟨root, []⟩) = some .directory) :
    ∃ u q, t.ensureDirectoriesUp root reversed = ⟨u, .ok ()⟩ ∧
      u.Reaches ⟨root, reversed.reverse⟩ q := by
  induction reversed with
  | nil =>
    have hreaches : t.Reaches ⟨root, []⟩ _ := ⟨locate_nil hstart, hstart⟩
    exact ⟨t, _, (ensureDirectory_of_reaches hreaches hp).2, hreaches⟩
  | cons name above ih =>
    rw [List.reverse_cons] at hp htakes hpass
    have hfront := clean_front hp
    have htakesFront := takes_front hp htakes
    rw [ensureDirectoriesUp, List.reverse_cons]
    dsimp only
    rcases reaches_or_missing ht hfront htakesFront hpass.front hstart with ⟨d, hd⟩ | hmissing
    · obtain ⟨hmake, u, q, hensure, hq⟩ := ensureDirectory_reaches ht hp htakes hd hpass
      refine ⟨u, q, ?_, hq⟩
      split
      · next hmissing => exact absurd hmissing hmake
      · exact hensure
    · have hlocate : t.locate .entry (Path.mk root (above.reverse ++ [name])).text =
          .error .missing := by
        rw [locate_eq_walk hp (Bool.and_eq_true_iff.mp htakes).1 (by simp), namesOf,
          List.map_append]
        exact hmissing .entry _ entry_ne_content (List.cons_ne_nil name.canonical [])
      have hmake : t.makeDirectory ⟨root, above.reverse ++ [name]⟩ = .error .missing := by
        rw [makeDirectory, hlocate]
      obtain ⟨u, d, hparents, hd⟩ := ih hfront htakesFront hpass.front
      have hmade : Made t ⟨root, above.reverse⟩ u := by
        have hmade := ensureDirectoriesUp_ok above ht hfront (by rw [hparents])
        rwa [hparents] at hmade
      obtain ⟨-, v, q, hensure, hq⟩ := ensureDirectory_reaches hmade.wellFormed hp htakes hd
        (hpass.of_grows hmade.grows)
      refine ⟨v, q, ?_, hq⟩
      rw [hmake, hparents]
      exact hensure

theorem ensureDirectories_reaches (ht : t.WellFormed) (hp : p.Clean) (htakes : takes p = true)
    (hpass : Passable t p) (hstart : t.find? (t.start p) = some .directory) :
    ∃ u q, t.ensureDirectories p = ⟨u, .ok ()⟩ ∧ u.Reaches p q := by
  obtain ⟨root, segments⟩ := p
  have hreverse : segments.reverse.reverse = segments := List.reverse_reverse segments
  obtain ⟨u, q, hensure, hq⟩ := ensureDirectoriesUp_reaches ht (hreverse.symm ▸ hp)
    (hreverse.symm ▸ htakes) (hreverse.symm ▸ hpass) hstart
  exact ⟨u, q, hensure, hreverse ▸ hq⟩

end Passable

end RouterLayer.FileTree
