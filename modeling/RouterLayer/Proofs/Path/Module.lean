import RouterLayer.Proofs.Path.Text

set_option autoImplicit false

namespace RouterLayer.Path

section Absolute

variable {cwd p q : Path} {s : Segment}

theorem mem_of_mem_absoluteSegments (h : s ∈ cwd.absoluteSegments p) :
    isName s = true ∧ (s ∈ cwd.segments ∨ s ∈ p.segments) := by
  obtain ⟨hs, hname⟩ := List.mem_filter.mp (mem_of_mem_resolveSegments h)
  refine ⟨hname, ?_⟩
  unfold join at hs
  split at hs
  · exact .inr hs
  · exact List.mem_append.mp hs

theorem parent_not_mem_absoluteSegments (cwd p : Path) : parent ∉ cwd.absoluteSegments p :=
  parent_not_mem_resolveSegments _

theorem noSlash_absoluteSegments (hcwd : NoSlash cwd.segments) (hp : NoSlash p.segments) :
    NoSlash (cwd.absoluteSegments p) := fun s hs =>
  (mem_of_mem_absoluteSegments hs).2.elim (hcwd s) (hp s)

theorem filter_absoluteSegments (cwd p : Path) :
    (cwd.absoluteSegments p).filter isName = cwd.absoluteSegments p :=
  List.filter_eq_self.mpr fun _ hs => (mem_of_mem_absoluteSegments hs).1

theorem absoluteSegments_of_isAbsolute (cwd : Path) (h : p.isAbsolute = true) :
    cwd.absoluteSegments p = resolveSegments true (p.segments.filter isName) := by
  rw [absoluteSegments, join_of_isAbsolute cwd p h]

theorem absoluteSegments_join (cwd p : Path) (hq : q.isAbsolute = false) :
    cwd.absoluteSegments (p.join q) =
      resolveSegments true (cwd.absoluteSegments p ++ q.segments.filter isName) := by
  have hroot : (p.join q).isAbsolute = p.isAbsolute := by
    rw [join, hq]
    rfl
  have hjoin : (cwd.join (p.join q)).segments = (cwd.join p).segments ++ q.segments := by
    cases hp : p.isAbsolute with
    | true =>
      rw [join_of_isAbsolute cwd _ (hroot.trans hp), join_of_isAbsolute cwd p hp,
        segments_join_of_relative p q hq]
    | false =>
      rw [segments_join_of_relative cwd _ (hroot.trans hp), segments_join_of_relative cwd p hp,
        segments_join_of_relative p q hq, List.append_assoc]
  unfold absoluteSegments
  rw [hjoin, List.filter_append, resolveSegments_append]

theorem absoluteSegments_normal (cwd : Path) (hp : p.Clean) :
    cwd.absoluteSegments p.normal = cwd.absoluteSegments p := by
  have hfilter := hp.normal.filter_isName
  have hroot : p.normal.isAbsolute = p.isAbsolute := rfl
  cases h : p.isAbsolute with
  | true =>
    rw [absoluteSegments_of_isAbsolute cwd (hroot.trans h), absoluteSegments_of_isAbsolute cwd h,
      hfilter, hp.filter_isName, normal, h, resolveSegments_resolveSegments]
  | false =>
    unfold absoluteSegments
    rw [segments_join_of_relative cwd _ (hroot.trans h), segments_join_of_relative cwd p h,
      List.filter_append, List.filter_append, hfilter, hp.filter_isName, normal, h,
      resolveSegments_append_resolve]

theorem absoluteSegments_names (cwd : Path) {names : List Segment} (hparent : parent ∉ names)
    (hnames : ∀ s ∈ names, isName s = true) :
    cwd.absoluteSegments ⟨.none, names⟩ = cwd.absoluteSegments ⟨.none, []⟩ ++ names := by
  have hjoin : (⟨.none, names⟩ : Path) = join ⟨.none, []⟩ ⟨.none, names⟩ := rfl
  rw [hjoin, absoluteSegments_join cwd _ rfl, List.filter_eq_self.mpr hnames,
    resolveSegments_names]
  rw [List.mem_append, not_or]
  exact ⟨parent_not_mem_absoluteSegments _ _, hparent⟩

def absolute (cwd p : Path) : Path := ⟨.single, cwd.absoluteSegments p⟩

theorem clean_absolute (hcwd : cwd.Clean) (hp : p.Clean) : (absolute cwd p).Clean :=
  ⟨fun _ hs => (mem_of_mem_absoluteSegments hs).1,
    noSlash_absoluteSegments hcwd.noSlash hp.noSlash⟩

@[simp] theorem absoluteSegments_absolute (cwd p : Path) :
    cwd.absoluteSegments (absolute cwd p) = cwd.absoluteSegments p := by
  rw [absoluteSegments_of_isAbsolute cwd rfl, absolute, filter_absoluteSegments,
    resolveSegments_names (parent_not_mem_absoluteSegments cwd p)]

end Absolute

section Extension

def extensionOf (s : Segment) : Text := (moduleExtensions.find? (·.isSuffixOf s)).getD []

def extension (p : Path) : Text := (p.segments.getLast?.map extensionOf).getD []

theorem stem_append_extensionOf (s : Segment) : stem s ++ extensionOf s = s := by
  unfold stem extensionOf
  cases hfind : moduleExtensions.find? (·.isSuffixOf s) with
  | none => exact List.append_nil s
  | some e =>
    have hsuffix := List.find?_some hfind
    obtain ⟨front, rfl⟩ := List.isSuffixOf_iff_suffix.mp hsuffix
    simp

theorem extensionOf_mem (s : Segment) : extensionOf s ∈ [] :: moduleExtensions := by
  unfold extensionOf
  cases hfind : moduleExtensions.find? (·.isSuffixOf s) with
  | none => exact List.mem_cons_self
  | some e => exact List.mem_cons_of_mem _ (List.mem_of_find?_eq_some hfind)

theorem stem_eq_nil {s : Segment} (hs : s ≠ []) : stem s = [] ↔ s ∈ moduleExtensions := by
  constructor
  · intro h
    have hself := stem_append_extensionOf s
    rw [h, List.nil_append] at hself
    rcases List.mem_cons.mp (extensionOf_mem s) with hnil | hmem
    · exact absurd (hself.symm.trans hnil) hs
    · exact hself ▸ hmem
  · have hall : ∀ e ∈ moduleExtensions, stem e = [] := by decide
    exact hall s

theorem mapLast_append_singleton (f : Segment → Segment) (init : List Segment) (s : Segment) :
    mapLast f (init ++ [s]) = init ++ [f s] := by
  induction init with
  | nil => rfl
  | cons a init ih =>
    cases init with
    | nil => rfl
    | cons b init => exact congrArg (a :: ·) ih

theorem joinWith_append_singleton (init : List Segment) (s e : Text) :
    Text.joinWith '/' (init ++ [s ++ e]) = Text.joinWith '/' (init ++ [s]) ++ e := by
  induction init with
  | nil => rfl
  | cons a init ih =>
    cases init with
    | nil => simp [Text.joinWith]
    | cons b init =>
      have hstep (last : Text) : Text.joinWith '/' (a :: b :: init ++ [last]) =
          a ++ CodePoint.char '/' :: Text.joinWith '/' (b :: init ++ [last]) := rfl
      rw [hstep, hstep, ih]
      simp

theorem absoluteSegments_ofText_slash (cwd : Path) {segments : List Segment}
    (hne : segments ≠ []) (h : NoSlash segments) :
    cwd.absoluteSegments (ofText (CodePoint.char '/' :: Text.joinWith '/' segments)) =
      resolveSegments true (segments.filter isName) := by
  have habsolute : (ofText (CodePoint.char '/' :: Text.joinWith '/' segments)).isAbsolute = true :=
    decide_eq_true (rootOf_ne_none _)
  have hsegments : (ofText (CodePoint.char '/' :: Text.joinWith '/' segments)).segments =
      segments.filter isName := by
    have hroot := splitAll_root .single (Text.joinWith '/' segments)
    rw [Text.splitAll_joinWith hne h] at hroot
    exact hroot
  rw [absoluteSegments_of_isAbsolute cwd habsolute, hsegments, List.filter_filter]
  simp only [Bool.and_self]

end Extension

/-- The path names the module that lies at a place: its absolute form without the extension in
which the path ends leads there. A name that only the working directory gives is no part of the
path, so nothing is taken away from it. -/
def Names (cwd p : Path) (place : List Segment) : Prop :=
  ∃ rest : Text, (absolute cwd p).text = rest ++ p.normal.extension ∧
    cwd.absoluteSegments (ofText rest) = place

section Names

variable {cwd p q : Path}

theorem Names.unique {place place' : List Segment} (h : cwd.Names p place)
    (h' : cwd.Names p place') : place = place' := by
  obtain ⟨rest, htext, rfl⟩ := h
  obtain ⟨rest', htext', rfl⟩ := h'
  rw [List.append_cancel_right (htext.symm.trans htext')]

theorem names_congr (hp : p.Clean) (hq : q.Clean) (h : p.normal = q.normal)
    {place : List Segment} : cwd.Names p place ↔ cwd.Names q place := by
  have habsolute : absolute cwd p = absolute cwd q := by
    unfold absolute
    rw [← absoluteSegments_normal cwd hp, ← absoluteSegments_normal cwd hq, h]
  unfold Names
  rw [habsolute, h]

theorem names_of_no_extension (hcwd : cwd.Clean) (hp : p.Clean) (h : p.normal.extension = []) :
    cwd.Names p (cwd.absoluteSegments p.normal) := by
  refine ⟨(absolute cwd p).text, by rw [h, List.append_nil], ?_⟩
  rw [ofText_text (clean_absolute hcwd hp), absoluteSegments_absolute,
    absoluteSegments_normal cwd hp]

/-- The last name is cut, and what is left of it may be a dot or two: it is resolved again. -/
theorem names_dropExtension (hcwd : cwd.Clean) (hp : p.Clean) :
    cwd.Names p (cwd.absoluteSegments p.normal.dropExtension) := by
  rcases List.eq_nil_or_concat p.normal.segments with hnil | ⟨init, s, hinit⟩
  · have hdrop : p.normal.dropExtension = p.normal := by
      rw [dropExtension, hnil, mapLast, ← hnil]
    rw [hdrop]
    exact names_of_no_extension hcwd hp (by rw [extension, hnil]; rfl)
  · rw [List.concat_eq_append] at hinit
    have hextension : p.normal.extension = extensionOf s := by
      rw [extension, hinit, List.getLast?_concat]; rfl
    have hdrop : p.normal.dropExtension = (Path.mk p.root init).join ⟨.none, [stem s]⟩ := by
      rw [dropExtension, hinit, mapLast_append_singleton]; rfl
    have hnormal : p.normal = (Path.mk p.root init).join ⟨.none, [s]⟩ := by
      have hform : p.normal = ⟨p.root, p.normal.segments⟩ := rfl
      rw [hform, hinit]; rfl
    have hself := stem_append_extensionOf s
    by_cases hnone : extensionOf s = []
    · rw [hnone, List.append_nil] at hself
      rw [hdrop, hself, ← hnormal]
      exact names_of_no_extension hcwd hp (hextension.trans hnone)
    · have hs : s ∈ p.normal.segments := by rw [hinit]; simp
      have hparent : s ≠ parent := by
        rintro rfl
        exact hnone (by decide)
      have hfilter : [s].filter isName = [s] := by simp [hp.normal.isName s hs]
      have hplace : cwd.absoluteSegments p = cwd.absoluteSegments ⟨p.root, init⟩ ++ [s] := by
        rw [← absoluteSegments_normal cwd hp, hnormal, absoluteSegments_join cwd _ rfl, hfilter,
          resolveSegments_names]
        simp [parent_not_mem_absoluteSegments, Ne.symm hparent]
      have hslash : NoSlash (cwd.absoluteSegments ⟨p.root, init⟩ ++ [stem s]) := by
        refine noSlash_append (noSlash_absoluteSegments hcwd.noSlash fun t ht => ?_) ?_
        · exact hp.normal.noSlash t (by rw [hinit]; exact List.mem_append_left _ ht)
        · intro t ht hmem
          rw [List.mem_singleton.mp ht] at hmem
          exact hp.normal.noSlash s hs (hself ▸ List.mem_append_left _ hmem)
      refine ⟨CodePoint.char '/' ::
        Text.joinWith '/' (cwd.absoluteSegments ⟨p.root, init⟩ ++ [stem s]), ?_, ?_⟩
      · have htext : (absolute cwd p).text = CodePoint.char '/' ::
            Text.joinWith '/' (cwd.absoluteSegments ⟨p.root, init⟩ ++ [s]) := by
          rw [← hplace]; rfl
        rw [htext, hextension, List.cons_append, ← joinWith_append_singleton, hself]
      · rw [absoluteSegments_ofText_slash cwd (by simp) hslash, hdrop,
          absoluteSegments_join cwd _ rfl, List.filter_append, filter_absoluteSegments]

end Names

section Specifier

variable {cwd source target : Path}

theorem specifier?_eq_some {specifier : Text} (h : specifier? cwd source target = some specifier) :
    specifier = specifierText (stepsBetween (cwd.absoluteSegments source.normal)
      (cwd.absoluteSegments target.normal.dropExtension)) := by
  unfold specifier? at h
  dsimp only at h
  split at h
  · cases h
  · exact (Option.some.inj h).symm

theorem noSlash_dropExtension {p : Path} (h : NoSlash p.segments) :
    NoSlash p.dropExtension.segments := by
  rcases List.eq_nil_or_concat p.segments with hnil | ⟨init, s, hinit⟩
  · rw [dropExtension, hnil]
    exact fun _ ht => nomatch ht
  · rw [List.concat_eq_append] at hinit
    rw [dropExtension, hinit, mapLast_append_singleton]
    rw [hinit] at h
    refine noSlash_append (fun t ht => h t (List.mem_append_left _ ht)) fun t ht hmem => ?_
    rw [List.mem_singleton.mp ht] at hmem
    refine h s (by simp) ?_
    rw [← stem_append_extensionOf s]
    exact List.mem_append_left _ hmem

theorem clean_stepsBetween (hcwd : cwd.Clean) {p : Path} (hp : NoSlash p.segments)
    (source : List Segment) :
    (Path.mk .none (stepsBetween source (cwd.absoluteSegments p))).Clean where
  isName _ hs := by
    rcases mem_of_mem_stepsBetween hs with rfl | hs
    · exact isName_parent
    · exact (mem_of_mem_absoluteSegments hs).1
  noSlash _ hs := by
    rcases mem_of_mem_stepsBetween hs with rfl | hs
    · decide
    · exact noSlash_absoluteSegments hcwd.noSlash hp _ hs

theorem absoluteSegments_specifier (hcwd : cwd.Clean) (hsource : source.Clean)
    (htarget : target.Clean) {specifier : Text}
    (h : specifier? cwd source target = some specifier) :
    cwd.absoluteSegments (source.join (ofText specifier)) =
      cwd.absoluteSegments target.normal.dropExtension := by
  have hsteps := clean_stepsBetween hcwd (noSlash_dropExtension htarget.normal.noSlash)
    (cwd.absoluteSegments source.normal)
  rw [specifier?_eq_some h, ofText_specifierText hsteps, absoluteSegments_join cwd _ rfl,
    hsteps.filter_isName, absoluteSegments_normal cwd hsource]
  exact resolve_stepsBetween (parent_not_mem_absoluteSegments _ _)
    (parent_not_mem_absoluteSegments _ _)

theorem names_specifier (hcwd : cwd.Clean) (hsource : source.Clean) (htarget : target.Clean)
    {specifier : Text} (h : specifier? cwd source target = some specifier) :
    cwd.Names target (cwd.absoluteSegments (source.join (ofText specifier))) := by
  rw [absoluteSegments_specifier hcwd hsource htarget h]
  exact names_dropExtension hcwd htarget

theorem text_eq_of_mem_moduleExtensions {p : Path} (hp : p.Clean)
    (h : p.text ∈ moduleExtensions) : p = ⟨.none, [p.text]⟩ := by
  have hread := ofText_text hp
  have hall : ∀ e ∈ moduleExtensions, ofText e = ⟨.none, [e]⟩ := by decide
  rw [hall p.text h] at hread
  exact hread.symm

/-- Only a target without a directory can be nothing but an extension. -/
theorem specifier?_eq_none (htarget : target.Clean) :
    specifier? cwd source target = none ↔ target.normal.text ∈ moduleExtensions := by
  have hcut : specifier? cwd source target = none ↔
      target.normal.dropExtension = ⟨.none, [[]]⟩ := by
    unfold specifier?
    dsimp only
    split <;> simp_all
  rw [hcut]
  constructor
  · intro h
    obtain ⟨hroot, hsegments⟩ := Path.mk.inj h
    rcases List.eq_nil_or_concat target.normal.segments with hnil | ⟨init, s, hinit⟩
    · rw [hnil] at hsegments
      cases hsegments
    · rw [List.concat_eq_append] at hinit
      rw [hinit, mapLast_append_singleton] at hsegments
      have hsingle : init ++ [stem s] = [] ++ [[]] := hsegments
      obtain ⟨hnil, hstem⟩ : init = [] ∧ stem s = [] := by
        simpa using List.append_inj' hsingle rfl
      subst hnil
      obtain ⟨c, cs, hs⟩ := exists_cons_of_isName (htarget.normal.isName s (by rw [hinit]; simp))
      have hform : target.normal = ⟨.none, [s]⟩ := by
        rw [← hroot]
        exact congrArg (Path.mk target.normal.root) hinit
      rw [hform]
      exact (stem_eq_nil (hs ▸ List.cons_ne_nil c cs)).mp hstem
  · intro h
    have hform := text_eq_of_mem_moduleExtensions htarget.normal h
    have hall : ∀ e ∈ moduleExtensions, dropExtension ⟨.none, [e]⟩ = ⟨.none, [[]]⟩ := by decide
    rw [hform]
    exact hall _ h

end Specifier

end RouterLayer.Path
