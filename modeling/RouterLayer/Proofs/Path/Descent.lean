import RouterLayer.Proofs.FileTree.Basic
import RouterLayer.Proofs.Path.Module

/-!
Relative paths that stay below the directory in which they start, whichever directory that is. They
are those that end in a name and whose double dots are all resolved in the normal form
(`climbs_iff`).
-/

set_option autoImplicit false

namespace RouterLayer.Path

section Stack

variable {stack segments : List Segment}

/-- A name at which a climbing path starts is gone at its end, unless the path comes back to it. -/
theorem not_mem_foldl_of_climbs {start : Segment} (hstart : start ∉ segments)
    (hstack : start ∉ stack) (hlevel : parent ∉ stack)
    (h : parent ∈ segments.foldl (pushSegment false) stack) :
    start ∉ segments.foldl (pushSegment true) (stack ++ [start]) := by
  induction segments generalizing stack with
  | nil => exact absurd h hlevel
  | cons s segments ih =>
    obtain ⟨hne, hrest⟩ := List.ne_and_not_mem_of_not_mem_cons hstart
    rw [List.foldl_cons] at h ⊢
    by_cases hs : s = parent
    · subst hs
      cases stack with
      | nil =>
        -- here the path leaves the name
        rw [List.nil_append, pushSegment_parent_cons hne]
        intro hmem
        rcases mem_of_mem_foldl hmem with hmem | hmem
        · exact hrest hmem
        · cases hmem
      | cons top stack =>
        obtain ⟨htop, hlevel⟩ := List.ne_and_not_mem_of_not_mem_cons hlevel
        rw [List.cons_append, pushSegment_parent_cons (Ne.symm htop)]
        rw [pushSegment_parent_cons (Ne.symm htop)] at h
        exact ih hrest (List.not_mem_of_not_mem_cons hstack) hlevel h
    · rw [pushSegment_of_ne hs] at h ⊢
      exact ih hrest (List.not_mem_cons_of_ne_of_not_mem hne hstack)
        (List.not_mem_cons_of_ne_of_not_mem (Ne.symm hs) hlevel) h

end Stack

structure EndsInName (p : Path) : Prop where
  clean : p.Clean
  relative : p.root = .none
  named : ∃ init name, p.segments = init ++ [name] ∧ name ≠ parent

/-- The normal form goes up, so that the path can leave the directory in which it starts. -/
def Climbs (p : Path) : Prop := parent ∈ p.normal.segments

instance (p : Path) : Decidable p.Climbs := inferInstanceAs (Decidable (_ ∈ _))

section Below

variable {p : Path} (hp : p.EndsInName)
include hp

theorem EndsInName.isAbsolute : p.isAbsolute = false := by
  rw [Path.isAbsolute, hp.relative]
  rfl

theorem EndsInName.segments_normal : p.normal.segments = resolveSegments false p.segments := by
  rw [normal, hp.isAbsolute]

theorem EndsInName.segments_normal_ne_nil : p.normal.segments ≠ [] := by
  obtain ⟨init, name, hsegments, hname⟩ := hp.named
  rw [normal, hsegments, resolveSegments_concat hname]
  exact List.append_ne_nil_of_right_ne_nil _ (List.cons_ne_nil name [])

theorem EndsInName.clean_enclosing : p.enclosing.Clean :=
  hp.clean.of_subset (List.dropLast_subset _)

theorem EndsInName.enclosing_join (root : Path) :
    (root.join p).enclosing = root.join p.enclosing := by
  obtain ⟨init, name, hsegments, -⟩ := hp.named
  have hne : p.segments ≠ [] := by simp [hsegments]
  have hrelative : p.enclosing.isAbsolute = false := hp.isAbsolute
  rw [join, hp.isAbsolute, join, hrelative]
  exact congrArg (Path.mk root.root) (List.dropLast_append_of_ne_nil hne)

theorem EndsInName.segments_normal_enclosing : ∃ name ∈ p.segments, name ≠ parent ∧
    p.normal.segments = p.enclosing.normal.segments ++ [name] := by
  obtain ⟨init, name, hsegments, hname⟩ := hp.named
  refine ⟨name, by simp [hsegments], hname, ?_⟩
  have hrooted : p.enclosing.isAbsolute = p.isAbsolute := rfl
  rw [normal, normal, hrooted, enclosing, hsegments, List.dropLast_concat,
    resolveSegments_concat hname]

theorem EndsInName.level_enclosing (hlevel : ¬p.Climbs) : ¬p.enclosing.Climbs := by
  obtain ⟨name, -, -, hnormal⟩ := hp.segments_normal_enclosing
  intro hmem
  rw [Climbs, hnormal] at hlevel
  exact hlevel (List.mem_append_left _ hmem)

theorem absoluteSegments_of_level (hlevel : ¬p.Climbs) (cwd root : Path) :
    cwd.absoluteSegments (root.join p) = cwd.absoluteSegments root ++ p.normal.segments := by
  rw [absoluteSegments_join cwd root hp.isAbsolute, hp.clean.filter_isName,
    ← resolveSegments_append_resolve, ← hp.segments_normal, resolveSegments_names]
  rw [List.mem_append, not_or]
  exact ⟨parent_not_mem_absoluteSegments cwd root, hlevel⟩

theorem isBelow_join (hlevel : ¬p.Climbs) (cwd root : Path) :
    FileTree.isBelow (cwd.absoluteSegments root) (cwd.absoluteSegments (root.join p)) = true := by
  rw [absoluteSegments_of_level hp hlevel]
  exact FileTree.isBelow_append hp.segments_normal_ne_nil

/-- A path that climbs leaves a directory whose name is none of the path's own. -/
theorem exists_not_isBelow_join (hclimbs : p.Climbs) (cwd : Path) : ∃ root : Path, root.Clean ∧
    FileTree.isBelow (cwd.absoluteSegments root) (cwd.absoluteSegments (root.join p)) = false := by
  -- a name that is longer than all those of the path together
  let start : Segment := .char 'a' :: p.segments.flatten
  have hfresh : start ∉ p.segments := fun hmem => by
    have hlength := (List.sublist_flatten_of_mem hmem).length_le
    rw [List.length_cons] at hlength
    omega
  have hname : isName start = true := by
    have hhere : start ≠ here := fun h => absurd (List.cons.inj h).1 (by decide)
    simp [isName, start, hhere]
  have hparent : start ≠ parent := fun h => absurd (List.cons.inj h).1 (by decide)
  have hslash : CodePoint.char '/' ∉ start := by
    intro hmem
    rcases List.mem_cons.mp hmem with h | hmem
    · exact absurd h (by decide)
    · obtain ⟨s, hs, hmem⟩ := List.mem_flatten.mp hmem
      exact hp.clean.noSlash s hs hmem
  have hroot : cwd.absoluteSegments ⟨.single, [start]⟩ = [start] := by
    rw [absoluteSegments_of_isAbsolute cwd rfl, List.filter_cons_of_pos hname, List.filter_nil,
      resolveSegments_names (by simpa using Ne.symm hparent)]
  refine ⟨⟨.single, [start]⟩, ⟨by simpa using hname, by simpa [NoSlash] using hslash⟩, ?_⟩
  rw [← Bool.not_eq_true, FileTree.isBelow_iff, hroot,
    absoluteSegments_join cwd _ hp.isAbsolute, hroot, hp.clean.filter_isName]
  rintro ⟨names, -, hbelow⟩
  have hgone : start ∉ resolveSegments true ([start] ++ p.segments) := by
    unfold resolveSegments
    rw [List.mem_reverse, List.foldl_append, List.foldl_cons, List.foldl_nil,
      pushSegment_of_ne hparent]
    refine not_mem_foldl_of_climbs hfresh List.not_mem_nil List.not_mem_nil ?_
    rw [Climbs, hp.segments_normal] at hclimbs
    exact List.mem_reverse.mp hclimbs
  rw [hbelow] at hgone
  exact hgone List.mem_cons_self

/-- The paths that do not climb are those that stay below every directory. -/
theorem climbs_iff (cwd : Path) : p.Climbs ↔ ∃ root : Path, root.Clean ∧
    FileTree.isBelow (cwd.absoluteSegments root) (cwd.absoluteSegments (root.join p)) = false := by
  constructor
  · exact fun hclimbs => exists_not_isBelow_join hp hclimbs cwd
  · rintro ⟨root, -, hroot⟩
    by_contra hlevel
    rw [isBelow_join hp hlevel] at hroot
    cases hroot

end Below

end RouterLayer.Path
