import RouterLayer.Proofs.Path.Module
import RouterLayer.Router.Layout

set_option autoImplicit false

namespace RouterLayer

section Pieces

variable {good : CodePoint → Prop}

theorem Text.forall_mem_splitAll {sep : CodePoint} {s piece : Text} (h : ∀ c ∈ s, good c)
    (hpiece : piece ∈ splitAll sep s) : ∀ c ∈ piece, good c := by
  induction s generalizing piece with
  | nil =>
    rw [List.mem_singleton.mp hpiece]
    exact List.forall_mem_nil _
  | cons a s ih =>
    obtain ⟨ha, hs⟩ := List.forall_mem_cons.mp h
    rw [splitAll] at hpiece
    split at hpiece
    · rcases List.mem_cons.mp hpiece with rfl | hpiece
      · exact List.forall_mem_nil _
      · exact ih hs hpiece
    · split at hpiece
      · rw [List.mem_singleton.mp hpiece]
        exact List.forall_mem_singleton.mpr ha
      · next first rest hsplit =>
        rw [hsplit] at ih
        rcases List.mem_cons.mp hpiece with rfl | hpiece
        · exact List.forall_mem_cons.mpr ⟨ha, ih hs List.mem_cons_self⟩
        · exact ih hs (List.mem_cons_of_mem _ hpiece)

end Pieces

namespace Path

variable {good : CodePoint → Prop} {p q : Path}

def Within (good : CodePoint → Prop) (p : Path) : Prop := ∀ s ∈ p.segments, ∀ c ∈ s, good c

theorem within_ofText {s : Text} (h : ∀ c ∈ s, good c) : (ofText s).Within good :=
  fun _ hpiece => Text.forall_mem_splitAll h (List.mem_filter.mp hpiece).1

theorem Within.join (hp : p.Within good) (hq : q.Within good) : (p.join q).Within good := by
  unfold Path.join
  split
  · exact hq
  · exact List.forall_mem_append.mpr ⟨hp, hq⟩

theorem Within.normal (h : p.Within good) : p.normal.Within good :=
  fun s hs => h s (mem_of_mem_resolveSegments hs)

theorem Within.dropExtension (h : p.Within good) : p.dropExtension.Within good := by
  rcases List.eq_nil_or_concat p.segments with hnil | ⟨init, s, hinit⟩
  · rw [Path.dropExtension, hnil]
    exact List.forall_mem_nil _
  · rw [List.concat_eq_append] at hinit
    rw [Within, hinit, List.forall_mem_append, List.forall_mem_singleton] at h
    rw [Path.dropExtension, hinit, mapLast_append_singleton]
    refine List.forall_mem_append.mpr ⟨h.1, List.forall_mem_singleton.mpr fun c hc => h.2 c ?_⟩
    rw [← stem_append_extensionOf s]
    exact List.mem_append_left _ hc

theorem Within.configured {output : Path} (ho : output.Within good) (hp : p.Within good) :
    (configured output p).Within good := by
  unfold Path.configured
  split
  · exact hp
  · exact (ho.join hp).normal

theorem forall_mem_specifierText {steps : List Segment} (hdot : good '.') (hslash : good '/')
    (h : ∀ s ∈ steps, ∀ c ∈ s, good c) : ∀ c ∈ specifierText steps, good c := by
  have hlead : ∀ c ∈ ("./" : Text), good c := by
    intro c hc
    have hc : c = .char '.' ∨ c = .char '/' := by simpa [Text.ofString, Text.ofChars] using hc
    rcases hc with rfl | rfl
    · exact hdot
    · exact hslash
  have hjoin : ∀ c ∈ Text.joinWith '/' steps, good c := by
    intro c hc
    rcases Text.mem_joinWith hc with rfl | ⟨s, hs, hc⟩
    · exact hslash
    · exact h s hs c hc
  unfold specifierText
  split
  · exact hlead
  · split
    · exact hjoin
    · exact List.forall_mem_append.mpr ⟨hlead, hjoin⟩

theorem forall_mem_specifier {cwd source target : Path} {specifier : Text} (hdot : good '.')
    (hslash : good '/') (hcwd : cwd.Within good) (htarget : target.Within good)
    (h : specifier? cwd source target = some specifier) : ∀ c ∈ specifier, good c := by
  rw [specifier?_eq_some h]
  refine forall_mem_specifierText hdot hslash fun s hs => ?_
  rcases mem_of_mem_stepsBetween hs with rfl | hs
  · intro c hc
    have hc : c = .char '.' := by simpa [parent, Text.ofString, Text.ofChars] using hc
    exact hc ▸ hdot
  · exact (mem_of_mem_absoluteSegments hs).2.elim (hcwd s) (htarget.normal.dropExtension s)

end Path

theorem Router.forall_mem_configuredSpecifier {good : CodePoint → Prop} {site : Site}
    {dir configured s : Text} (hdot : good '.') (hslash : good '/') (hcwd : site.cwd.Within good)
    (hout : site.output.Within good) (hpath : ∀ c ∈ configured, good c)
    (h : configuredSpecifier site dir configured = .ok s) : ∀ c ∈ s, good c := by
  unfold configuredSpecifier specifier at h
  split at h
  · next found hfound =>
    cases h
    exact Path.forall_mem_specifier hdot hslash hcwd
      (hout.configured (Path.within_ofText hpath)) hfound
  · cases h

end RouterLayer
