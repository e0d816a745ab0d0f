import Mathlib.Data.List.Find
import RouterLayer.Proofs.Path.Module

set_option autoImplicit false

namespace RouterLayer.Path

section Extension

/-- No slash and no name in front of a name decides whether it ends in an extension. -/
theorem suffix_append_iff {front s ending : Text} (hfront : ∀ c ∈ front.getLast?, c = .char '/')
    (hending : CodePoint.char '/' ∉ ending) : ending <:+ front ++ s ↔ ending <:+ s := by
  constructor
  · intro h
    rcases List.suffix_or_suffix_of_suffix h (List.suffix_append front s) with h | ⟨rest, rfl⟩
    · exact h
    · cases rest using List.reverseRecOn with
      | nil => exact List.suffix_refl s
      | append_singleton rest c =>
        -- the ending would reach over the slash in front of the name
        obtain ⟨first, hfirst⟩ := h
        rw [← List.append_assoc, ← List.append_assoc] at hfirst
        have hlast := congrArg List.getLast? (List.append_cancel_right hfirst)
        rw [List.getLast?_concat] at hlast
        have hc := hfront c (Option.mem_def.mpr hlast.symm)
        exact absurd (by simp [hc]) hending
  · exact fun h => h.trans (List.suffix_append front s)

theorem slash_not_mem_of_mem_moduleExtensions :
    ∀ e ∈ moduleExtensions, CodePoint.char '/' ∉ e := by decide

theorem stem_append {front : Text} (hfront : ∀ c ∈ front.getLast?, c = .char '/') (s : Text) :
    stem (front ++ s) = front ++ stem s := by
  have hfind : moduleExtensions.find? (·.isSuffixOf (front ++ s)) =
      moduleExtensions.find? (·.isSuffixOf s) := by
    refine List.find?_congr fun e he => ?_
    rw [Bool.eq_iff_iff, List.isSuffixOf_iff_suffix, List.isSuffixOf_iff_suffix]
    exact suffix_append_iff hfront (slash_not_mem_of_mem_moduleExtensions e he)
  unfold stem
  rw [hfind]
  cases h : moduleExtensions.find? (·.isSuffixOf s) with
  | none => rfl
  | some e =>
    have hends := List.find?_some h
    have hlength := (List.isSuffixOf_iff_suffix.mp hends).length_le
    dsimp only
    rw [List.take_append, List.length_append, List.take_of_length_le (by omega)]
    congr 2
    omega

theorem getLast_joinWith (init : List Segment) :
    ∀ c ∈ (Text.joinWith '/' (init ++ [[]])).getLast?, c = CodePoint.char '/' := by
  induction init with
  | nil => exact fun c hc => nomatch hc
  | cons s init ih =>
    obtain ⟨t, rest, htail⟩ := List.exists_cons_of_ne_nil
      (List.append_ne_nil_of_right_ne_nil init (List.cons_ne_nil [] []))
    rw [htail] at ih
    rw [List.cons_append, htail, Text.joinWith, List.getLast?_append, List.getLast?_cons]
    · cases hlast : (Text.joinWith '/' (t :: rest)).getLast? with
      | none => simp
      | some d => simpa using ih d hlast
    · exact List.cons_ne_nil _ _

theorem stem_text {p : Path} (hne : p.segments ≠ []) :
    stem p.text = p.root.text ++ Text.joinWith '/' p.dropExtension.segments := by
  rcases List.eq_nil_or_concat p.segments with hnil | ⟨init, s, hinit⟩
  · exact absurd hnil hne
  · rw [List.concat_eq_append] at hinit
    have hfront (e : Text) : Text.joinWith '/' (init ++ [e]) =
        Text.joinWith '/' (init ++ [[]]) ++ e := joinWith_append_singleton init [] e
    have htext : p.text = p.root.text ++ Text.joinWith '/' (init ++ [[]]) ++ s := by
      rw [text, hinit, hfront, List.append_assoc]
      simp
    have hlast : ∀ c ∈ (p.root.text ++ Text.joinWith '/' (init ++ [[]])).getLast?,
        c = CodePoint.char '/' := by
      intro c hc
      rw [List.getLast?_append] at hc
      cases hjoin : (Text.joinWith '/' (init ++ [[]])).getLast? with
      | some d =>
        rw [hjoin] at hc
        exact getLast_joinWith init c (by rw [hjoin]; exact hc)
      | none =>
        rw [hjoin] at hc
        have hroot : ∀ root : Root, ∀ c ∈ root.text.getLast?, c = CodePoint.char '/' := by
          rintro (_ | _ | _) <;> decide
        exact hroot p.root c hc
    rw [htext, stem_append hlast, dropExtension, hinit, mapLast_append_singleton, hfront (stem s),
      List.append_assoc]

end Extension

section Absolute

variable {cwd p q : Path}

theorem absoluteSegments_filter (cwd : Path) (root : Root) (segments : List Segment) :
    cwd.absoluteSegments ⟨root, segments.filter isName⟩ =
      cwd.absoluteSegments ⟨root, segments⟩ := by
  cases root <;> simp [absoluteSegments, join, isAbsolute]

/-- A text and the path without its extension lead to one place. What the extension leaves of the
last name may be nothing or dots, and a text without a name is read as the root or as nothing. -/
theorem absoluteSegments_ofText_stem (cwd : Path) (hp : p.Clean) :
    cwd.absoluteSegments (ofText (stem p.text)) = cwd.absoluteSegments p.dropExtension := by
  rcases List.eq_nil_or_concat p.segments with hnil | ⟨init, s, hinit⟩
  · obtain ⟨root, segments⟩ := p
    subst hnil
    have hall : ∀ root : Root, stem (Path.mk root []).text = (Path.mk root []).text := by
      rintro (_ | _ | _) <;> decide
    rw [hall, ofText_text hp]
    rfl
  · rw [List.concat_eq_append] at hinit
    have hne : p.segments ≠ [] := by simp [hinit]
    have hdrop : p.dropExtension.segments = init ++ [stem s] := by
      rw [dropExtension, hinit, mapLast_append_singleton]
    have hslash : NoSlash (init ++ [stem s]) := hdrop ▸ noSlash_dropExtension hp.noSlash
    have hhead : ∀ c ∈ (Text.joinWith '/' (init ++ [stem s])).head?, c ≠ CodePoint.char '/' := by
      cases init with
      | nil => exact head_joinWith (hslash _ List.mem_cons_self) (.inr rfl)
      | cons t init =>
        have ht := hp.isName t (hinit ▸ List.mem_cons_self)
        obtain ⟨c, cs, hcons⟩ := exists_cons_of_isName ht
        exact head_joinWith (hslash t List.mem_cons_self) (.inl (hcons ▸ List.cons_ne_nil c cs))
    have hread : ofText (stem p.text) = ⟨p.root, p.dropExtension.segments.filter isName⟩ := by
      rw [stem_text hne, hdrop, ofText, rootOf_append p.root hhead, splitAll_root,
        Text.splitAll_joinWith (by simp) hslash]
    rw [hread]
    exact absoluteSegments_filter cwd p.root p.dropExtension.segments

theorem segments_normal_join (hcwd : cwd.Clean) (habsolute : cwd.isAbsolute = true)
    (hp : p.Clean) : (cwd.join p).normal.segments = cwd.absoluteSegments p := by
  have hroot : (cwd.join p).isAbsolute = true := by
    unfold join
    split
    · assumption
    · exact habsolute
  rw [normal, hroot, absoluteSegments, (hcwd.join hp).filter_isName]

theorem absoluteSegments_normal_join (hcwd : cwd.Clean) (habsolute : cwd.isAbsolute = true)
    (hp : p.Clean) (q : Path) :
    (cwd.join p).normal.absoluteSegments q = cwd.absoluteSegments (p.join q) := by
  cases hq : q.isAbsolute with
  | true =>
    rw [join_of_isAbsolute p q hq, absoluteSegments_of_isAbsolute _ hq,
      absoluteSegments_of_isAbsolute _ hq]
  | false =>
    rw [absoluteSegments_join cwd p hq, absoluteSegments, segments_join_of_relative _ q hq,
      List.filter_append, segments_normal_join hcwd habsolute hp, filter_absoluteSegments]

end Absolute

theorem specifierText_cases (steps : List Segment) :
    specifierText steps = "./" ∨ specifierText steps = ".." ∨ "./" <+: specifierText steps ∨
      "../" <+: specifierText steps := by
  cases steps with
  | nil => exact .inl rfl
  | cons s rest =>
    by_cases h : s = parent
    · subst h
      cases rest with
      | nil => exact .inr (.inl rfl)
      | cons t rest => exact .inr (.inr (.inr ⟨Text.joinWith '/' (t :: rest), rfl⟩))
    · rw [specifierText, if_neg h]
      exact .inr (.inr (.inl ⟨Text.joinWith '/' (s :: rest), rfl⟩))

/-- Specifiers begin with dots and resolve back. The target loses at most one extension, from the
text of its normal form. Only the names are compared, since two slashes in front of a path are the
same root as one. -/
theorem target_of_specifier {cwd source target specifier : Text}
    (hcwd : (ofText cwd).isAbsolute = true)
    (h : specifier? (ofText cwd) (ofText source) (ofText target) = some specifier) :
    (specifier = "./" ∨ specifier = ".." ∨ "./" <+: specifier ∨ "../" <+: specifier) ∧
      (((ofText cwd).join (ofText source)).normal.join (ofText specifier)).normal.segments =
        ((ofText cwd).join (ofText (stem (ofText target).normal.text))).normal.segments := by
  refine ⟨specifier?_eq_some h ▸ specifierText_cases _, ?_⟩
  have hclean := clean_ofText cwd
  have hdirectory := (hclean.join (clean_ofText source)).normal
  have habsolute : ((ofText cwd).join (ofText source)).normal.isAbsolute = true := by
    change ((ofText cwd).join (ofText source)).isAbsolute = true
    unfold join
    split
    · assumption
    · exact hcwd
  calc (((ofText cwd).join (ofText source)).normal.join (ofText specifier)).normal.segments
    _ = ((ofText cwd).join (ofText source)).normal.absoluteSegments (ofText specifier) :=
      segments_normal_join hdirectory habsolute (clean_ofText specifier)
    _ = (ofText cwd).absoluteSegments ((ofText source).join (ofText specifier)) :=
      absoluteSegments_normal_join hclean hcwd (clean_ofText source) _
    _ = (ofText cwd).absoluteSegments (ofText target).normal.dropExtension :=
      absoluteSegments_specifier hclean (clean_ofText source) (clean_ofText target) h
    _ = (ofText cwd).absoluteSegments (ofText (stem (ofText target).normal.text)) :=
      (absoluteSegments_ofText_stem _ (clean_ofText target).normal).symm
    _ = ((ofText cwd).join (ofText (stem (ofText target).normal.text))).normal.segments :=
      (segments_normal_join hclean hcwd (clean_ofText _)).symm

/-- From a directory below the root `//`, with a name that only begins with dots, to a target that
climbs above the root and whose last name is two dots once its extension is gone. -/
theorem target_of_specifier_dots :
    (ofText "/srv/app").isAbsolute = true ∧
      specifier? (ofText "/srv/app") (ofText "//srv/..out/./routers/")
        (ofText "../../../srv/lib/...ts") = some "../.." ∧
      ((("../.." : Text) = "./" ∨ ("../.." : Text) = ".." ∨ "./" <+: ("../.." : Text) ∨
          "../" <+: ("../.." : Text)) ∧
        (((ofText "/srv/app").join (ofText "//srv/..out/./routers/")).normal.join
            (ofText "../..")).normal.segments =
          ((ofText "/srv/app").join
            (ofText (stem (ofText "../../../srv/lib/...ts").normal.text))).normal.segments) :=
  ⟨by decide, by decide, target_of_specifier (by decide) (by decide)⟩

end RouterLayer.Path
