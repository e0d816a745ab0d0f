import RouterLayer.Proofs.Path.Drive
import RouterLayer.Proofs.Path.Target

/-!
What a specifier stands for where modules are resolved. A dot, two dots or nothing behind the last
slash stands for the index of a directory, any other name for a module. The extension of a target
is taken away before the steps to it are counted, so a file that is named like the directory that
imports it, or like one around that, is taken for the directory (`designation_specifier`).
-/

set_option autoImplicit false

namespace RouterLayer

theorem Text.afterLast_append {front piece : Text} (hfront : ∀ c ∈ front.getLast?, c = .char '/')
    (hpiece : CodePoint.char '/' ∉ piece) : afterLast '/' (front ++ piece) = piece := by
  have hall : ∀ c ∈ piece.reverse, decide (c ≠ CodePoint.char '/') = true := by
    intro c hc
    rw [List.mem_reverse] at hc
    exact decide_eq_true fun h => hpiece (h ▸ hc)
  have hnone : front.reverse.takeWhile (fun c => decide (c ≠ CodePoint.char '/')) = [] := by
    rw [← List.head?_reverse] at hfront
    cases hreverse : front.reverse with
    | nil => rfl
    | cons c rest =>
      have hc : c = .char '/' := hfront c (by rw [hreverse]; rfl)
      rw [List.takeWhile_cons, hc]
      rfl
  rw [afterLast, List.reverse_append, List.takeWhile_append_of_pos hall, hnone, List.append_nil,
    List.reverse_reverse]

namespace Path

section Steps

variable {source target front init : List Segment} {s : Segment}

theorem stepsBetween_of_isPrefix (h : target <+: source) :
    stepsBetween source target = List.replicate (source.length - target.length) parent := by
  obtain ⟨rest, rfl⟩ := h
  have hsteps := stepsBetween_append target rest []
  rw [List.append_nil] at hsteps
  rw [hsteps, List.length_append, Nat.add_sub_cancel_left]
  cases rest <;> simp [stepsBetween]

theorem stepsBetween_of_not_isPrefix (h : ¬front ++ [s] <+: source) :
    ∃ init, stepsBetween source (front ++ [s]) = init ++ [s] := by
  induction source generalizing front with
  | nil =>
    refine ⟨front, ?_⟩
    cases front <;> rfl
  | cons a source ih =>
    cases front with
    | nil =>
      have hne : a ≠ s := by
        rintro rfl
        exact h ⟨source, rfl⟩
      exact ⟨List.replicate (source.length + 1) parent, by simp [stepsBetween, hne]⟩
    | cons b front =>
      by_cases hab : a = b
      · subst hab
        obtain ⟨init, hinit⟩ := ih fun hprefix => h ((List.prefix_cons_inj a).mpr hprefix)
        exact ⟨init, by rw [List.cons_append, stepsBetween, if_pos rfl, hinit]⟩
      · refine ⟨List.replicate (source.length + 1) parent ++ b :: front, ?_⟩
        rw [List.cons_append, stepsBetween, if_neg hab]
        simp

theorem afterLast_specifierText (hs : CodePoint.char '/' ∉ s) :
    Text.afterLast '/' (specifierText (init ++ [s])) = s := by
  have hjoin (steps : List Segment) :
      Text.afterLast '/' (Text.joinWith '/' (steps ++ [s])) = s := by
    have hfront : Text.joinWith '/' (steps ++ [s]) = Text.joinWith '/' (steps ++ [[]]) ++ s :=
      joinWith_append_singleton steps [] s
    rw [hfront]
    exact Text.afterLast_append (getLast_joinWith steps) hs
  obtain ⟨t, rest, hsteps⟩ := List.exists_cons_of_ne_nil
    (List.append_ne_nil_of_right_ne_nil init (List.cons_ne_nil s []))
  have htext : specifierText (init ++ [s]) = Text.joinWith '/' (init ++ [s]) ∨
      specifierText (init ++ [s]) = Text.joinWith '/' (here :: init ++ [s]) := by
    rw [List.cons_append, hsteps, specifierText]
    split
    · exact .inl rfl
    · exact .inr rfl
  rcases htext with htext | htext <;> rw [htext]
  · exact hjoin init
  · exact hjoin (here :: init)

end Steps

inductive Designation
  | module (place : List Segment)
  | index (directory : List Segment)
  deriving DecidableEq, Repr

/-- Behind the last slash of a specifier these stand for a directory. -/
def isDirectoryName (s : Segment) : Bool := s = [] || s = here || s = parent

theorem isDirectoryName_of_isPrefix {source target : List Segment} (h : target <+: source) :
    isDirectoryName (Text.afterLast '/' (specifierText (stepsBetween source target))) = true := by
  rw [stepsBetween_of_isPrefix h]
  cases source.length - target.length with
  | zero => decide
  | succ n =>
    rw [List.replicate_succ', afterLast_specifierText (by decide)]
    decide

def designation (cwd source : Path) (specifier : Text) : Designation :=
  let place := cwd.absoluteSegments (source.join (ofText specifier))
  if isDirectoryName (Text.afterLast '/' specifier) then .index place else .module place

section Extension

variable {s : Segment} {name ending : Text}

theorem extension_suffix_free : ∀ e ∈ moduleExtensions, ∀ e' ∈ moduleExtensions,
    e.isSuffixOf e' = true → e = e' := by decide

theorem stem_append_extension (h : ending ∈ moduleExtensions) : stem (name ++ ending) = name := by
  have hself := stem_append_extensionOf (name ++ ending)
  suffices hending : extensionOf (name ++ ending) = ending by
    rw [hending] at hself
    exact List.append_cancel_right hself
  unfold extensionOf
  cases hfind : moduleExtensions.find? (·.isSuffixOf (name ++ ending)) with
  | none =>
    have hnone := List.find?_eq_none.mp hfind ending h
    exact absurd (List.isSuffixOf_iff_suffix.mpr (List.suffix_append name ending)) hnone
  | some e =>
    have hmem := List.mem_of_find?_eq_some hfind
    have hends := List.find?_some hfind
    have hsuffix := List.isSuffixOf_iff_suffix.mp hends
    rcases List.suffix_or_suffix_of_suffix hsuffix (List.suffix_append name ending) with h' | h'
    · exact extension_suffix_free e hmem ending h (List.isSuffixOf_iff_suffix.mpr h')
    · exact (extension_suffix_free ending h e hmem (List.isSuffixOf_iff_suffix.mpr h')).symm

theorem absoluteSegments_concat (cwd : Path) (root : Root) (init : List Segment)
    (hname : isName s = true) (hparent : s ≠ parent) :
    cwd.absoluteSegments ⟨root, init ++ [s]⟩ = cwd.absoluteSegments ⟨root, init⟩ ++ [s] := by
  have hjoin : Path.mk root (init ++ [s]) = (Path.mk root init).join ⟨.none, [s]⟩ := rfl
  rw [hjoin, absoluteSegments_join cwd _ rfl, List.filter_eq_self.mpr (by simpa using hname),
    resolveSegments_concat hparent, resolveSegments_names (parent_not_mem_absoluteSegments _ _)]

theorem not_isDirectoryName (h : isDirectoryName s = false) :
    isName s = true ∧ s ≠ parent := by
  simp_all [isDirectoryName, isName]

end Extension

theorem dropExtension_normal (cwd : Path) {target : Path} {name ending : Text}
    (htarget : target.Clean)
    (hlast : target.normal.segments.getLast? = some (name ++ ending))
    (hending : ending ∈ moduleExtensions) (hname : isDirectoryName name = false) :
    ∃ init, target.normal.dropExtension = ⟨target.root, init ++ [name]⟩ ∧
      cwd.absoluteSegments target = cwd.absoluteSegments ⟨target.root, init⟩ ++ [name ++ ending] ∧
      cwd.absoluteSegments target.normal.dropExtension =
        cwd.absoluteSegments ⟨target.root, init⟩ ++ [name] := by
  obtain ⟨init, hinit⟩ := List.getLast?_eq_some_iff.mp hlast
  obtain ⟨hproper, hparent⟩ := not_isDirectoryName hname
  have hdrop : target.normal.dropExtension = ⟨target.root, init ++ [name]⟩ := by
    rw [dropExtension, hinit, mapLast_append_singleton, stem_append_extension hending]
    rfl
  have hnormal : target.normal = ⟨target.root, init ++ [name ++ ending]⟩ :=
    congrArg (Path.mk target.root) hinit
  have hfile : isName (name ++ ending) = true :=
    htarget.normal.isName _ (by rw [hinit]; simp)
  have hclimb : name ++ ending ≠ parent := by
    have hall : ∀ e ∈ moduleExtensions, ¬e <:+ parent := by decide
    exact fun h => hall ending hending (h ▸ List.suffix_append name ending)
  refine ⟨init, hdrop, ?_, ?_⟩
  · rw [← absoluteSegments_normal cwd htarget, hnormal,
      absoluteSegments_concat cwd _ init hfile hclimb]
  · rw [hdrop, absoluteSegments_concat cwd _ init hproper hparent]

/-- The specifier of a file ends in the file's name and stands for the file, unless the file without
its extension has the place of the importing directory or of one around it: then the specifier
stands for that directory. -/
theorem designation_specifier {cwd source target : Path} {name ending : Text} (hcwd : cwd.Clean)
    (hsource : source.Clean) (htarget : target.Clean)
    (hlast : target.normal.segments.getLast? = some (name ++ ending))
    (hending : ending ∈ moduleExtensions) (hname : isDirectoryName name = false) :
    ∃ specifier directory, specifier? cwd source target = some specifier ∧
      cwd.absoluteSegments target = directory ++ [name ++ ending] ∧
      (Text.afterLast '/' specifier = name ↔
        ¬directory ++ [name] <+: cwd.absoluteSegments source) ∧
      (designation cwd source specifier = .module (directory ++ [name]) ↔
        ¬directory ++ [name] <+: cwd.absoluteSegments source) ∧
      (designation cwd source specifier = .index (directory ++ [name]) ↔
        directory ++ [name] <+: cwd.absoluteSegments source) := by
  obtain ⟨init, hdrop, hplace, hstem⟩ :=
    dropExtension_normal cwd htarget hlast hending hname
  have hslash : CodePoint.char '/' ∉ name := by
    have hnames := noSlash_dropExtension htarget.normal.noSlash
    rw [hdrop] at hnames
    exact hnames name (by simp)
  obtain ⟨specifier, hspecifier⟩ : ∃ specifier, specifier? cwd source target = some specifier := by
    refine ⟨_, if_neg fun hnone => ?_⟩
    rw [hdrop] at hnone
    obtain ⟨-, hsegments⟩ := Path.mk.inj hnone
    have hsingle : init ++ [name] = [] ++ [[]] := hsegments
    obtain ⟨-, hnil⟩ := List.append_inj' hsingle rfl
    rw [List.singleton_inj.mp hnil] at hname
    cases hname
  have htext := specifier?_eq_some hspecifier
  rw [hstem, absoluteSegments_normal cwd hsource] at htext
  have hto := absoluteSegments_specifier hcwd hsource htarget hspecifier
  rw [hstem] at hto
  generalize cwd.absoluteSegments ⟨target.root, init⟩ = directory at *
  refine ⟨specifier, directory, hspecifier, hplace, ?_⟩
  unfold designation
  dsimp only
  rw [hto]
  by_cases haround : directory ++ [name] <+: cwd.absoluteSegments source
  · have hdirectory : isDirectoryName (Text.afterLast '/' specifier) = true := by
      rw [htext]
      exact isDirectoryName_of_isPrefix haround
    have hother : Text.afterLast '/' specifier ≠ name := by
      rintro rfl
      rw [hname] at hdirectory
      cases hdirectory
    simp [hdirectory, hother, haround]
  · obtain ⟨steps, hsteps⟩ := stepsBetween_of_not_isPrefix haround
    have hself : Text.afterLast '/' specifier = name := by
      rw [htext, hsteps, afterLast_specifierText hslash]
    simp [hself, hname, haround]

/-- From below the directory that the module is named like, in the notation with drives. -/
theorem designation_specifier_around :
    let cwd := ofText "/srv/app"
    let source := ofDriveText "D:\\out\\routers\\helpers"
    let target := ofDriveText "D:/out/./routers.tsx"
    let name : Text := "routers"
    let ending : Text := ".tsx"
    target.normal.segments.getLast? = some (name ++ ending) ∧ ending ∈ moduleExtensions ∧
      isDirectoryName name = false ∧
      ∃ specifier directory, specifier? cwd source target = some specifier ∧
        cwd.absoluteSegments target = directory ++ [name ++ ending] ∧
        (Text.afterLast '/' specifier = name ↔
          ¬directory ++ [name] <+: cwd.absoluteSegments source) ∧
        (designation cwd source specifier = .module (directory ++ [name]) ↔
          ¬directory ++ [name] <+: cwd.absoluteSegments source) ∧
        (designation cwd source specifier = .index (directory ++ [name]) ↔
          directory ++ [name] <+: cwd.absoluteSegments source) :=
  ⟨by decide, by decide, by decide,
    designation_specifier (clean_ofText _) (clean_ofDriveText _) (clean_ofDriveText _) (by decide)
      (by decide) (by decide)⟩

/-- The module `routers.ts` beside the directory `routers` that imports it. -/
theorem not_afterLast_specifier :
    ¬∀ (cwd source target : Path) (name ending : Text), cwd.Clean → source.Clean → target.Clean →
      target.normal.segments.getLast? = some (name ++ ending) → ending ∈ moduleExtensions →
      isDirectoryName name = false →
      ∃ specifier, specifier? cwd source target = some specifier ∧
        Text.afterLast '/' specifier = name := by
  intro h
  obtain ⟨specifier, hspecifier, hlast⟩ := h (ofText "/srv/app") (ofText "/out/routers")
    (ofText "/out/routers.ts") "routers" ".ts" (clean_ofText _) (clean_ofText _) (clean_ofText _)
    (by decide) (by decide) (by decide)
  have hhere : specifier? (ofText "/srv/app") (ofText "/out/routers") (ofText "/out/routers.ts") =
      some "./" := by decide
  rw [hhere] at hspecifier
  cases hspecifier
  revert hlast
  decide

end Path

end RouterLayer
