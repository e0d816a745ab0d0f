import RouterLayer.Proofs.Run.PlainPaths
import RouterLayer.Proofs.Sink.Confined
import RouterLayer.Proofs.Sink.Delivery

set_option autoImplicit false

namespace RouterLayer

namespace Naming

/-- The double dots in the name lead out of the directory that the path of the router starts in. -/
def Climbs (model : Text) : Prop := (Path.ofText (routerPath model)).Climbs

instance (model : Text) : Decidable (Climbs model) :=
  inferInstanceAs (Decidable (Path.Climbs _))

/-- The last name of a router's path ends as the path does, whatever slashes are in the model's
name. -/
theorem endsInName_routerPath (model : Text) : (Path.ofText (routerPath model)).EndsInName := by
  have hcons : routerPath model = CodePoint.char 'r' :: (routerPath model).tail := rfl
  have hroot : (Path.ofText (routerPath model)).root = .none :=
    (congrArg Path.rootOf hcons).trans (Path.rootOf_cons (by decide))
  refine ⟨Path.clean_ofText _, hroot, ?_⟩
  cases hsplit : Text.splitAll '/' (routersDir ++ "/" ++ model) using List.reverseRecOn with
  | nil => exact absurd hsplit (Text.splitAll_ne_nil '/' _)
  | append_singleton init last =>
    have hpieces : ∀ piece ∈ init ++ [last], CodePoint.char '/' ∉ piece := fun piece hpiece =>
      Text.not_mem_of_mem_splitAll (hsplit ▸ hpiece)
    obtain ⟨hinit, hlast⟩ := List.forall_mem_append.mp hpieces
    rw [List.forall_mem_singleton] at hlast
    have hclean : (Path.mk .none [last ++ routerEnding]).Clean :=
      Path.clean_ending hlast (by decide) (by decide)
    have hslash : ∀ piece ∈ init ++ [last ++ routerEnding], CodePoint.char '/' ∉ piece :=
      List.forall_mem_append.mpr ⟨hinit, hclean.noSlash⟩
    have hpath : routerPath model = Text.joinWith '/' (init ++ [last ++ routerEnding]) := by
      rw [Path.joinWith_append_singleton, ← hsplit, Text.joinWith_splitAll]
      rfl
    refine ⟨init.filter Path.isName, last ++ routerEnding, ?_,
      Path.ne_parent_of_ending (by decide)⟩
    rw [Path.ofText, hpath, Text.splitAll_joinWith (by simp) hslash, List.filter_append]
    exact congrArg _ hclean.filter_isName

end Naming

namespace Run

section Paths

variable {site : Router.Site} {d : Document} {options : Options} {g : Generated}

theorem endsInName_fixed : ∀ path ∈ [Router.bootstrapPath, Router.shieldPath, Router.appPath],
    (Path.ofText path).EndsInName ∧ ¬(Path.ofText path).Climbs := by
  have hends {path : Text} (hroot : (Path.ofText path).root = .none) {name : Segment}
      (hlast : (Path.ofText path).segments.getLast? = some name) (hname : name ≠ Path.parent) :
      (Path.ofText path).EndsInName := by
    obtain ⟨init, hinit⟩ := List.getLast?_eq_some_iff.mp hlast
    exact ⟨Path.clean_ofText path, hroot, init, name, hinit, hname⟩
  simp only [List.forall_mem_cons]
  refine ⟨⟨hends rfl rfl (by decide), by decide⟩, ⟨hends rfl rfl (by decide), by decide⟩,
    ⟨hends rfl rfl (by decide), by decide⟩, nofun⟩

theorem endsInName_paths (h : (build site d options).outcome = .ok g)
    (hlevel : ∀ m ∈ d.visible, ∀ model, m.name = .str model → ¬Naming.Climbs model) :
    ∀ path ∈ g.paths, (Path.ofText path).EndsInName ∧ ¬(Path.ofText path).Climbs := by
  obtain ⟨p, hfit, rfl⟩ := build_ok h
  refine Parts.forall_paths hfit endsInName_fixed fun model hmodel => ?_
  obtain ⟨m, hm, hname⟩ := Parts.exists_visible hfit hmodel
  exact ⟨Naming.endsInName_routerPath model, hlevel m hm model hname⟩

end Paths

/-- Where the sink is after a run: where it was before, or where the reset left it, or where saving
the files of the run left it. -/
theorem sink_cases {σ : Type} (sink : Sink σ) (s : σ) (cwd : Path) (d : Document)
    (outputDir : Text) (source : OptionSource) (delegates : Delegates) :
    let after := (generate sink s cwd d outputDir source delegates).sink
    after = s ∨ after = (sink.reset s).state ∨
      ∃ empty options g, sink.reset s = ⟨empty, .ok ()⟩ ∧
        (build ⟨cwd, Path.ofText outputDir⟩ d options).outcome = .ok g ∧
        after = (deliver sink empty g.files).state := by
  unfold generate
  cases source.resolve d with
  | error e => exact .inl rfl
  | ok options =>
  cases d.clientGenerator with
  | error e => exact .inl rfl
  | ok client =>
  dsimp only
  unfold perform
  cases hreset : sink.reset s with
  | mk empty outcome =>
  cases outcome with
  | error e => exact .inr (.inl rfl)
  | ok _ =>
  dsimp only
  split
  · exact .inr (.inl rfl)
  · split
    · exact .inr (.inl rfl)
    · next g hbuild =>
      refine .inr (.inr ⟨empty, options, g, rfl, hbuild, ?_⟩)
      split <;> rfl

end Run

open FileTree

/-- What a run may do to a tree: nothing outside its output directory, except for directories that
it makes. Every path that it hands to a sink stays strictly below that directory, from wherever the
path of the directory is reckoned. -/
def KeepsWithin (t : FileTree) (cwd : Path) (d : Document) (root : Path) (u : FileTree) : Prop :=
  Confined (t.Inside root) t u ∧
    ∀ options g, (Run.build ⟨cwd, root⟩ d options).outcome = .ok g → ∀ path ∈ g.paths,
      ∀ base : Path, isBelow (base.absoluteSegments root)
        (base.absoluteSegments (FileSink.pathOf root path)) = true

/-- A run into a directory without links keeps within it, however it ends, if no visible model has a
name that climbs. Such a name is one whose router leaves some directory. -/
theorem confined_generate {s : FileSink} (cwd : Path) {d : Document} {outputDir : Text}
    (source : OptionSource) (delegates : Delegates) (hs : s.tree.WellFormed)
    (hunlinked : ∀ other target, s.tree.Inside (Path.ofText outputDir) other →
      s.tree.find? other ≠ some (.link target))
    (hlevel : ∀ m ∈ d.visible, ∀ model, m.name = .str model → ¬Naming.Climbs model) :
    KeepsWithin s.tree cwd d (Path.ofText outputDir)
        (generate (FileSink.sink (Path.ofText outputDir)) s cwd d outputDir source
          delegates).sink.tree ∧
      ∀ (model : Text) (base : Path), Naming.Climbs model ↔ ∃ root : Path, root.Clean ∧
        isBelow (base.absoluteSegments root)
          (base.absoluteSegments (FileSink.pathOf root (Naming.routerPath model))) = false := by
  have hroot := Path.clean_ofText outputDir
  refine ⟨⟨?_, fun options g hbuild path hpath base => ?_⟩, fun model base => ?_⟩
  · rcases Run.sink_cases (FileSink.sink (Path.ofText outputDir)) s cwd d outputDir source
      delegates with hsame | hreset | ⟨empty, options, g, hreset, hbuild, hdelivered⟩
    · rw [hsame]
      exact .refl hunlinked
    · rw [hreset]
      exact FileSink.confined_reset hs hroot hunlinked
    · obtain ⟨hempty, -⟩ := FileSink.reset_ok hs hroot hreset
      have hpaths := Run.endsInName_paths hbuild hlevel
      have hmerge : OrderedMap.merge empty.pending g.files = g.files := by
        rw [hempty]
        exact OrderedMap.merge_of_nodup (Run.nodup_files hbuild)
      rw [hdelivered, FileSink.deliver_eq, hmerge]
      have hmem (f : Text × Text) (hf : f ∈ g.files) : f.1 ∈ g.paths :=
        g.keys_files ▸ List.mem_map_of_mem hf
      exact FileSink.confined_save hs hroot hunlinked hreset
        (fun f hf => (hpaths f.1 (hmem f hf)).1) fun f hf => (hpaths f.1 (hmem f hf)).2
  · obtain ⟨hends, hstays⟩ := Run.endsInName_paths hbuild hlevel path hpath
    exact Path.isBelow_join hends hstays base (Path.ofText outputDir)
  · exact Path.climbs_iff (Naming.endsInName_routerPath model) base

namespace Run

/-- An output directory with an old file, beside a file and a link that are not part of it. -/
def yard : FileTree where
  cwd := ["work"]
  entries := [(["work"], .directory), (["work", "user.router.ts"], .file "export {};"),
    (["work", "up"], .link ⟨false, [".."]⟩), (["work", "out"], .directory),
    (["work", "out", "old.ts"], .file "")]

def oneModel (name : Text) : Document :=
  ⟨[⟨.str name, [], .null⟩], [], [⟨.null, .str "prisma-client-js", []⟩], .null, []⟩

def bare : Options := { Options.default with withZod := false, withShield := false }

def yardRun (name : Text) : Report FileSink :=
  generate (FileSink.sink (Path.ofText "out")) ⟨yard, []⟩ (Path.ofText "/work") (oneModel name)
    "out" (.checked bare) .none

theorem wellFormed_yard : yard.WellFormed :=
  ⟨by decide +kernel, by decide +kernel, by decide +kernel⟩

theorem locate_yard : yard.locate .target (Path.ofText "out").text = .ok ["work", "out"] := by
  decide +kernel

theorem unlinked_yard : ∀ other target, yard.Inside (Path.ofText "out") other →
    yard.find? other ≠ some (.link target) :=
  unlinked_of_locate wellFormed_yard (Path.clean_ofText "out") locate_yard (by decide +kernel)

end Run

/-- A name may go up as far as it has gone down. -/
theorem confined_generate_dotted :
    Run.yard.WellFormed ∧
      (∀ other target, Run.yard.Inside (Path.ofText "out") other →
        Run.yard.find? other ≠ some (.link target)) ∧
      ¬Naming.Climbs "a/../user" ∧ (Run.yardRun "a/../user").outcome.isOk = true ∧
      ((Run.yardRun "a/../user").sink.tree.find?
        ["work", "out", "routers", "user.router.ts"]).isSome = true ∧
      KeepsWithin Run.yard (Path.ofText "/work") (Run.oneModel "a/../user") (Path.ofText "out")
        (Run.yardRun "a/../user").sink.tree := by
  have hlevel : ¬Naming.Climbs "a/../user" := by decide +kernel
  have hrun : (Run.yardRun "a/../user").outcome.isOk = true ∧
      ((Run.yardRun "a/../user").sink.tree.find?
        ["work", "out", "routers", "user.router.ts"]).isSome = true := by decide +kernel
  refine ⟨Run.wellFormed_yard, Run.unlinked_yard, hlevel, hrun.1, hrun.2, ?_⟩
  refine (confined_generate (s := ⟨Run.yard, []⟩) (Path.ofText "/work") (.checked Run.bare) .none
    Run.wellFormed_yard Run.unlinked_yard fun m hm model hname => ?_).1
  rw [List.mem_singleton.mp (List.mem_of_mem_filter hm)] at hname
  cases hname
  exact hlevel

/-- The router of a model is written over a file that is no part of the output directory. -/
theorem not_confined_generate :
    ¬∀ (s : FileSink) (cwd : Path) (d : Document) (outputDir : Text) (source : OptionSource)
      (delegates : Delegates), s.tree.WellFormed →
      (∀ other target, s.tree.Inside (Path.ofText outputDir) other →
        s.tree.find? other ≠ some (.link target)) →
      KeepsWithin s.tree cwd d (Path.ofText outputDir)
        (generate (FileSink.sink (Path.ofText outputDir)) s cwd d outputDir source
          delegates).sink.tree := by
  intro h
  have hkeeps : KeepsWithin Run.yard (Path.ofText "/work") (Run.oneModel "../../user")
      (Path.ofText "out") (Run.yardRun "../../user").sink.tree :=
    h ⟨Run.yard, []⟩ (Path.ofText "/work") (Run.oneModel "../../user") "out" (.checked Run.bare)
      .none Run.wellFormed_yard Run.unlinked_yard
  have hplace := (leads_of_locate (Path.clean_ofText "out") (by decide) Run.locate_yard).points
  have houtside : ¬Run.yard.Inside (Path.ofText "out") ["work", "user.router.ts"] := by
    rw [inside_iff hplace]
    decide
  have hkept := hkeeps.1.kept _ _ houtside
    (by decide +kernel : Run.yard.find? ["work", "user.router.ts"] = some (.file "export {};"))
  exact absurd hkept (by decide +kernel)

end RouterLayer
