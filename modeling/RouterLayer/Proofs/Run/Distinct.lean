import RouterLayer.Proofs.Run.Session
import RouterLayer.Proofs.SourceFile.Scope
import RouterLayer.Proofs.Text.Case

set_option autoImplicit false

namespace RouterLayer

namespace Naming

theorem lower_routerPath {model : Text} (h : model.isAscii = true) :
    Text.lower (routerPath model) = routerPath (Text.lower model) := by
  have hfront : (routersDir ++ "/" ++ model).isAscii = true :=
    Text.isAscii_append.mpr ⟨by decide, h⟩
  have hdirectory : Text.lower (routersDir ++ "/") = routersDir ++ "/" := by decide +kernel
  have hending : Text.lower routerEnding = routerEnding := by decide +kernel
  calc Text.lower (routerPath model)
    _ = Text.lower (routersDir ++ "/" ++ model) ++ Text.lower routerEnding :=
      Text.lower_append hfront (by decide)
    _ = Text.lower (routersDir ++ "/") ++ Text.lower model ++ Text.lower routerEnding := by
      rw [Text.lower_append (by decide) h]
    _ = routerPath (Text.lower model) := by
      rw [hdirectory, hending]
      rfl

/-- A model may be called ".." and its file still lies among the routers. -/
theorem normal_routerPath {model : Text} (h : CodePoint.char '/' ∉ model) :
    (Path.ofText (routerPath model)).normal.text = routerPath model := by
  have hparent : Path.parent ∉ [routersDir, model ++ ".router.ts"] := by
    simp only [List.mem_cons, List.not_mem_nil, or_false, not_or]
    exact ⟨by decide, (Path.ne_parent_of_ending (by decide)).symm⟩
  rw [ofText_routerPath h, Path.normal, Path.resolveSegments_names hparent, routerPath,
    List.append_assoc, List.append_assoc]
  rfl

end Naming

namespace Run.Parts

variable {site : Router.Site} {d : Document} {options : Options} {p : Parts}

/-- Without regard to case, the path of a router is that of the model's key. -/
theorem nodup_lower_paths (h : p.Fit site d options)
    (hascii : ∀ model ∈ p.models, model.isAscii = true) :
    ((p.sources.map (·.path)).map Text.lower).Nodup := by
  have hrouters : (p.models.map Naming.routerPath).map Text.lower =
      (p.models.map Naming.routerKey).map Naming.routerPath := by
    rw [List.map_map, List.map_map]
    exact List.map_congr_left fun model hmodel => Naming.lower_routerPath (hascii model hmodel)
  have hpaths : (p.sources.map (·.path)).map Text.lower =
      Text.lower Router.bootstrapPath :: (p.models.map Naming.routerKey).map Naming.routerPath ++
        (if options.withShield then [Text.lower Router.shieldPath] else []) ++
        [Text.lower Router.appPath] := by
    rw [paths_sources h, List.map_append, List.map_append, List.map_cons, hrouters]
    cases options.withShield <;> rfl
  rw [hpaths]
  exact Naming.nodup_routerPaths (nodup_models h).1 (by decide +kernel) (by decide +kernel) _

theorem normal_paths (h : p.Fit site d options)
    (hslash : ∀ model ∈ p.models, CodePoint.char '/' ∉ model) :
    ∀ path ∈ p.sources.map (·.path), (Path.ofText path).normal.text = path := by
  rw [paths_sources h]
  simp only [List.cons_append, List.forall_mem_cons, List.forall_mem_append, List.forall_mem_map]
  refine ⟨by decide, ⟨fun model hmodel => Naming.normal_routerPath (hslash model hmodel), ?_⟩,
    by decide⟩
  split
  · exact List.forall_mem_singleton.mpr (by decide)
  · nofun

end Run.Parts

theorem Run.kept_generate {σ : Type} {sink : Sink σ} {s : σ} {cwd : Path} {d : Document}
    {outputDir : Text} {source : OptionSource} {delegates : Delegates} {g : Generated}
    (hg : (generate sink s cwd d outputDir source delegates).outcome = .ok g) (m : MemorySink) :
    let kept := generate MemorySink.sink m cwd d outputDir source delegates
    kept.outcome = .ok g ∧ kept.sink.files = g.files := by
  intro kept
  rw [outcome_generate] at hg
  obtain ⟨options, hvet, hperform⟩ := bind_eq_ok.mp hg
  rw [outcome_perform] at hperform
  obtain ⟨_, _, hperform⟩ := bind_eq_ok.mp hperform
  obtain ⟨_, hdelegates, hperform⟩ := bind_eq_ok.mp hperform
  obtain ⟨generated, hbuild, hperform⟩ := bind_eq_ok.mp hperform
  obtain ⟨_, _, hperform⟩ := bind_eq_ok.mp hperform
  cases hperform
  have hkept : kept.outcome = .ok g := by
    rw [outcome_generate_memory, hvet]
    refine bind_eq_ok.mpr ⟨options, rfl, bind_eq_ok.mpr ⟨(), ?_, hbuild⟩⟩
    rw [outcome_callDelegates]
    exact hdelegates
  have hsink := (sink_generate (rfl : _ = kept)).2
  rw [hkept] at hsink
  exact ⟨hkept, congrArg MemorySink.files hsink⟩

/-- The files of a run that returns have paths of their own. A sink in memory ends up with as many
files as there are sources, and under each path it holds the source of that path, rendered. If all
models have ASCII names without slashes, the paths differ by more than their case, and each of them
is its own normal form. -/
theorem distinct_generate {σ : Type} (sink : Sink σ) (s : σ) (cwd : Path) (d : Document)
    (outputDir : Text) (source : OptionSource) (delegates : Delegates) (g : Generated)
    (hg : (generate sink s cwd d outputDir source delegates).outcome = .ok g) :
    g.paths.Nodup ∧ (∀ f ∈ g.sources, g.source? f.path = some f) ∧
      (∀ m : MemorySink,
        let kept := generate MemorySink.sink m cwd d outputDir source delegates
        kept.outcome = .ok g ∧ kept.sink.files.length = g.sources.length ∧
          ∀ path, kept.sink.files.find? path = (g.source? path).map SourceFile.render) ∧
      ((∀ r ∈ g.routers, r.model.isAscii = true ∧ CodePoint.char '/' ∉ r.model) →
        (g.paths.map Text.lower).Nodup ∧
          ∀ path ∈ g.paths, (Path.ofText path).normal.text = path) := by
  obtain ⟨options, _, hbuild⟩ := Run.generate_ok _ _ _ _ _ _ _ hg
  have hpaths : g.paths.Nodup := Run.nodup_paths hbuild
  refine ⟨hpaths, fun f hf => ?_, fun m => ?_, fun hnames => ?_⟩
  · exact (Generated.source?_eq_some hpaths).mpr ⟨hf, rfl⟩
  · obtain ⟨houtcome, hfiles⟩ := Run.kept_generate hg m
    refine ⟨houtcome, ?_, fun path => ?_⟩
    · rw [hfiles, Generated.files, List.length_map]
    · rw [hfiles, Generated.find?_files]
  · obtain ⟨p, hfit, rfl⟩ := Run.build_ok hbuild
    have hmodels : ∀ model ∈ p.models, model.isAscii = true ∧ CodePoint.char '/' ∉ model :=
      fun model hmodel => hnames _ (List.mem_map_of_mem hmodel)
    exact ⟨Run.Parts.nodup_lower_paths hfit fun model hmodel => (hmodels model hmodel).1,
      Run.Parts.normal_paths hfit fun model hmodel => (hmodels model hmodel).2⟩

/-- Models that are called like a fixed file, like a step to the parent, and like each other but for
one letter. -/
def Run.lookalikes : Document where
  models := [⟨.str "INDEX", [], .null⟩, ⟨.str "..", [], .null⟩, ⟨.str "CreateRouter", [], .null⟩,
    ⟨.str "createRoute", [], .null⟩]
  mappings := []
  generators := [⟨.str "client", .str "prisma-client-js", []⟩]
  schemaPath := .null
  options := []

theorem distinct_generate_lookalikes :
    ∃ g, (generate MemorySink.sink .empty ⟨.single, ["work"]⟩ Run.lookalikes "out" .ofDocument
        .none).outcome = .ok g ∧
      g.paths = (["routers/helpers/createRouter.ts", "routers/INDEX.router.ts",
        "routers/...router.ts", "routers/CreateRouter.router.ts", "routers/createRoute.router.ts",
        "shield/shield.ts", "routers/index.ts"] : List Text) ∧
      (generate MemorySink.sink .empty ⟨.single, ["work"]⟩ Run.lookalikes "out" .ofDocument
        .none).sink.files.length = 7 ∧
      (g.paths.map Text.lower).Nodup ∧ ∀ path ∈ g.paths, (Path.ofText path).normal.text = path := by
  have hrun : (generate MemorySink.sink .empty ⟨.single, ["work"]⟩ Run.lookalikes "out" .ofDocument
      .none).outcome.map (fun g => (g.routers.map (·.model), g.paths)) =
      .ok (["INDEX", "..", "CreateRouter", "createRoute"], ["routers/helpers/createRouter.ts",
        "routers/INDEX.router.ts", "routers/...router.ts", "routers/CreateRouter.router.ts",
        "routers/createRoute.router.ts", "shield/shield.ts", "routers/index.ts"]) := by
    decide +kernel
  obtain ⟨g, hg, hsummary⟩ := map_eq_ok.mp hrun
  obtain ⟨hmodels, hpaths⟩ := Prod.mk.inj hsummary
  obtain ⟨_, _, hkept, hcase⟩ := distinct_generate MemorySink.sink .empty ⟨.single, ["work"]⟩
    Run.lookalikes "out" .ofDocument .none g hg
  have hplain : ∀ model ∈ g.routers.map (·.model),
      model.isAscii = true ∧ CodePoint.char '/' ∉ model := by
    rw [hmodels]
    decide
  refine ⟨g, hg, hpaths, ?_, hcase fun r hr => hplain _ (List.mem_map_of_mem hr)⟩
  have hcount : g.sources.length = g.paths.length := (List.length_map _).symm
  rw [(hkept .empty).2.1, hcount, hpaths]
  rfl

end RouterLayer
