import RouterLayer.Proofs.Router.Imports
import RouterLayer.Proofs.Run.Stages

set_option autoImplicit false

namespace RouterLayer

namespace Path

variable {p q : Path}

theorem isAbsolute_join (hp : p.isAbsolute = true) (q : Path) : (p.join q).isAbsolute = true := by
  unfold join
  split
  · assumption
  · exact hp

theorem isAbsolute_configured (hp : p.isAbsolute = true) (q : Path) :
    (configured p q).isAbsolute = true := by
  unfold configured
  split
  · assumption
  · exact isAbsolute_join hp q

theorem specifier?_of_isAbsolute (cwd cwd' : Path) (hp : p.isAbsolute = true)
    (hq : q.isAbsolute = true) : specifier? cwd p q = specifier? cwd' p q := by
  have hsource : p.normal.isAbsolute = true := hp
  have htarget : q.normal.dropExtension.isAbsolute = true := hq
  unfold specifier?
  dsimp only
  rw [absoluteSegments_of_isAbsolute cwd hsource, absoluteSegments_of_isAbsolute cwd htarget,
    absoluteSegments_of_isAbsolute cwd' hsource, absoluteSegments_of_isAbsolute cwd' htarget]

end Path

namespace Router

theorem configuredSpecifier_of_isAbsolute (cwd cwd' : Path) {output : Path}
    (h : output.isAbsolute = true) :
    configuredSpecifier ⟨cwd, output⟩ = configuredSpecifier ⟨cwd', output⟩ := by
  funext dir path
  unfold configuredSpecifier specifier
  rw [Path.specifier?_of_isAbsolute cwd cwd' (Path.isAbsolute_join h _)
    (Path.isAbsolute_configured h _)]

section

variable {site site' : Site} (h : configuredSpecifier site = configuredSpecifier site')
include h

/-- The import of the permissions is reckoned from two relative paths, but it is a fixed one. -/
theorem bootstrapFile_congr (options : Options) :
    bootstrapFile site options = bootstrapFile site' options := by
  unfold bootstrapFile
  rw [bootstrapImports_eq, bootstrapImports_eq]
  unfold optionalImport
  rw [h]

theorem fileOf_congr (name : Json) (operations : List ResolvedOperation)
    (notifications : List Text) (options : Options) :
    fileOf site name operations notifications options =
      fileOf site' name operations notifications options := by
  unfold fileOf modelFile
  rw [h]

theorem policyFile_congr (m : PermissionMatrix) (options : Options) :
    Policy.policyFile site m options = Policy.policyFile site' m options := by
  unfold Policy.policyFile Policy.policyImports
  rw [h]

end

end Router

/-- All that a run takes from its site are the specifiers of the configured paths. -/
theorem Run.build_congr {site site' : Router.Site}
    (h : Router.configuredSpecifier site = Router.configuredSpecifier site') (d : Document)
    (options : Options) : build site d options = build site' d options := by
  have hmodel : buildModel site d options = buildModel site' d options := by
    funext m
    unfold buildModel
    dsimp only
    rw [Router.fileOf_congr h]
  have hpolicy : buildPolicy site options = buildPolicy site' options := by
    funext models
    unfold buildPolicy
    dsimp only
    rw [Router.policyFile_congr h]
  unfold build
  rw [Router.bootstrapFile_congr h, hmodel, hpolicy]

/-- A run into an absolute directory leaves the same files, records and calls behind, and ends in
the same way, whatever the working directory is. -/
theorem generate_anywhere {σ : Type} (sink : Sink σ) (s : σ) (cwd cwd' : Path) (d : Document)
    (outputDir : Text) (source : OptionSource) (delegates : Delegates)
    (h : (Path.ofText outputDir).isAbsolute = true) :
    generate sink s cwd d outputDir source delegates =
      generate sink s cwd' d outputDir source delegates := by
  have hspecifiers := Router.configuredSpecifier_of_isAbsolute cwd cwd' h
  have hperform (options : Options) :
      Run.perform sink s ⟨cwd, Path.ofText outputDir⟩ d options delegates =
        Run.perform sink s ⟨cwd', Path.ofText outputDir⟩ d options delegates := by
    unfold Run.perform
    rw [Run.build_congr hspecifiers]
    rfl
  unfold generate
  simp only [hperform]

-- a relative directory lies where the run starts, and so do the steps up from it
example : Router.configuredSpecifier ⟨Path.ofText "/", Path.ofText "out"⟩ Naming.routersDir
      "../../../../src/context" = .ok "../../src/context" ∧
    Router.configuredSpecifier ⟨Path.ofText "/a/b/c/d", Path.ofText "out"⟩ Naming.routersDir
      "../../../../src/context" = .ok "../../../../../src/context" := by decide

namespace Run

def lone : Document where
  models := [⟨.str "User", [], .null⟩]
  mappings := [⟨.str "User", [(.findMany, .str "findManyUser")]⟩]
  generators := [⟨.str "client", .str "prisma-client-js", []⟩]
  schemaPath := .null
  options := []

/-- Every file that the options can name, below the output directory, beside it and far from it. -/
def scattered : Options :=
  { Options.default with
    contextPath := "../../lib/context"
    trpcOptionsPath := some "/etc/settings"
    middleware := .module "guard" }

end Run

/-- The second working directory bears the names of the directories of the run. -/
theorem generate_anywhere_nested :
    let run := fun cwd => generate MemorySink.sink .empty (Path.ofText cwd) Run.lone "/srv/out"
      (.checked Run.scattered) .none
    (Path.ofText "/srv/out").isAbsolute = true ∧
      (run "/work").outcome.isOk = true ∧ (run "/work").sink.files.length = 4 ∧
      run "/work" = run "/srv/out/routers/helpers/shield" :=
  ⟨by decide, by decide +kernel, by decide +kernel,
    generate_anywhere MemorySink.sink .empty (Path.ofText "/work")
      (Path.ofText "/srv/out/routers/helpers/shield") Run.lone "/srv/out" (.checked Run.scattered)
      .none (by decide)⟩

end RouterLayer
